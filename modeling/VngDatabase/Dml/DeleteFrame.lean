import VngDatabase.Dml.Direct
import VngDatabase.Fields

/-!
# Which rows a DELETE removes

The set-at-a-time `DELETE` of the direct path (`services/voltnuerongridd/src/handlers/sql.rs`) takes
the rows whose key holds the text `db.t:` anywhere, and puts a tombstone under what is left of the
key when `db.` is taken off as often as it stands there.
-/

namespace VngDatabase.Text

/-! ### Taking a text off the front -/

variable {pat : List Char}

theorem trimStartMatches_eq_self {cs : List Char} (h : ¬pat <+: cs) (n : ℕ) :
    trimStartMatches pat n cs = cs := by
  cases n with
  | zero => rfl
  | succ n =>
    have hnone : cs.dropPrefix? pat = none := by
      refine Option.eq_none_iff_forall_ne_some.mpr fun rest hrest => h ?_
      obtain ⟨pat', rfl, heq⟩ := List.dropPrefix?_eq_some_iff.mp hrest
      rw [eq_of_beq heq]
      exact List.prefix_append pat rest
    rw [trimStartMatches, hnone]
    exact ite_self cs

theorem trimStartMatches_append (hne : pat ≠ []) (n : ℕ) (cs : List Char) :
    trimStartMatches pat (n + 1) (pat ++ cs) = trimStartMatches pat n cs := by
  have hsome : (pat ++ cs).dropPrefix? pat = some cs :=
    List.dropPrefix?_eq_some_iff.mpr ⟨pat, rfl, beq_self_eq_true _⟩
  rw [trimStartMatches, if_neg hne, hsome]

theorem not_prefix_trimStartMatches (hne : pat ≠ []) {n : ℕ} {cs : List Char}
    (h : cs.length ≤ n) : ¬pat <+: trimStartMatches pat n cs := by
  induction n generalizing cs with
  | zero =>
    rw [List.length_eq_zero_iff.mp (Nat.le_zero.mp h)]
    exact mt List.prefix_nil.mp hne
  | succ n ih =>
    by_cases hpat : pat <+: cs
    · obtain ⟨rest, rfl⟩ := hpat
      rw [trimStartMatches_append hne]
      have hpos := List.length_pos_of_ne_nil hne
      rw [List.length_append] at h
      exact ih (by omega)
    · rwa [trimStartMatches_eq_self hpat]

end VngDatabase.Text

namespace VngDatabase.Dml

open Store Sql Text Overlay

variable {E : Type} [DurabilityEngine E]

/-! ### The rows that are meant -/

def IsTarget (t : DeleteTarget) (db : String) (st : State E) (key : String) : Prop :=
  (∃ id, key = dbPrefixKey db (t.table ++ ":" ++ id)) ∧
    ∃ data, st.rowStore.readLatest key = some data ∧ data.lookup t.whereCol = some t.whereVal

def tombstoneKey (db key : String) : String :=
  String.ofList (trimStartMatches (dbPrefixKey db "").toList key.toList.length key.toList)

def scannedRows (t : DeleteTarget) (db : String) (st : State E) : List (String × RowData) :=
  (st.scanRows db).filter (matchesDelete t db)

theorem mem_scannedRows_iff {t : DeleteTarget} {db : String} {st : State E}
    {row : String × RowData} :
    row ∈ scannedRows t db st ↔ row ∈ st.scanRows db ∧ matchesDelete t db row := List.mem_filter

/-- **Exactly the rows that are meant are removed.** -/
structure DeletesTargets [Unicode] (validate : String → RowData → Except String Unit)
    (t : DeleteTarget) (db stmt : String) (st : State E) : Prop where
  removed : ∀ key, IsTarget t db st.started key →
    (sqlExecuteDirect validate db [stmt] st).1.rowStore.readLatest key = none
  kept : ∀ key, ¬IsTarget t db st.started key →
    (sqlExecuteDirect validate db [stmt] st).1.rowStore.readLatest key =
      st.started.rowStore.readLatest key
  tombstones : ∀ w, w ∈ storedRows (directActions db stmt st.started) ↔
    ∃ rawKey, w = ((db, rawKey), none) ∧ IsTarget t db st.started (dbPrefixKey db rawKey)

structure FindsTargets (t : DeleteTarget) (db : String) (st : State E) : Prop where
  found : ∀ key, IsTarget t db st key →
    ∃ data, (key, data) ∈ st.scanRows db ∧ data.lookup t.whereCol = some t.whereVal
  visible : ∀ row ∈ st.scanRows db, matchesDelete t db row → st.rowStore.readLatest row.1 ≠ none →
    IsTarget t db st row.1
  hidden : ∀ row ∈ st.scanRows db, matchesDelete t db row → st.rowStore.readLatest row.1 = none →
    IsTarget t db st (dbPrefixKey db (tombstoneKey db row.1))
  once : ∀ rawKey, IsTarget t db st (dbPrefixKey db rawKey) →
    db ≠ "" → ¬startsWith rawKey (db ++ ".")

theorem tombstoneKey_dbPrefixKey {db rawKey : String}
    (h : db ≠ "" → ¬startsWith rawKey (db ++ ".")) :
    tombstoneKey db (dbPrefixKey db rawKey) = rawKey := by
  by_cases hdb : db = ""
  · subst hdb
    have hemp (n : ℕ) (cs : List Char) : trimStartMatches [] n cs = cs := by cases n <;> rfl
    rw [tombstoneKey, dbPrefixKey_empty, dbPrefixKey_empty, String.toList_empty, hemp,
      String.ofList_toList]
  · have hpat : (dbPrefixKey db "").toList = (db ++ ".").toList := by
      rw [toList_dbPrefixKey hdb]
      simp
    have hkey : (dbPrefixKey db rawKey).toList = (db ++ ".").toList ++ rawKey.toList := by
      rw [toList_dbPrefixKey hdb]
      simp
    have hnot : ¬(db ++ ".").toList <+: rawKey.toList := fun hpre =>
      h hdb ( List.isPrefixOf_iff_prefix.mpr hpre)
    have hlen : (dbPrefixKey db rawKey).toList.length =
        (db.toList.length + rawKey.toList.length) + 1 := by
      rw [toList_dbPrefixKey hdb, List.length_append, List.length_cons]
      omega
    rw [tombstoneKey, hlen, hpat, hkey, trimStartMatches_append (by simp),
      trimStartMatches_eq_self hnot, String.ofList_toList]

theorem not_startsWith_tombstoneKey {db : String} (hdb : db ≠ "") (key : String) :
    ¬startsWith (tombstoneKey db key) (db ++ ".") := by
  have hpat : (dbPrefixKey db "").toList = (db ++ ".").toList := by
    rw [toList_dbPrefixKey hdb]
    simp
  rw [startsWith, List.isPrefixOf_iff_prefix, tombstoneKey, String.toList_ofList, hpat]
  exact not_prefix_trimStartMatches (by simp) le_rfl

omit [DurabilityEngine E] in
theorem matchesDelete_of_isTarget {t : DeleteTarget} {db key : String} {st : State E}
    {data : RowData} (h : IsTarget t db st key) (hdata : data.lookup t.whereCol = some t.whereVal) :
    matchesDelete t db (key, data) := by
  obtain ⟨⟨id, rfl⟩, -⟩ := h
  have hlist : (dbPrefixKey db (t.table ++ ":" ++ id)).toList =
      (dbPrefixKey db (t.table ++ ":")).toList ++ id.toList := by
    rw [dbPrefixKey, dbPrefixKey]
    split_ifs <;> simp
  have hne : (dbPrefixKey db (t.table ++ ":")).toList ≠ [] := by
    rw [dbPrefixKey]
    split_ifs <;> simp
  have hfnd : contains (dbPrefixKey db (t.table ++ ":" ++ id))
      (dbPrefixKey db (t.table ++ ":")) := by
    rw [contains, Option.isSome_iff_ne_none, ne_eq, splitAtText_eq_none_iff hne, not_not, hlist]
    exact ( List.prefix_append _ _).isInfix
  simp [matchesDelete, hfnd, hdata]

theorem findsTargets_of_not_persistsRows {t : DeleteTarget} {db : String} {st : State E}
    (hp : ¬DurabilityEngine.persistsRows st.walEngine)
    (h : ∀ row ∈ st.scanRows db, matchesDelete t db row → ∃ id,
      row.1 = dbPrefixKey db (t.table ++ ":" ++ id) ∧
        (db ≠ "" → ¬startsWith (t.table ++ ":" ++ id) (db ++ "."))) : FindsTargets t db st := by
  have hscan (key : String) (data : RowData) :
      (key, data) ∈ st.scanRows db ↔ st.rowStore.readLatest key = some data := by
    rw [State.scanRows, if_neg hp]
    exact PagedRowStore.mem_scanAtSnapshot_iff
  have htarg : ∀ row ∈ st.scanRows db, matchesDelete t db row → IsTarget t db st row.1 := by
    intro row hrow hmt
    obtain ⟨id, hid, -⟩ := h row hrow hmt
    rw [matchesDelete, Bool.and_eq_true, decide_eq_true_eq] at hmt
    exact ⟨⟨id, hid⟩, row.2, (hscan row.1 row.2).mp hrow, hmt.2⟩
  refine ⟨fun key htgt => ?_, fun row hrow hmt _ => htarg row hrow hmt,
    fun row hrow _ hnone => ?_, fun rawKey htgt => ?_⟩
  · obtain ⟨-, data, hdata, hval⟩ := htgt
    exact ⟨data, (hscan key data).mpr hdata, hval⟩
  · rw [(hscan row.1 row.2).mp hrow] at hnone
    cases hnone
  · obtain ⟨-, data, hdata, hval⟩ := id htgt
    obtain ⟨id, hid, honce⟩ := h _ ((hscan _ data).mpr hdata)
      (matchesDelete_of_isTarget htgt hval)
    rwa [dbPrefixKey_injective db hid]

section

variable [Unicode] {validate : String → RowData → Except String Unit} {t : DeleteTarget}
  {db stmt : String} {st : State E}

theorem readLatest_scanDelete (val : String → RowData → Except String Unit)
    (hplan : plan stmt = .scanDelete t) (db : String) (st : State E) (key : String) :
    (sqlExecuteDirect val db [stmt] st).1.rowStore.readLatest key =
      if key ∈ (scannedRows t db st.started).map Prod.fst then none
      else st.started.rowStore.readLatest key := by
  have hok : (directStatement val db st.rowStore.nextXid stmt st.started).2 = none := by
    rw [directStatement_eq, hplan]
  have hwr := directStatement_shows (st.rowStore.newest_beginXid) hok
  rw [directWrites_eq, hplan] at hwr
  rw [sqlExecuteDirect_singleton, State.readLatest_releaseWriteIntents]
  have hrem : PagedRowStore.Writes st.rowStore.nextXid st.started.rowStore
      (directStatement val db st.rowStore.nextXid stmt st.started).1.rowStore
      (((scannedRows t db st.started).map Prod.fst).map fun k => (k, none)) := by
    rw [List.map_map]
    exact hwr
  exact hrem.readLatest_of_removals key

theorem storedRows_scanDelete (hplan : plan stmt = .scanDelete t) (db : String) (st : State E) :
    storedRows (directActions db stmt st) =
      (scannedRows t db st).map fun row => ((db, tombstoneKey db row.1), none) := by
  rw [directActions, hplan]
  dsimp only
  rw [storedRows_append, storedRows_flatMap, List.map_eq_flatMap]
  exact List.append_nil _

theorem FindsTargets.of_deletesTargets (hplan : plan stmt = .scanDelete t)
    (h : DeletesTargets validate t db stmt st) : FindsTargets t db st.started := by
  have hrows := readLatest_scanDelete validate hplan db st
  have hsto := storedRows_scanDelete hplan db st.started
  refine ⟨fun key htgt => ?_, fun row hrow hmt hsome => ?_, fun row hrow hmt _ => ?_,
    fun rawKey htgt hdb => ?_⟩
  · have hnone := h.removed key htgt
    obtain ⟨-, data, hdata, -⟩ := htgt
    rw [hrows] at hnone
    split_ifs at hnone with hmem
    · obtain ⟨row, hrow, rfl⟩ := List.mem_map.mp hmem
      obtain ⟨hscan, hmt⟩ := mem_scannedRows_iff.mp hrow
      rw [matchesDelete, Bool.and_eq_true, decide_eq_true_eq] at hmt
      exact ⟨row.2, hscan, hmt.2⟩
    · exact absurd hnone (by simp [hdata])
  · by_contra hnot
    have hin : row.1 ∈ (scannedRows t db st.started).map Prod.fst :=
      List.mem_map_of_mem (mem_scannedRows_iff.mpr ⟨hrow, hmt⟩)
    have hkept := h.kept row.1 hnot
    rw [hrows, if_pos hin] at hkept
    exact hsome hkept.symm
  · have hmem : ((db, tombstoneKey db row.1), none) ∈
        storedRows (directActions db stmt st.started) := by
      rw [hsto]
      exact List.mem_map_of_mem (mem_scannedRows_iff.mpr ⟨hrow, hmt⟩)
    obtain ⟨rawKey, heq, htgt⟩ := (h.tombstones _).mp hmem
    rw [Prod.mk.injEq, Prod.mk.injEq] at heq
    rwa [heq.1.2]
  · have hmem := (h.tombstones ((db, rawKey), none)).mpr ⟨rawKey, rfl, htgt⟩
    rw [hsto] at hmem
    obtain ⟨row, -, heq⟩ := List.mem_map.mp hmem
    rw [Prod.mk.injEq, Prod.mk.injEq] at heq
    rw [← heq.1.2]
    exact not_startsWith_tombstoneKey hdb row.1

theorem DeletesTargets.of_findsTargets (hplan : plan stmt = .scanDelete t)
    (h : FindsTargets t db st.started) : DeletesTargets validate t db stmt st := by
  have hrows := readLatest_scanDelete validate hplan db st
  have hmem : ∀ key, IsTarget t db st.started key → ∃ row ∈ scannedRows t db st.started,
      row.1 = key := by
    intro key htgt
    obtain ⟨data, hscan, hdata⟩ := h.found key htgt
    have hmt := matchesDelete_of_isTarget htgt hdata
    exact ⟨(key, data), mem_scannedRows_iff.mpr ⟨hscan, hmt⟩, rfl⟩
  refine ⟨fun key htgt => ?_, fun key hnot => ?_, fun w => ?_⟩
  · rw [hrows, if_pos (List.mem_map.mpr (hmem key htgt))]
  · rw [hrows]
    split_ifs with hin
    · obtain ⟨row, hrow, rfl⟩ := List.mem_map.mp hin
      obtain ⟨hscan, hmt⟩ := mem_scannedRows_iff.mp hrow
      by_contra hsome
      exact hnot (h.visible row hscan hmt (Ne.symm hsome))
    · rfl
  · rw [storedRows_scanDelete hplan db st.started, List.mem_map]
    constructor
    · rintro ⟨row, hrow, rfl⟩
      obtain ⟨hscan, hmt⟩ := mem_scannedRows_iff.mp hrow
      refine ⟨_, rfl, ?_⟩
      by_cases hnone : st.started.rowStore.readLatest row.1 = none
      · exact h.hidden row hscan hmt hnone
      · have htgt := h.visible row hscan hmt hnone
        obtain ⟨id, hid⟩ := htgt.1
        rw [hid] at htgt
        rw [hid, tombstoneKey_dbPrefixKey (h.once _ htgt)]
        exact htgt
    · rintro ⟨rawKey, rfl, htgt⟩
      obtain ⟨row, hrow, heq⟩ := hmem _ htgt
      exact ⟨row, hrow, by rw [heq, tombstoneKey_dbPrefixKey (h.once rawKey htgt)]⟩

/-- **Exactly the rows that are meant are removed iff** those are found. -/
theorem deletesTargets_iff (validate : String → RowData → Except String Unit) (t : DeleteTarget)
    (db stmt : String) (st : State E) (hplan : plan stmt = .scanDelete t) :
    DeletesTargets validate t db stmt st ↔ FindsTargets t db st.started :=
  ⟨.of_deletesTargets hplan, .of_findsTargets hplan⟩

end

section

local instance asciiKeys : Unicode := .ascii

def deleteByName : String := "DELETE FROM t WHERE name = 'a'"

def byName : DeleteTarget := ⟨"t", "name", "a"⟩

def oneRowUnder (key : String) : State InMemoryEngine :=
  { rowStore := (PagedRowStore.new 256).insert 1 key (Finmap.insert "name" "a" ∅)
    walEngine := {}
    txUndoLog := [] }

theorem plan_deleteByName : plan deleteByName = .scanDelete byName := by
  have hkind : dmlKind deleteByName = some .delete := by decide +kernel
  have htgt : scanDeleteTarget deleteByName = some byName := by decide +kernel
  unfold plan
  rw [hkind, htgt]

theorem deletesTargets_one_row :
    plan deleteByName = .scanDelete byName ∧
      DeletesTargets anyRow byName "" deleteByName (oneRowUnder "t:1") := by
  refine ⟨plan_deleteByName, (deletesTargets_iff anyRow byName "" deleteByName (oneRowUnder "t:1")
    plan_deleteByName).mpr (findsTargets_of_not_persistsRows Bool.false_ne_true ?_)⟩
  have hscan : (oneRowUnder "t:1").started.scanRows "" =
      [("t:1", Finmap.insert "name" "a" ∅)] := by decide +kernel
  rw [hscan]
  intro row hrow _
  rw [List.mem_singleton.mp hrow]
  exact ⟨"1", by decide, fun h => absurd rfl h⟩

/-- **A row of `xt` is removed** by a statement on `t`. -/
theorem other_table_row_removed :
    plan deleteByName = .scanDelete byName ∧
      ¬DeletesTargets anyRow byName "" deleteByName (oneRowUnder "xt:1") ∧
      ((oneRowUnder "xt:1").started.rowStore.readLatest "xt:1").isSome ∧
      (sqlExecuteDirect anyRow "" [deleteByName] (oneRowUnder "xt:1")).1.rowStore.readLatest
        "xt:1" = none := by
  have hgone : (sqlExecuteDirect anyRow "" [deleteByName]
      (oneRowUnder "xt:1")).1.rowStore.readLatest "xt:1" = none := by decide +kernel
  have hthe : ((oneRowUnder "xt:1").started.rowStore.readLatest "xt:1").isSome := by
    decide +kernel
  refine ⟨plan_deleteByName, fun h => ?_, hthe, hgone⟩
  have hnot : ¬IsTarget byName "" (oneRowUnder "xt:1").started "xt:1" := by
    rintro ⟨⟨id, hid⟩, -⟩
    have hlist := congrArg String.toList hid
    simp [byName] at hlist
  rw [← h.kept "xt:1" hnot, hgone] at hthe
  cases hthe

end

end VngDatabase.Dml
