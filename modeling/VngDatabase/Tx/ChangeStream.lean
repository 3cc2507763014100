import VngDatabase.Dml.Scan
import VngDatabase.Tx.Outcome

/-!
# The stream of changes

For each statement of a committed transaction, the handler appends a change to a stream
(`crates/voltnuerongrid-store/src/htap_sync.rs`), from which other nodes keep a copy of the rows
(`apply_htap_mutations_to_olap` of `services/voltnuerongridd/src/helpers/dataplane.rs`).
-/

namespace VngDatabase.Tx

open Store Sql Text Overlay Dml BootEngine DurabilityEngine List Option

variable {stmt : String} {data : RowData}

inductive MutationOp
  | insert
  | update
  | delete
  deriving DecidableEq

structure RowMutation where
  sequence : ℕ
  table : String
  primaryKey : String
  payloadJson : String
  op : MutationOp
  deriving DecidableEq

structure RowStoreSyncOrigin where
  nextSequence : ℕ := 1
  pending : List RowMutation := []

def RowStoreSyncOrigin.append (origin : RowStoreSyncOrigin)
    (table primaryKey payloadJson : String) (op : MutationOp) : RowStoreSyncOrigin where
  nextSequence := origin.nextSequence + 1
  pending := origin.pending ++ [⟨origin.nextSequence, table, primaryKey, payloadJson, op⟩]

def publication [Unicode] (db stmt : String) : Option (String × MutationOp) :=
  match dmlKind stmt with
  | some .insert => (extractInsertRowFromSql stmt).map fun r => (dbPrefixKey db r.1, .insert)
  | some .delete =>
    (extractDeleteKeyFromSql stmt).map fun rawKey => (dbPrefixKey db rawKey, .delete)
  | some .update => (extractUpdateRowFromSql stmt).map fun u => (dbPrefixKey db u.1, .update)
  | none => none

def publish [Unicode] (db : String) (origin : RowStoreSyncOrigin) (stmt : String) :
    RowStoreSyncOrigin :=
  match publication db stmt with
  | some (k, op) => origin.append "row_store" k stmt op
  | none => origin

structure ReplicatedMutation where
  sequence : ℕ
  table : String
  primaryKey : String
  payloadJson : String
  op : String

namespace ReplicatedMutation

def opEnum (m : ReplicatedMutation) : MutationOp :=
  if m.op = "delete" then .delete else if m.op = "update" then .update else .insert

def opStr : MutationOp → String
  | .insert => "insert"
  | .update => "update"
  | .delete => "delete"

def ofRowMutation (m : RowMutation) : ReplicatedMutation :=
  ⟨m.sequence, m.table, m.primaryKey, m.payloadJson, opStr m.op⟩

theorem opEnum_ofRowMutation (m : RowMutation) : (ofRowMutation m).opEnum = m.op := by
  rw [opEnum, ofRowMutation]
  cases m.op <;> rfl

end ReplicatedMutation

/-- What is read starts with a brace. -/
class JsonReader where
  fromStr : String → Option RowData
  starts_with_brace : ∀ s data, fromStr s = some data →
    ∃ blanks rest, s.toList = blanks ++ '\x7b' :: rest ∧ ∀ c ∈ blanks, isWhitespace c

abbrev OlapStore := Finmap fun _ : String => RowData

section

variable [JsonReader]

def payloadRow (payloadJson : String) : RowData :=
  (JsonReader.fromStr payloadJson).getD (Finmap.insert "payload" payloadJson ∅)

def applyMutation (acc : OlapStore × ℕ × ℕ) (m : ReplicatedMutation) : OlapStore × ℕ × ℕ :=
  let (olap, applied, lastSeq) := acc
  let lastSeq := max lastSeq m.sequence
  match m.opEnum with
  | .insert | .update =>
    (olap.insert m.primaryKey (payloadRow m.payloadJson), applied + 1, lastSeq)
  | .delete => (olap.erase m.primaryKey, applied + 1, lastSeq)

def applyHtapMutationsToOlap (mutations : List ReplicatedMutation) (olap : OlapStore) :
    OlapStore × ℕ × ℕ :=
  mutations.foldl applyMutation (olap, 0, 0)

def RowMutation.write (m : RowMutation) : String × Option RowData :=
  (m.primaryKey, if m.op = .delete then none else some (payloadRow m.payloadJson))

theorem lookup_applyHtapMutationsToOlap (ms : List RowMutation) (olap : OlapStore) (k : String) :
    (applyHtapMutationsToOlap (ms.map .ofRowMutation) olap).1.lookup k =
      overlay (ms.map RowMutation.write) (fun k => olap.lookup k) k := by
  have hfold (acc : OlapStore × ℕ × ℕ) :
      ((ms.map ReplicatedMutation.ofRowMutation).foldl applyMutation acc).1.lookup k =
        overlay (ms.map RowMutation.write) (fun k => acc.1.lookup k) k := by
    induction ms generalizing acc with
    | nil => rfl
    | cons m ms ih =>
      rw [map_cons, foldl_cons, ih, map_cons, ← singleton_append, overlay_append, overlay_singleton]
      congr 1
      funext k'
      rw [Function.update_apply, applyMutation, ReplicatedMutation.opEnum_ofRowMutation,
        RowMutation.write]
      rcases eq_or_ne k' m.primaryKey with rfl | hne
      · cases m.op <;> simp [ReplicatedMutation.ofRowMutation]
      · cases m.op <;> simp [ReplicatedMutation.ofRowMutation, hne]
  exact hfold (olap, 0, 0)

theorem payloadRow_of_dmlKind (h : dmlKind stmt ≠ none) :
    payloadRow stmt = Finmap.insert "payload" stmt ∅ := by
  cases hread : JsonReader.fromStr stmt with
  | none => rw [payloadRow, hread, getD_none]
  | some data =>
    obtain ⟨blanks, rest, hstmt, hbla⟩ := JsonReader.starts_with_brace stmt data hread
    refine absurd ?_ h
    have htrim : trimStart stmt.toList = '\x7b' :: rest := by
      rw [hstmt, trimStart, dropWhile_append_of_pos hbla]
      rfl
    have hno (kind : String) (hkind : kind.toList.head? ≠ some '\x7b') (hne : kind ≠ "") :
        startsWith (toAsciiUppercase (String.ofList (trimStart stmt.toList))) kind = false := by
      rw [Bool.eq_false_iff]
      intro hsta
      refine hkind ?_
      rw [← head?_of_startsWith hsta hne, htrim]
      simp [toAsciiUppercase]
    have hins := hno "INSERT" (by simp) (by simp)
    have hupd := hno "UPDATE" (by simp) (by simp)
    have hdele := hno "DELETE" (by simp) (by simp)
    delta dmlKind
    simp only [hins, hupd, hdele, Bool.false_eq_true, if_false]

end

section

variable [Unicode]

def flushOps (db stmt : String) : List (String × Bool) :=
  match dmlKind stmt with
  | some .insert => (extractAllInsertRows stmt).map fun row => (dbPrefixKey db row.rowKey, true)
  | some .delete =>
    (extractDeleteKeyFromSql stmt).toList.map fun rawKey => (dbPrefixKey db rawKey, false)
  | some .update =>
    match extractUpdateRowFromSql stmt with
    | none => []
    | some (rawKey, _) =>
      if (scanUpdateTarget stmt).isSome then [] else [(dbPrefixKey db rawKey, true)]
  | none => []

def streamOps (db stmt : String) : List (String × Bool) :=
  (publication db stmt).toList.map fun change => (change.1, decide (change.2 ≠ .delete))

/-- **All that is written is deleted again**, and so published. -/
def TxRequest.Cancels (req : TxRequest) : Prop :=
  ∀ k, overlay (req.effectiveStatements.flatMap (flushOps req.db)) (fun _ => false) k = false ∧
    overlay (req.effectiveStatements.flatMap (streamOps req.db)) (fun _ => false) k = false

end

def Tagged (data : RowData) : Prop := "__table" ∈ data

theorem Tagged.insert (h : Tagged data) (col val : String) :
    Tagged (data.insert col val) := Finmap.mem_insert.mpr (Or.inr h)

theorem tagged_insertColumns (table : String) (cols : List (String × String)) :
    Tagged (insertColumns (Finmap.insert "__table" table ∅) cols) := by
  have hall (data : RowData) (h : Tagged data) : Tagged (insertColumns data cols) := by
    induction cols generalizing data with
    | nil => exact h
    | cons c cols ih => exact ih _ (h.insert c.1 c.2)
  exact hall _ (Finmap.mem_insert.mpr (Or.inl rfl))

section

variable [Unicode]

theorem tagged_of_extractAllInsertRows {row : InsertRow}
    (h : row ∈ extractAllInsertRows stmt) : Tagged row.data := by
  unfold extractAllInsertRows at h
  split at h
  · obtain ⟨vals, -, hrow⟩ := mem_filterMap.mp h
    cases vals with
    | nil => cases hrow
    | cons v vs =>
      rw [← some.inj hrow]
      exact tagged_insertColumns _ _
  · cases h

theorem tagged_of_extractUpdateRowFromSql {raw : String} {columns : RowData}
    (h : extractUpdateRowFromSql stmt = some (raw, columns)) : Tagged columns := by
  obtain ⟨upd, -, hrow⟩ := map_eq_some_iff.mp h
  obtain rfl : _ = columns := congrArg Prod.snd hrow
  exact tagged_insertColumns _ _

end

section

variable {E : Type} [ListedEngine E] {db : String} {live : String → Bool} {st : State E}
  {xid : Xid} {as : List Action} {ops : List (String × Bool)}

/-- **Only live keys hold a row.** -/
structure Within (db : String) (live : String → Bool) (st : State E) : Prop where
  visible : ∀ k data, st.rowStore.readLatest k = some data → live k ∧ Tagged data
  durable : ∀ db' rawKey data, getRow st.walEngine db' rawKey = some data →
    db' = db ∧ live (dbPrefixKey db rawKey) ∧ Tagged data

inductive Acts (db : String) (st : State E) (as : List Action) : List (String × Bool) → Prop
  | keyed (rows : List (String × Option RowData))
    (memory : rowWrites as = rows.map fun w => (dbPrefixKey db w.1, w.2))
    (engine : storedRows as = rows.map fun w => ((db, w.1), w.2))
    (tagged : ∀ w ∈ rows, ∀ data, w.2 = some data → Tagged data) :
    Acts db st as (rows.map fun w => (dbPrefixKey db w.1, w.2.isSome))
  | scanned (rows : List (String × RowData)) (col val : String)
    (found : ∀ row ∈ rows, row ∈ st.scanRows db)
    (memory : rowWrites as = rows.map fun row => (row.1, some (row.2.insert col val)))
    (engine : storedRows as =
      rows.map fun row => ((db, localKey db row.1), some (row.2.insert col val))) :
    Acts db st as []

theorem flushStatement_acts [CheckPredicate] [ColumnOrder] [Unicode]
    {st : Guarded E} (h : flushRefused st.constraints stmt = false) :
    Acts db st.toState (flushStatementActions db stmt st) (flushOps db stmt) := by
  unfold flushStatementActions flushOps
  unfold flushRefused flushRows at h
  unfold flushRows
  generalize dmlKind stmt = kind at h ⊢
  cases kind with
  | none => exact .keyed [] rfl rfl nofun
  | some kind =>
    cases kind with
    | insert =>
      have hall := acceptedRows_eq_self (of_decide_eq_false h)
      simp only [hall]
      have hacts : Acts db st.toState ((extractAllInsertRows stmt).flatMap (flushInsertActions db))
          _ := .keyed ((extractAllInsertRows stmt).map fun row => (row.rowKey, some row.data))
        (by
          rw [rowWrites_flatMap, List.map_map, List.map_eq_flatMap]
          rfl)
        (by
          rw [storedRows_flatMap, List.map_map, List.map_eq_flatMap]
          rfl)
        (by
          rw [List.forall_mem_map]
          rintro row hrow _ ⟨⟩
          exact tagged_of_extractAllInsertRows hrow)
      rw [List.map_map] at hacts
      exact hacts
    | delete =>
      cases extractDeleteKeyFromSql stmt with
      | none => exact .keyed [] rfl rfl nofun
      | some rawKey => exact .keyed [(rawKey, none)] rfl rfl (by simp)
    | update =>
      cases hrow : extractUpdateRowFromSql stmt with
      | none => exact .keyed [] rfl rfl nofun
      | some row =>
        obtain ⟨rawKey, columns⟩ := row
        cases scanUpdateTarget stmt with
        | none =>
          refine .keyed [(rawKey, some (mergedRow db rawKey columns st.toState))] rfl rfl ?_
          rintro w hw data hdata
          obtain rfl := List.mem_singleton.mp hw
          rw [← Option.some.inj hdata]
          exact Finmap.mem_union.mpr (Or.inl (tagged_of_extractUpdateRowFromSql hrow))
        | some t =>
          refine .scanned ((st.scanRows db).filter (matchesUpdate t db)) t.setCol t.setVal
            (fun row => List.mem_of_mem_filter) ?_ ?_
          · rw [rowWrites_append, rowWrites_flatMap, List.map_eq_flatMap]
            exact List.append_nil _
          · rw [storedRows_append, storedRows_flatMap, List.map_eq_flatMap]
            exact List.append_nil _

theorem Within.of_mem_scanRows (h : Within db live st) (hnw : st.rowStore.Newest xid)
    (hmax : maxRowXid st.walEngine ≤ xid) {row : String × RowData} (hrow : row ∈ st.scanRows db) :
    live row.1 ∧ Tagged row.2 := by
  have hcur : st.rowStore.currentXid = xid := congrArg (· - 1) hnw
  rw [State.scanRows] at hrow
  split_ifs at hrow with hp
  · obtain ⟨⟨rawKey, data⟩, hr, rfl⟩ := mem_map.mp hrow
    rw [ListedEngine.mem_scanRowsForDb_iff _ _ _ _ _ hp (hcur ▸ hmax)] at hr
    exact (h.durable db rawKey data hr).2
  · rw [PagedRowStore.mem_scanAtSnapshot_iff] at hrow
    exact h.visible row.1 row.2 hrow

theorem getRow_performAll (hmax : maxRowXid st.walEngine ≤ xid) (as : List Action)
    (db' raw : String) (h : getRow (performAll xid as st).walEngine db' raw = some data) :
    persistsRows st.walEngine ∧ (lastWrite (storedRows as) (db', raw) = some (some data) ∨
      lastWrite (storedRows as) (db', raw) = none ∧ getRow st.walEngine db' raw = some data) := by
  have hp : persistsRows st.walEngine := by
    by_contra hno
    rw [getRow_eq, persistsRows_performAll, if_neg hno] at h
    cases h
  refine ⟨hp, ?_⟩
  rw [getRow_of_supersede hp ((persistsRows_performAll xid as st).trans hp)
    (scanPersistedRows_performAll hp hmax as)] at h
  have hbase : overlay (storedRows as) (fun id => getRow st.walEngine id.1 id.2) (db', raw) =
      some data := h
  exact overlay_apply_eq_iff.mp hbase

theorem Within.step (h : Within db live st) (hnw : st.rowStore.Newest xid)
    (hmax : maxRowXid st.walEngine ≤ xid)
    (hacts : Acts db st as ops) : Within db (overlay ops live) (performAll xid as st) := by
  have hshw := performAll_shows hnw as
  have hvis (k : String) (data : RowData)
      (hk : (performAll xid as st).rowStore.readLatest k = some data) :
      lastWrite (rowWrites as) k = some (some data) ∨
        lastWrite (rowWrites as) k = none ∧ st.rowStore.readLatest k = some data := by
    rw [hshw.readLatest_eq_ite, ite_none_right_eq_some] at hk
    exact overlay_apply_eq_iff.mp hk.2
  cases hacts with
  | keyed rows hmm heng htagg =>
    rw [hmm] at hvis
    have hops (k : String) : lastWrite (rows.map fun w => (dbPrefixKey db w.1, w.2.isSome)) k =
        (lastWrite (rows.map fun w => (dbPrefixKey db w.1, w.2)) k).map isSome := by
      rw [← lastWrite_map_snd, List.map_map]
      rfl
    constructor
    · intro k data hk
      rcases hvis k data hk with hlast | ⟨hlast, hbef⟩
      · refine ⟨by simp [overlay, hops, hlast], ?_⟩
        obtain ⟨w, hw, heq⟩ := mem_map.mp (mem_of_lastWrite hlast)
        exact htagg w hw data (congrArg Prod.snd heq)
      · simpa [overlay, hops, hlast] using h.visible k data hbef
    · intro db' rawKey data hrow
      have hinj := Prod.mk_right_injective (β := String) db
      obtain ⟨-, hlast | ⟨hlast, hbef⟩⟩ := getRow_performAll hmax as db' rawKey hrow
      · rw [heng] at hlast
        obtain ⟨w, hw, heq⟩ := mem_map.mp (mem_of_lastWrite hlast)
        obtain rfl : db = db' := congrArg (fun w => w.1.1) heq
        rw [lastWrite_map_key hinj] at hlast
        refine ⟨rfl, ?_, htagg w hw data (congrArg Prod.snd heq)⟩
        rw [overlay, hops, lastWrite_map_key (dbPrefixKey_injective db), hlast]
        rfl
      · obtain ⟨rfl, hlive, htag⟩ := h.durable db' rawKey data hbef
        rw [heng, lastWrite_map_key hinj] at hlast
        refine ⟨rfl, ?_, htag⟩
        rw [overlay, hops, lastWrite_map_key (dbPrefixKey_injective db'), hlast]
        exact hlive
  | scanned rows col val hfnd hmm heng =>
    rw [hmm] at hvis
    constructor
    · intro k data hk
      rcases hvis k data hk with hlast | ⟨-, hbef⟩
      · obtain ⟨row, hrow, heq⟩ := mem_map.mp (mem_of_lastWrite hlast)
        obtain ⟨rfl, rfl⟩ : row.1 = k ∧ row.2.insert col val = data := by simpa using heq
        obtain ⟨hlive, htag⟩ := h.of_mem_scanRows hnw hmax (hfnd row hrow)
        exact ⟨hlive, htag.insert col val⟩
      · exact h.visible k data hbef
    · intro db' rawKey data hget
      obtain ⟨hp, hlast | ⟨-, hbef⟩⟩ := getRow_performAll hmax as db' rawKey hget
      · rw [heng] at hlast
        obtain ⟨row, hrow, heq⟩ := mem_map.mp (mem_of_lastWrite hlast)
        obtain ⟨⟨rfl, hkey⟩, rfl⟩ : (db = db' ∧ localKey db row.1 = rawKey) ∧
            row.2.insert col val = data := by simpa using heq
        obtain ⟨hlive, htag⟩ := h.of_mem_scanRows hnw hmax (hfnd row hrow)
        obtain ⟨rawKey', hraw⟩ := State.exists_of_mem_scanRows hp (hfnd row hrow)
        rw [hraw, localKey_dbPrefixKey] at hkey
        exact ⟨rfl, hkey ▸ hraw ▸ hlive, htag.insert col val⟩
      · exact h.durable db' rawKey data hbef

theorem visible_of_live (hcap : st.rowStore.maxRowsCap = 0) (hnw : st.rowStore.Newest xid)
    (h : ∀ k, live k → (st.rowStore.readLatest k).isSome) (hacts : Acts db st as ops) (k : String)
    (hk : overlay ops live k = true) : ((performAll xid as st).rowStore.readLatest k).isSome := by
  rw [(performAll_shows hnw as).readLatest_eq_overlay hcap]
  cases hacts with
  | keyed rows hmm =>
    have hops : lastWrite (rows.map fun w => (dbPrefixKey db w.1, w.2.isSome)) k =
        (lastWrite (rowWrites as) k).map isSome := by
      rw [hmm, ← lastWrite_map_snd, List.map_map]
      rfl
    rw [overlay, hops] at hk
    rw [overlay]
    cases hlast : lastWrite (rowWrites as) k with
    | none =>
      rw [hlast] at hk
      exact h k hk
    | some v =>
      rw [hlast] at hk
      exact hk
  | scanned rows col val hfnd hmm =>
    refine isSome_overlay (fun hmem => ?_) (h k hk)
    rw [hmm] at hmem
    obtain ⟨row, -, heq⟩ := mem_map.mp hmem
    cases congrArg Prod.snd heq

variable [CheckPredicate] [ColumnOrder] [Unicode]

theorem flushStatements_within (xid : Xid) (stmts : List String) (st : Guarded E)
    {live : String → Bool} (hpass : insertsPass st.constraints stmts)
    (hnw : st.rowStore.Newest xid) (hmax : maxRowXid st.walEngine ≤ xid)
    (h : Within db live st.toState) :
    Within db (overlay (stmts.flatMap (flushOps db)) live)
        (flushStatements db xid stmts st).1.toState ∧
      (st.rowStore.maxRowsCap = 0 → (∀ k, live k → (st.rowStore.readLatest k).isSome) →
        ∀ k, overlay (stmts.flatMap (flushOps db)) live k = true →
          ((flushStatements db xid stmts st).1.rowStore.readLatest k).isSome) := by
  induction stmts generalizing st live with
  | nil => exact ⟨h, fun _ hvis => hvis⟩
  | cons stmt stmts ih =>
    rw [insertsPass, Bool.and_eq_true, Bool.not_eq_true'] at hpass
    have hacts : Acts db st.toState _ _ := flushStatement_acts hpass.1
    have hsta : (flushStatement db xid stmt st).1.toState =
        performAll xid (flushStatementActions db stmt st) st.toState :=
      congrArg Guarded.toState (flushStatement_performs db xid stmt st)
    have hmgr : insertsPass (flushStatement db xid stmt st).1.constraints stmts := by
      rw [flushStatement_performs]
      exact hpass.2
    have hshw := performAll_shows hnw (flushStatementActions db stmt st)
    have hmax' := maxRowXid_performAll_le hmax (flushStatementActions db stmt st)
    have hwit := h.step hnw hmax hacts
    have hlive (hcap) (hbef : ∀ k, live k → (st.rowStore.readLatest k).isSome) :=
      visible_of_live hcap hnw hbef hacts
    have hstat : flushStatements db xid (stmt :: stmts) st =
        flushStatements db xid stmts (flushStatement db xid stmt st).1 := by
      rw [flushStatements, flushStatement_isSome, hpass.1]
      rfl
    rw [hstat, flatMap_cons, overlay_append]
    rw [← hsta] at hshw hmax' hwit hlive
    obtain ⟨hwit', hvis⟩ := ih _ hmgr hshw.newest hmax' hwit
    exact ⟨hwit', fun hcap hbef => hvis (hshw.maxRowsCap.trans hcap) (hlive hcap hbef)⟩

end

structure HtapServer (E : Type) [BootEngine E] extends TxServer E where
  syncOrigin : RowStoreSyncOrigin

namespace HtapServer

variable {E : Type} [ListedEngine E] [CheckPredicate] [ColumnOrder] [Unicode]

def Commits (s : HtapServer E) (req : TxRequest) : Prop :=
  req.hasCommit ∧ s.conflict req (req.beginSnapshotXid s.rowStore) = none ∧
    insertsPass s.constraints req.effectiveStatements

instance (s : HtapServer E) (req : TxRequest) : Decidable (s.Commits req) :=
  inferInstanceAs (Decidable (_ ∧ _))

/-- Statements are published after they have been carried out. -/
def sqlTransaction (req : TxRequest) (s : HtapServer E) : HtapServer E × TxAnswer :=
  let result := s.toTxServer.sqlTransaction req
  ({ toTxServer := result.1
     syncOrigin :=
       if s.Commits req then req.effectiveStatements.foldl (publish req.db) s.syncOrigin
       else s.syncOrigin }, result.2)

def runAll (s : HtapServer E) (reqs : List TxRequest) : HtapServer E :=
  reqs.foldl (fun s req => (s.sqlTransaction req).1) s

def CommitsAll : HtapServer E → List TxRequest → Prop
  | _, [] => True
  | s, req :: reqs => s.Commits req ∧ (s.sqlTransaction req).1.CommitsAll reqs

variable [JsonReader]

def copy (s : HtapServer E) : OlapStore :=
  (applyHtapMutationsToOlap (s.syncOrigin.pending.map .ofRowMutation) ∅).1

def Matches (s : HtapServer E) : Prop := ∀ k, s.copy.lookup k = s.rowStore.readLatest k

structure Idle (s : HtapServer E) : Prop where
  visible : ∀ k, s.rowStore.readLatest k = none
  durable : ∀ db k, getRow s.walEngine db k = none
  copied : ∀ k, s.copy.lookup k = none

omit [CheckPredicate] [ColumnOrder] [Unicode] in
theorem Idle.matches {s : HtapServer E} (h : s.Idle) : s.Matches := fun k =>
  (h.copied k).trans (h.visible k).symm

def published (db stmt : String) : Option (String × Option RowData) :=
  (publication db stmt).map fun change =>
    (change.1, if change.2 = .delete then none else some (payloadRow stmt))

section

omit [CheckPredicate] [ColumnOrder]

theorem writes_publish (db : String) (stmts : List String) (origin : RowStoreSyncOrigin) :
    (stmts.foldl (publish db) origin).pending.map RowMutation.write =
      origin.pending.map RowMutation.write ++ stmts.filterMap (published db) := by
  induction stmts generalizing origin with
  | nil => exact (append_nil _).symm
  | cons stmt stmts ih =>
    rw [foldl_cons, ih, publish, filterMap_cons, published]
    cases publication db stmt with
    | none => rfl
    | some change =>
      simp only [RowStoreSyncOrigin.append, map_append, append_assoc, map_some]
      rfl

theorem overlay_streamOps (db : String) (stmts : List String) (k : String) :
    overlay (stmts.flatMap (streamOps db)) (fun _ => false) k =
      (overlay (stmts.filterMap (published db)) (fun _ => none) k).isSome := by
  rw [← overlay_map_snd isSome, filterMap_eq_flatMap_toList, map_flatMap]
  congr 2
  funext stmt
  rw [streamOps, published]
  cases publication db stmt with
  | none => rfl
  | some change =>
    obtain ⟨key, op⟩ := change
    cases op <;> rfl

theorem not_tagged_of_published {db : String} {stmts : List String} {k : String}
    (h : (k, some data) ∈ stmts.filterMap (published db)) : ¬Tagged data := by
  obtain ⟨stmt, -, hstmt⟩ := mem_filterMap.mp h
  obtain ⟨⟨key, op⟩, hpub, hcha⟩ := map_eq_some_iff.mp hstmt
  have hkind : dmlKind stmt ≠ none := by
    intro hnone
    rw [publication, hnone] at hpub
    cases hpub
  have hdata := congrArg Prod.snd hcha
  rw [payloadRow_of_dmlKind hkind] at hdata
  split_ifs at hdata
  rw [← some.inj hdata, Tagged, Finmap.mem_insert]
  exact not_or.mpr ⟨by decide, Finmap.notMem_empty⟩

end

variable {s : HtapServer E} {req : TxRequest}

theorem lookup_copy_sqlTransaction (h : s.Idle) (hcoms : s.Commits req) (k : String) :
    (s.sqlTransaction req).1.copy.lookup k =
      overlay (req.effectiveStatements.filterMap (published req.db)) (fun _ => none) k := by
  have hbef : overlay (s.syncOrigin.pending.map RowMutation.write)
      (fun k => (∅ : OlapStore).lookup k) = fun _ => none := by
    funext k
    rw [← lookup_applyHtapMutationsToOlap]
    exact h.copied k
  rw [copy, sqlTransaction, if_pos hcoms, lookup_applyHtapMutationsToOlap, writes_publish,
    overlay_append, hbef]

omit [JsonReader] in
theorem rows_sqlTransaction (hcoms : s.Commits req) :
    (s.sqlTransaction req).1.rowStore =
        (flush req.db req.effectiveStatements (s.session req.connectionId)).1.rowStore ∧
      (s.sqlTransaction req).1.walEngine =
        (flush req.db req.effectiveStatements (s.session req.connectionId)).1.walEngine := by
  obtain ⟨hcom, hcf, hpass⟩ := hcoms
  have hfl : (flush req.db req.effectiveStatements (s.session req.connectionId)).2 = none := by
    have hsome := flush_snd_isSome req.db req.effectiveStatements (s.session req.connectionId)
    have hmgr : (s.session req.connectionId).constraints = s.constraints := rfl
    rw [hmgr, hpass] at hsome
    simpa using hsome
  have hrun : s.toTxServer.sqlTransaction req = _ := runTransaction_of_pass hcom hcf
  rw [sqlTransaction, hrun, TxServer.commit]
  simp only [hfl]
  exact ⟨rfl, rfl⟩

theorem within_sqlTransaction (h : s.Idle) (hcoms : s.Commits req) :
    (∀ k data, (s.sqlTransaction req).1.rowStore.readLatest k = some data →
      overlay (req.effectiveStatements.flatMap (flushOps req.db)) (fun _ => false) k = true ∧
        Tagged data) ∧
    (∀ db rawKey data, getRow (s.sqlTransaction req).1.walEngine db rawKey = some data →
      overlay (req.effectiveStatements.flatMap (flushOps req.db)) (fun _ => false)
        (dbPrefixKey req.db rawKey) = true) ∧
    (s.rowStore.maxRowsCap = 0 → ∀ k,
      overlay (req.effectiveStatements.flatMap (flushOps req.db)) (fun _ => false) k = true →
        ((s.sqlTransaction req).1.rowStore.readLatest k).isSome) := by
  obtain ⟨hrows, heng⟩ := rows_sqlTransaction hcoms
  have hsnd := s.sound req.connectionId
  have hbeg : Within req.db (fun _ => false) (s.session req.connectionId).begin.toState := by
    refine ⟨fun k data hk => ?_, fun db' rawKey data hrow => ?_⟩
    · have hnone : (s.session req.connectionId).begin.rowStore.readLatest k = none :=
        (congrFun hsnd.stamped.readLatest_beginXid k).trans (h.visible k)
      cases hnone.symm.trans hk
    · cases (h.durable db' rawKey).symm.trans hrow
  obtain ⟨hwit, hlive⟩ := flushStatements_within s.rowStore.nextXid req.effectiveStatements
    (s.session req.connectionId).begin hcoms.2.2 (PagedRowStore.newest_beginXid _)
    hsnd.durable.le hbeg
  rw [hrows, heng, flush]
  simp only [State.readLatest_releaseWriteIntents]
  exact ⟨hwit.visible, fun db rawKey data hrow => (hwit.durable db rawKey data hrow).2.1,
    fun hcap => hlive hcap fun _ hk => absurd hk Bool.false_ne_true⟩

theorem idle_sqlTransaction (h : s.Idle) (hcoms : s.Commits req) (hcan : req.Cancels) :
    (s.sqlTransaction req).1.Idle := by
  obtain ⟨hvis, hdur, -⟩ := within_sqlTransaction h hcoms
  refine ⟨fun k => ?_, fun db k => ?_, fun k => ?_⟩
  · by_contra hno
    obtain ⟨data, hk⟩ := ne_none_iff_exists'.mp hno
    exact absurd (hvis k data hk).1 (by simp [(hcan k).1])
  · by_contra hno
    obtain ⟨data, hk⟩ := ne_none_iff_exists'.mp hno
    exact absurd (hdur db k data hk) (by simp [(hcan _).1])
  · have hstr := (hcan k).2
    rw [overlay_streamOps, isSome_eq_false_iff, isNone_iff_eq_none] at hstr
    rw [lookup_copy_sqlTransaction h hcoms, hstr]

theorem cancels_of_matches (h : s.Idle) (hcoms : s.Commits req)
    (hcap : s.rowStore.maxRowsCap = 0) (hmts : (s.sqlTransaction req).1.Matches) :
    req.Cancels := by
  obtain ⟨hvis, -, hlive⟩ := within_sqlTransaction h hcoms
  have hcopy (k : String) (data : RowData)
      (hk : (s.sqlTransaction req).1.copy.lookup k = some data) :
      (k, some data) ∈ req.effectiveStatements.filterMap (published req.db) := by
    rw [lookup_copy_sqlTransaction h hcoms, overlay_apply_eq_iff] at hk
    exact mem_of_lastWrite (hk.resolve_right nofun)
  -- a row would have a column for its table in the one and not in the other
  have hnone (k : String) : (s.sqlTransaction req).1.copy.lookup k = none := by
    by_contra hno
    obtain ⟨data, hk⟩ := ne_none_iff_exists'.mp hno
    exact not_tagged_of_published (hcopy k data hk)
      (hvis k data ((hmts k).symm.trans hk)).2
  refine fun k => ⟨?_, ?_⟩
  · rw [← Bool.not_eq_true]
    intro hk
    have hsome := hlive hcap k hk
    rw [← hmts k, hnone k] at hsome
    cases hsome
  · rw [overlay_streamOps, ← lookup_copy_sqlTransaction h hcoms, hnone]
    rfl

omit [JsonReader] in
theorem maxRowsCap_sqlTransaction (hcoms : s.Commits req) :
    (s.sqlTransaction req).1.rowStore.maxRowsCap = s.rowStore.maxRowsCap := by
  rw [(rows_sqlTransaction hcoms).1, flush_fst]
  exact (State.transact_writes (s.sound req.connectionId).stamped _).maxRowsCap

/-- **The copy matches the row store** if all that is written is deleted again, and without a cap
only then. -/
theorem stream_complete {reqs : List TxRequest} (h : s.Idle) (hcommits : s.CommitsAll reqs) :
    ((∀ req ∈ reqs, req.Cancels) → ∀ done, done <+: reqs → (s.runAll done).Matches) ∧
      (s.rowStore.maxRowsCap = 0 → (∀ done, done <+: reqs → (s.runAll done).Matches) →
        ∀ req ∈ reqs, req.Cancels) := by
  induction reqs generalizing s with
  | nil =>
    refine ⟨fun _ done hdone => ?_, fun _ _ => nofun⟩
    rw [prefix_nil.mp hdone]
    exact h.matches
  | cons req reqs ih =>
    obtain ⟨hcom, hrest⟩ := hcommits
    have hcap := maxRowsCap_sqlTransaction hcom
    constructor
    · intro hcan done hdone
      rcases prefix_cons_iff.mp hdone with rfl | ⟨done', rfl, hdone'⟩
      · exact h.matches
      · have hidle := idle_sqlTransaction h hcom (hcan req mem_cons_self)
        exact (ih hidle hrest).1 (fun r hr => hcan r (mem_cons_of_mem req hr)) done' hdone'
    · intro hcapp hmts
      have hfst := hmts [req] (prefix_append [req] reqs)
      have hcan := cancels_of_matches h hcom hcapp hfst
      have hidle := idle_sqlTransaction h hcom hcan
      have hoths := (ih hidle hrest).2 (hcap.trans hcapp) fun done hdone =>
        hmts (req :: done) (prefix_cons_iff.mpr (Or.inr ⟨done, rfl, hdone⟩))
      exact forall_mem_cons.mpr ⟨hcan, hoths⟩

end HtapServer

namespace ChangeStream

scoped instance : JsonReader where
  fromStr _ := none
  starts_with_brace _ _ h := by cases h

def htapServer : HtapServer InMemoryEngine := ⟨keyedTxServer, {}⟩

def insertOne : TxRequest := transaction "tx-1" ["BEGIN", "INSERT INTO t (id) VALUES (1)", "COMMIT"]

def insertAndDelete : TxRequest :=
  transaction "tx-1"
    ["BEGIN", "INSERT INTO t (id) VALUES (1)", "DELETE FROM t WHERE id = 1", "COMMIT"]

end ChangeStream

namespace HtapServer

open ChangeStream
open scoped Dml.Sample

/-- **The copy of a row is the text of its statement.** -/
theorem copy_is_statement :
    htapServer.Commits insertOne ∧
      (htapServer.sqlTransaction insertOne).1.rowStore.readLatest "t:1" =
        some (Finmap.insert "id" "1" (Finmap.insert "__table" "t" ∅)) ∧
      (htapServer.sqlTransaction insertOne).1.copy.lookup "t:1" =
        some (Finmap.insert "payload" "INSERT INTO t (id) VALUES (1)" ∅) ∧
      ¬(htapServer.runAll [insertOne]).Matches := by
  refine And.imp_right (And.imp_right (And.imp_right (mt fun h => h "t:1"))) ?_
  decide +kernel

theorem idle_htapServer : htapServer.Idle := by
  refine ⟨fun k => ?_, fun _ _ => rfl, fun _ => rfl⟩
  have hsh : htapServer.rowStore.shelf.flatten = [] := by decide +kernel
  exact PagedRowStore.readLatest_eq_none (hsh ▸ not_mem_nil)

theorem ops_insertAndDelete :
    insertAndDelete.effectiveStatements.flatMap (flushOps insertAndDelete.db) =
        [("t:1", true), ("t:1", false)] ∧
      insertAndDelete.effectiveStatements.flatMap (streamOps insertAndDelete.db) =
        [("t:1", true), ("t:1", false)] := by
  decide +kernel

theorem cancels_insertAndDelete : insertAndDelete.Cancels := by
  have hops := ops_insertAndDelete
  generalize insertAndDelete = req at hops ⊢
  intro k
  rw [hops.1, hops.2]
  rcases eq_or_ne "t:1" k with rfl | hk
  · decide
  · simp [overlay, lastWrite, hk]

theorem insertAndDelete_matches :
    htapServer.CommitsAll [insertAndDelete] ∧
      ∀ done, done <+: [insertAndDelete] → (htapServer.runAll done).Matches := by
  have hcoms : htapServer.CommitsAll [insertAndDelete] := ⟨by decide +kernel, trivial⟩
  refine ⟨hcoms, (stream_complete idle_htapServer hcoms).1 ?_⟩
  exact forall_mem_singleton.mpr cancels_insertAndDelete

end HtapServer

end VngDatabase.Tx
