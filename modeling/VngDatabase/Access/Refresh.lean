import VngDatabase.Access.Matviews

/-!
# Refreshing a view from the changes

What the two ways of refreshing a materialized view leave behind.
-/

namespace VngDatabase.Access

open Text Sql Store Dml Query Overlay List

variable {base : String → Option RowData}

abbrev ViewRows : Type := Finmap fun _ : String => RowData

def keyedRows (view : String) (rs : PagedRowStore) : List (String × RowData) :=
  rowsWhere rs (startsWith · (matviewPrefix view))

def viewData (view : String) (rs : PagedRowStore) : Multiset RowData :=
  (keyedRows view rs).map Prod.snd

def viewTable (view : String) (rs : PagedRowStore) : ViewRows where
  entries := (keyedRows view rs).map Prod.toSigma
  nodupKeys := by
    have h := nodup_rowsWhere rs (startsWith · (matviewPrefix view))
    rw [Multiset.coe_nodupKeys, NodupKeys, keys, map_map]
    exact h

def tableData (m : ViewRows) : Multiset RowData :=
  m.entries.map Sigma.snd

def applyDelta (view : String) (m : ViewRows)
    (delta : String × RowData) : ViewRows :=
  let key := matviewPrefix view ++ (delta.2.lookup "__delta_row_key").getD ""
  if (delta.2.lookup "__delta_op").getD "INSERT" = "DELETE" then m.erase key
  else m.insert key (((delta.2.erase "__delta_op").erase "__delta_row_key").insert "__table" view)

theorem viewData_eq (view : String) (rs : PagedRowStore) :
    viewData view rs = tableData (viewTable view rs) := by
  simp [viewData, tableData, viewTable, Function.comp_def]

theorem lookup_viewTable {view : String} {rs : PagedRowStore} (h : rs.Stamped) (k : String) :
    (viewTable view rs).lookup k =
      if startsWith k (matviewPrefix view) then rs.readLatest k else none := by
  ext data
  have hmem : (⟨k, data⟩ : Sigma fun _ : String => RowData) ∈ (viewTable view rs).entries ↔
      (k, data) ∈ keyedRows view rs := by
    simp [viewTable, Prod.toSigma]
  rw [Finmap.lookup_eq_some_iff, hmem, keyedRows, mem_rowsWhere h]
  split_ifs with hk <;> simp [hk]

theorem ne_of_startsWith {view table k key : String} (hk : startsWith k (matviewPrefix view))
    (hkey : startsWith key (deltaPrefix table)) : key ≠ k := by
  rintro rfl
  have h := startsWith_of_matviewPrefix hk
  have h' := startsWith_of_deltaPrefix hkey
  rw [startsWith, isPrefixOf_iff_prefix] at h h'
  rcases prefix_or_prefix_of_prefix h h' with h | h
  · revert h
    decide
  · revert h
    decide

theorem lookup_applyDelta {view table : String} {m : ViewRows} {delta : String × RowData}
    (hdelt : startsWith delta.1 (deltaPrefix table))
    (hm : ∀ k, m.lookup k = if startsWith k (matviewPrefix view) then base k else none)
    (k : String) :
    (applyDelta view m delta).lookup k = if startsWith k (matviewPrefix view) then
      overlay (rowWrites (applyDeltaActions view delta)) base k else none := by
  obtain ⟨key, hkey⟩ : ∃ key, key =
    matviewPrefix view ++ (delta.2.lookup "__delta_row_key").getD "" := ⟨_, rfl⟩
  obtain ⟨v, hv⟩ : ∃ v : Option RowData, rowWrites (applyDeltaActions view delta) =
      [(key, v)] ++ [(delta.1, none)] ∧
      ∀ k, (applyDelta view m delta).lookup k = if k = key then v else m.lookup k := by
    rw [applyDeltaActions, applyDelta, ← hkey]
    split_ifs
    · refine ⟨none, rfl, fun k => ?_⟩
      split_ifs with hk
      · rw [hk, Finmap.lookup_erase]
      · exact Finmap.lookup_erase_ne hk
    · refine ⟨some _, rfl, fun k => ?_⟩
      split_ifs with hk
      · rw [hk, Finmap.lookup_insert]
      · exact Finmap.lookup_insert_of_ne _ hk
  rw [hv.1, hv.2, overlay_append, overlay_singleton, overlay_singleton]
  by_cases hk : startsWith k (matviewPrefix view)
  · rw [if_pos hk, Function.update_of_ne (ne_of_startsWith hk hdelt).symm, Function.update_apply,
      hm, if_pos hk]
  · have hne : k ≠ key := by
      rintro rfl
      exact hk (hkey ▸ startsWith_append _ _)
    rw [if_neg hk, if_neg hne, hm, if_neg hk]

theorem lookup_foldl_applyDelta {view table : String} {m : ViewRows}
    {deltas : List (String × RowData)}
    (hdelt : ∀ delta ∈ deltas, startsWith delta.1 (deltaPrefix table))
    (hm : ∀ k, m.lookup k = if startsWith k (matviewPrefix view) then base k else none)
    (k : String) :
    (deltas.foldl (applyDelta view) m).lookup k = if startsWith k (matviewPrefix view) then
      overlay (rowWrites (deltas.flatMap (applyDeltaActions view))) base k else none := by
  induction deltas generalizing m base with
  | nil => exact hm k
  | cons delta deltas ih =>
    rw [forall_mem_cons] at hdelt
    rw [flatMap_cons, rowWrites, filterMap_append, overlay_append]
    exact ih hdelt.2 (lookup_applyDelta hdelt.1 hm)

def filledRows (view : String) (rows : List ResultRow) : List (String × RowData) :=
  rows.zipIdx.map fun row =>
    (matviewPrefix view ++ toString row.2, row.1.data.insert "__table" view)

theorem nodup_filledRows (view : String) (rows : List ResultRow) :
    ((filledRows view rows).map Prod.fst).Nodup := by
  have hinj : Function.Injective fun i : ℕ => matviewPrefix view ++ toString i := by
    intro i j hij
    have hdig := String.ofList_injective ((String.append_right_inj _).mp hij)
    have hval := congrArg (Nat.ofDigitChars 10 · 0) hdig
    simpa only [Nat.ofDigitChars_ten_toDigits] using hval
  have hkeys : (filledRows view rows).map Prod.fst =
      (range' 0 rows.length).map fun i => matviewPrefix view ++ toString i := by
    rw [← zipIdx_map_snd, filledRows, map_map, map_map]
    rfl
  rw [hkeys]
  exact (nodup_range' _).map hinj

section

variable {E : Type} [BootEngine E] [F64] [QueryParser] [Unicode] {engine : QueryEngine}
  {indexes : IndexManager} {db : String} (originalStatement view : String) {s : Server E}

def MatviewCommand.dataAfter (engine : QueryEngine) (indexes : IndexManager) (db : String)
    (originalStatement : String) (s : Server E) (view : String) (cmd : MatviewCommand) :
    Multiset RowData :=
  viewData view (s.perform (cmd.actions engine indexes db originalStatement s)).rowStore

/-- **The recorded changes are laid over the rows of the view.** -/
theorem viewTable_refreshIncrementally (hcap : s.rowStore.maxRowsCap = 0) :
    viewTable view (s.perform (MatviewCommand.actions engine indexes db originalStatement s
        (.refreshIncrementally view))).rowStore =
      (rowsWhere s.rowStore (startsWith · (deltaPrefix (definingSql originalStatement).2))).foldl
        (applyDelta view) (viewTable view s.rowStore) := by
  refine Finmap.ext_lookup fun k => ?_
  have hdeltas : ∀ delta ∈ rowsWhere s.rowStore
      (startsWith · (deltaPrefix (definingSql originalStatement).2)),
      startsWith delta.1 (deltaPrefix (definingSql originalStatement).2) :=
    fun delta hdelt => (mem_filter.mp hdelt).2
  rw [lookup_viewTable (Server.stamped _), (s.writes_perform _).readLatest_eq_overlay hcap,
    lookup_foldl_applyDelta hdeltas (lookup_viewTable s.stamped)]
  rfl

/-- **A full refresh leaves the rows of the query.** -/
theorem dataAfter_refresh (hcap : s.rowStore.maxRowsCap = 0) :
    MatviewCommand.dataAfter engine indexes db originalStatement s view (.refresh view) =
      (viewRows engine indexes db (definingSql originalStatement).1 s).map
        fun row => row.data.insert "__table" view := by
  obtain ⟨rows, hrows⟩ : ∃ rows, viewRows engine indexes db (definingSql originalStatement).1 s =
    rows := ⟨_, rfl⟩
  rw [MatviewCommand.dataAfter, MatviewCommand.actions, hrows]
  have hdata : (filledRows view rows).map Prod.snd =
      rows.map fun row => row.data.insert "__table" view := by
    rw [filledRows, map_map, ← zipIdx_map_fst 0 rows, map_map, zipIdx_map_fst]
    rfl
  have hwr : rowWrites ((rowsWhere s.rowStore (startsWith · (matviewPrefix view))).map
        (fun row => Action.remove row.1) ++ fillActions view rows) =
      ((keyedRows view s.rowStore).map Prod.fst).map (fun k => (k, none)) ++
        (filledRows view rows).map fun row => (row.1, some row.2) := by
    rw [rowWrites, filterMap_append, fillActions, filledRows, filterMap_map, filterMap_map,
      map_map, map_map, ← filterMap_eq_map, ← filterMap_eq_map]
    rfl
  rw [← hdata, viewData, Multiset.coe_eq_coe]
  refine Perm.map _ ((perm_ext_iff_of_nodup (nodup_rowsWhere _ _).of_map
    (nodup_filledRows view rows).of_map).mpr fun row => ?_)
  obtain ⟨k, data⟩ := row
  rw [mem_rowsWhere (Server.stamped _), (s.writes_perform _).readLatest_eq_overlay hcap, hwr,
    overlay_append, overlay, lastWrite_map_snd, overlay_map_const,
    ← lastWrite_eq_some_iff (nodup_filledRows view rows)]
  cases hlast : lastWrite (filledRows view rows) k with
  | none =>
    -- no new row has this key: the old one, if there was one, is gone
    simp only [Option.map_none, Option.getD_none, reduceCtorEq, iff_false]
    rintro ⟨hk, hread⟩
    split_ifs at hread with hold
    exact hold (mem_map.mpr ⟨(k, data), (mem_rowsWhere s.stamped).mpr ⟨hk, hread⟩, rfl⟩)
  | some data' =>
    obtain ⟨row, -, hrow⟩ := mem_map.mp (mem_of_lastWrite hlast)
    obtain ⟨rfl, -⟩ := Prod.mk.inj hrow
    simp [startsWith_append]

end

section

local instance viewUnicode : Unicode := .ascii

local instance viewNumbers : F64 := Query.Sample.instF64

local instance viewParser : QueryParser where
  parseOne sql :=
    if sql = "SELECT * FROM t" then .ok (some { columns := ["*"], table := some "t" })
    else .error "no such statement"
  parsePredicate _ := .error "no condition"
  collectQueryTableNames _ := ["t"]

def createView : String := "CREATE MATERIALIZED VIEW v AS SELECT * FROM t"

def insertedRow : Server InMemoryEngine :=
  let s := Server.empty {} maxRowXid_memory
  s.perform (directActions "" "INSERT INTO t (id, c) VALUES (1, 'x')" s.state)

def populated : Server InMemoryEngine :=
  populate (fun _ _ _ => none) ⟨[], nodup_nil⟩ "" insertedRow (createView ++ " WITH DATA")

def deletedRow : Server InMemoryEngine :=
  populated.perform (directActions "" "DELETE FROM t WHERE id = 1" populated.state)

def dataOfView (s : Server InMemoryEngine) : MatviewCommand → Multiset RowData :=
  MatviewCommand.dataAfter (fun _ _ _ => none) ⟨[], nodup_nil⟩ "" createView s "v"

end

end VngDatabase.Access
