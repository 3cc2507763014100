import VngDatabase.Daemon.Execute
import VngDatabase.Dml.Scan

/-!
# What a query is answered with

A query is answered from the rows in memory or, if the engine keeps rows, from those of the engine,
which lists them in the order of a hash map.
-/

namespace VngDatabase.Daemon

open Store Query Dml DurabilityEngine BootEngine ListedEngine SchemaCatalog List Option

section

variable [F64] [QueryParser] {stmt : String} {table : Option String}

/-- **All rows are listed**, since the query engine fails. -/
def ListsAll (engine : QueryEngine) (stmt : String) : Prop :=
  ∃ sel, QueryParser.parseOne stmt = .ok (some sel) ∧ "*" ∈ sel.columns ∧
    whereFilters sel.whereClause = [] ∧ sel.limit = none ∧ (unsupportedFeature sel).isSome ∧
    ∀ tables maxRows, engine stmt tables maxRows = none

theorem executeOltpSelect_of_listsAll {eng : QueryEngine}
    (h : ListsAll eng stmt) (rs : PagedRowStore) (limit : ℕ) (db : String)
    (rows : Option (List (String × RowData))) (im : Option IndexManager) :
    executeOltpSelect eng [stmt] rs limit db none rows im =
      ((databaseRows rs db none rows).take limit).map fun row => ⟨row.1, row.2⟩ := by
  obtain ⟨sel, hprs, hcols, hwhr, hlim, huns, heng⟩ := h
  rw [executeOltpSelect, foldl_cons, foldl_nil, length_nil, Nat.sub_zero]
  split_ifs with hzero
  · rw [hzero, take_zero, map_nil]
  have heng' : (if isComplex stmt then askEngine eng stmt rs limit db none rows else none) =
      none := by
    rw [askEngine, heng, ite_self]
  have hsel : ∃ what, executeSelect stmt rs limit = .error (.unsupported what) := by
    obtain ⟨what, hwhat⟩ := isSome_iff_exists.mp huns
    refine ⟨what, ?_⟩
    rw [executeSelect, hprs]
    simp only [executeParsedSelect, hwhat]
  have hmts : legacyMatches im sel = fun _ => true := by
    funext row
    have hkeys : indexedKeys im sel.table [] = none := by
      cases im <;> cases sel.table <;> rfl
    rw [legacyMatches, hwhr, hkeys]
    rfl
  have hleg : executeOltpSelectLegacy stmt rs limit [] db none rows im =
      ((databaseRows rs db none rows).take limit).map fun row => ⟨row.1, row.2⟩ := by
    simp only [executeOltpSelectLegacy, hprs, hmts, filter_true, nil_append,
      length_nil, Nat.sub_zero, SelectStatement.pageLimit, hlim, getD_none, min_self]
    exact map_congr_left fun row _ => if_pos (Or.inr hcols)
  obtain ⟨what, hwhat⟩ := hsel
  simp only [answer, length_nil, Nat.sub_zero, heng', hwhat, hleg, ite_self]

def SelectsAll (table : Option String) (stmt : String) : Prop :=
  QueryParser.parseOne stmt = .ok (some { columns := ["*"], table := table })

def foundRows (table : Option String) (rs : PagedRowStore)
    (rows : Option (List (String × RowData))) : List (String × RowData) :=
  rows.getD ((rs.scanAtSnapshot rs.currentXid).filter fun row => keyFilter table row.1)

theorem executeOltpSelect_of_selectsAll
    (h : SelectsAll table stmt) (eng : QueryEngine) (rs : PagedRowStore) (limit : ℕ)
    (db : String) (rows : Option (List (String × RowData))) (im : Option IndexManager) :
    executeOltpSelect eng [stmt] rs limit db none rows im =
      ((foundRows table rs rows).take limit).map fun row => ⟨row.1, row.2⟩ := by
  rw [SelectsAll] at h
  have hcx : isComplex stmt = false := by
    rw [isComplex, h]
    rfl
  have hwhr : whereFilters (none : Option String) = [] := rfl
  rw [executeOltpSelect, foldl_cons, foldl_nil, length_nil, Nat.sub_zero]
  split_ifs with hzero
  · rw [hzero, take_zero, map_nil]
  cases rows with
  | some rows =>
    have hkeys : indexedKeys im table [] = none := by
      cases im <;> cases table <;> rfl
    have hmts : legacyMatches im { columns := ["*"], table := table } =
        fun _ => true := by
      funext row
      rw [legacyMatches, hwhr, hkeys]
      rfl
    simp only [answer, hcx, Bool.false_eq_true, if_false, isSome_some, if_true,
      executeOltpSelectLegacy, h, databaseRows, hmts, filter_true, nil_append,
      length_nil, Nat.sub_zero, SelectStatement.pageLimit, getD_none, min_self,
      foundRows, getD_some]
    exact map_congr_left fun row _ => if_pos (Or.inr (mem_singleton_self _))
  | none =>
    have hmts : SelectStatement.rowMatches { columns := ["*"], table := table } none =
        fun row => keyFilter table row.1 := by
      funext row
      exact Bool.and_true _
    have hagg : tryExtractAggregates ["*"] = false := by decide +kernel
    have hpro : projectColumns ["*"] = id := by
      funext row
      exact if_pos (Or.inr (by decide +kernel))
    have hsel : executeSelect stmt rs limit = .ok (.rows
        ((((rs.scanAtSnapshot rs.currentXid).filter fun row => keyFilter table row.1).take
          limit).map fun row => ⟨row.1, row.2⟩)) := by
      simp only [executeSelect, h, executeParsedSelect, unsupportedFeature, parseWhere, hmts,
        hagg, SelectStatement.page, sortRows, hpro, SelectStatement.pageLimit,
        getD_none, min_self, drop_zero, Bool.or_self, Bool.false_eq_true, if_false,
        isSome_none, id]
    simp only [answer, hcx, Bool.false_eq_true, if_false, isSome_none, length_nil,
      Nat.sub_zero, hsel, nil_append, foundRows, getD_none, ← map_take,
      take_take, min_self]

omit [F64] in
theorem clientRows_of_selectsAll
    (h : SelectsAll table stmt) (limit : ℕ) (rows : List (String × RowData)) :
    clientRows limit [stmt] rows =
      (rows.filter (isShown { columns := ["*"], table := table })).take limit := by
  rw [SelectsAll] at h
  simp only [clientRows, foldl_cons, foldl_nil, h, nil_append, length_nil, Nat.sub_zero]

omit [F64] [QueryParser] in
theorem foundRows_none (rs : PagedRowStore) (rows : Option (List (String × RowData))) :
    foundRows none rs rows = rows.getD (rs.scanAtSnapshot rs.currentXid) := by
  rw [foundRows]
  exact congrArg rows.getD (filter_true _)

end

namespace Node

section

variable {E C : Type} [ListedEngine E] [SchemaCatalog C] [F64] [QueryParser]

def rowsIn (n : Node E C) (db : String) : List (String × RowData) :=
  databaseRows n.rowStore db none (n.rocksdbRows db n.rowStore.currentXid)

structure HandsOver (n : Node E C) (db : String) (rs : PagedRowStore)
    (rows : Option (List (String × RowData))) : Prop where
  memory : (rs.scanAtSnapshot rs.currentXid).Perm
    (n.rowStore.scanAtSnapshot n.rowStore.currentXid)
  engine : Option.Rel List.Perm rows (n.rocksdbRows db n.rowStore.currentXid)

/-- **The rows that are found and the rows that are shown.** -/
def Answers (n : Node E C) (engine : QueryEngine) (stmt : String) (limit : ℕ) (db : String) :
    Set (List ResultRow × List (String × RowData)) :=
  {answer | ∃ rs rows, n.HandsOver db rs rows ∧
    answer = (executeOltpSelect engine [stmt] rs limit db none rows
      (some (indexManager n.catalog)),
      clientRows limit [stmt] (databaseRows rs db none rows))}

variable {n n' : Node E C} {db : String} {engine : QueryEngine}
  {rows : Option (List (String × RowData))} {rs : PagedRowStore}

section

omit [SchemaCatalog C] [F64] [QueryParser]

theorem handsOver_self (n : Node E C) (db : String) :
    n.HandsOver db n.rowStore (n.rocksdbRows db n.rowStore.currentXid) := by
  refine ⟨.refl _, ?_⟩
  cases n.rocksdbRows db n.rowStore.currentXid with
  | none => exact .none
  | some rows => exact .some (.refl _)

theorem HandsOver.perm_rowsIn
    (h : n.HandsOver db rs rows) : (databaseRows rs db none rows).Perm (n.rowsIn db) := by
  obtain ⟨hmm, heng⟩ := h
  rw [rowsIn]
  generalize n.rocksdbRows db n.rowStore.currentXid = held at heng ⊢
  cases heng with
  | none => exact (hmm.filter _).map _
  | some hrows => exact hrows

theorem rowsIn_empty (h : persistsRows n.walEngine = false) :
    n.rowsIn "" = n.rowStore.scanAtSnapshot n.rowStore.currentXid := by
  have hnone : n.rocksdbRows "" n.rowStore.currentXid = none := by simp [rocksdbRows, h]
  rw [rowsIn, hnone, databaseRows]
  simp [Sql.isUnder_empty, stripDatabase]

def SameRows (n n' : Node E C) (db : String) : Prop :=
  if persistsRows n.walEngine then
    ∀ k, getRow n'.walEngine db k = getRow n.walEngine db k
  else ∀ k, n'.rowStore.readLatest k = n.rowStore.readLatest k

theorem maxRowXid_le_currentXid (n : Node E C) : maxRowXid n.walEngine ≤ n.rowStore.currentXid :=
  Nat.le_sub_one_of_lt n.durable

theorem SameRows.symm (hper : persistsRows n'.walEngine = persistsRows n.walEngine)
    (h : SameRows n n' db) : SameRows n' n db := by
  rw [SameRows] at h ⊢
  rw [hper]
  split_ifs at h ⊢
  · exact fun k => (h k).symm
  · exact fun k => (h k).symm

theorem sameRows_of_perm (hper : persistsRows n'.walEngine = persistsRows n.walEngine)
    (hdb : persistsRows n.walEngine = false → db = "") (h : (n'.rowsIn db).Perm (n.rowsIn db)) :
    SameRows n n' db := by
  rw [SameRows]
  split_ifs with hp
  · rw [rowsIn, rowsIn, rocksdbRows, rocksdbRows, if_pos hp, if_pos (hper.trans hp)] at h
    exact (perm_scanRowsForDb_iff hp (hper.trans hp) n.maxRowXid_le_currentXid
      n'.maxRowXid_le_currentXid db).mp h
  · have hp' : persistsRows n.walEngine = false := by simpa using hp
    rw [hdb hp', rowsIn_empty hp', rowsIn_empty (hper.trans hp')] at h
    exact PagedRowStore.perm_scanAtSnapshot_iff.mp h

end

theorem answers_subset (hidxs : indexManager n'.catalog = indexManager n.catalog)
    (hper : persistsRows n'.walEngine = persistsRows n.walEngine) (h : SameRows n n' db)
    (eng : QueryEngine) (stmt : String) (limit : ℕ) :
    n'.Answers eng stmt limit db ⊆ n.Answers eng stmt limit db := by
  rintro _ ⟨rs, rows, ⟨hmm, heng⟩, rfl⟩
  rw [hidxs]
  rw [SameRows] at h
  split_ifs at h with hp
  · -- the row store is not looked at
    have hperm := (perm_scanRowsForDb_iff hp (hper.trans hp) n.maxRowXid_le_currentXid
      n'.maxRowXid_le_currentXid db).mpr h
    rw [rocksdbRows, if_pos (hper.trans hp)] at heng
    cases heng with | @some rows _ hrows =>
    refine ⟨n.rowStore, some rows, ⟨.refl _, ?_⟩, rfl⟩
    rw [rocksdbRows, if_pos hp]
    exact .some (hrows.trans hperm)
  · refine ⟨rs, rows, ⟨hmm.trans (PagedRowStore.perm_scanAtSnapshot_iff.mpr h), ?_⟩, rfl⟩
    rw [rocksdbRows, if_neg (hper ▸ hp)] at heng
    rwa [rocksdbRows, if_neg hp]

theorem answers_congr (hidxs : indexManager n'.catalog = indexManager n.catalog)
    (hper : persistsRows n'.walEngine = persistsRows n.walEngine) (h : SameRows n n' db)
    (eng : QueryEngine) (stmt : String) (limit : ℕ) :
    n'.Answers eng stmt limit db = n.Answers eng stmt limit db :=
  (answers_subset hidxs hper h eng stmt limit).antisymm
    (answers_subset hidxs.symm hper.symm (h.symm hper) eng stmt limit)

theorem perm_of_listed {stmt : String}
    {source : PagedRowStore → Option (List (String × RowData)) → List (String × RowData)}
    (hfnd : ∀ rs limit rows indexManager,
      executeOltpSelect engine [stmt] rs limit db none rows indexManager =
        ((source rs rows).take limit).map fun row => ⟨row.1, row.2⟩)
    (hsou : ∀ rs rows, n.HandsOver db rs rows →
      (source rs rows).Perm (source n.rowStore (n.rocksdbRows db n.rowStore.currentXid)))
    (h : ∀ limit, n'.Answers engine stmt limit db = n.Answers engine stmt limit db) :
    (source n'.rowStore (n'.rocksdbRows db n'.rowStore.currentXid)).Perm
      (source n.rowStore (n.rocksdbRows db n.rowStore.currentXid)) := by
  generalize hrows' : source n'.rowStore (n'.rocksdbRows db n'.rowStore.currentXid) = rows'
  generalize hrows : source n.rowStore (n.rocksdbRows db n.rowStore.currentXid) = rows at hsou
  -- with a limit that leaves out no row
  have hself : (executeOltpSelect engine [stmt] n'.rowStore (max rows'.length rows.length) db none
      (n'.rocksdbRows db n'.rowStore.currentXid)
      (some (indexManager n'.catalog)), _) ∈
      n'.Answers engine stmt (max rows'.length rows.length) db :=
    ⟨_, _, n'.handsOver_self db, rfl⟩
  rw [h] at hself
  obtain ⟨rs, hand, hhan, heq⟩ := hself
  have hperm := hsou rs hand hhan
  have hlis := congrArg Prod.fst heq
  simp only [hfnd, hrows'] at hlis
  have hinj : Function.Injective fun row : String × RowData => (⟨row.1, row.2⟩ : ResultRow) := by
    rintro ⟨k, data⟩ ⟨k', data'⟩ hrow
    obtain ⟨rfl, rfl⟩ := ResultRow.mk.inj hrow
    rfl
  have htake := map_injective_iff.mpr hinj hlis
  rw [take_of_length_le (le_max_left _ _),
    take_of_length_le (hperm.length_eq.trans_le (le_max_right _ _))] at htake
  rw [htake]
  exact hperm

theorem perm_rowsIn_of_listsAll {stmt : String} (hall : ListsAll engine stmt)
    (h : ∀ limit, n'.Answers engine stmt limit db = n.Answers engine stmt limit db) :
    (n'.rowsIn db).Perm (n.rowsIn db) :=
  perm_of_listed (fun rs limit rows indexManager =>
    executeOltpSelect_of_listsAll hall rs limit db rows indexManager)
    (fun _ _ hhan => hhan.perm_rowsIn) h

theorem answers_eq_iff (hidxs : indexManager n'.catalog = indexManager n.catalog)
    (hper : persistsRows n'.walEngine = persistsRows n.walEngine)
    {qs databases : String → Prop} (hemp : databases "")
    (hall : ∀ stmt, qs stmt → ∃ stmt, qs stmt ∧ ListsAll engine stmt) :
    (∀ stmt, qs stmt → ∀ db, databases db → ∀ limit,
        n'.Answers engine stmt limit db = n.Answers engine stmt limit db) ↔
      ((∃ stmt, qs stmt) → ∀ db, databases db → SameRows n n' db) := by
  constructor
  · rintro h ⟨stmt, hstmt⟩ db hdb
    obtain ⟨stmt', hque, hlis⟩ := hall stmt hstmt
    cases hp : persistsRows n.walEngine with
    | true =>
      exact sameRows_of_perm hper (by simp [hp])
        (perm_rowsIn_of_listsAll hlis (h stmt' hque db hdb))
    | false =>
      -- in memory, what is in no database is everything
      have hsame := sameRows_of_perm hper (fun _ => rfl)
        (perm_rowsIn_of_listsAll hlis (h stmt' hque "" hemp))
      rw [SameRows, hp] at hsame ⊢
      exact hsame
  · intro h stmt hstmt db hdb limit
    exact answers_congr hidxs hper (h ⟨stmt, hstmt⟩ db hdb) engine stmt limit

def answerOfNothing (n : Node E C) (engine : QueryEngine) (stmt : String) (limit : ℕ)
    (db : String) : List ResultRow × List (String × RowData) :=
  (executeOltpSelect engine [stmt] (.new n.rowStore.pageSize) limit db none
    (if persistsRows n.walEngine then some [] else none)
    (some (indexManager n.catalog)), clientRows limit [stmt] [])

def NoRows (n : Node E C) (db : String) : Prop :=
  if persistsRows n.walEngine then ∀ k, getRow n.walEngine db k = none
  else ∀ k, n.rowStore.readLatest k = none

section

omit [SchemaCatalog C] [F64] [QueryParser]

theorem foundRows_none_eq_nil_iff :
    foundRows none n.rowStore (n.rocksdbRows db n.rowStore.currentXid) = [] ↔ n.NoRows db := by
  rw [NoRows, rocksdbRows, foundRows_none]
  split_ifs with hp
  · simp only [getD_some, eq_nil_iff_forall_not_mem, Prod.forall,
      mem_scanRowsForDb_iff _ _ _ _ _ hp n.maxRowXid_le_currentXid,
      eq_none_iff_forall_ne_some, ne_eq]
  · simp only [getD_none, eq_nil_iff_forall_not_mem, Prod.forall,
      PagedRowStore.mem_scanAtSnapshot_iff, eq_none_iff_forall_ne_some, ne_eq]
    rfl

theorem HandsOver.perm_foundRows
    (h : n.HandsOver db rs rows) (table : Option String) : (foundRows table rs rows).Perm
      (foundRows table n.rowStore (n.rocksdbRows db n.rowStore.currentXid)) := by
  obtain ⟨hmm, heng⟩ := h
  generalize n.rocksdbRows db n.rowStore.currentXid = held at heng ⊢
  cases heng with
  | none => exact hmm.filter _
  | some hrows => exact hrows

end

theorem NoRows.answer_eq (h : n.NoRows db) (hhan : n.HandsOver db rs rows)
    (eng : QueryEngine) (stmt : String) (limit : ℕ) :
    (executeOltpSelect eng [stmt] rs limit db none rows (some (indexManager n.catalog)),
      clientRows limit [stmt] (databaseRows rs db none rows)) =
      n.answerOfNothing eng stmt limit db := by
  have hnil := hhan.perm_foundRows none
  rw [foundRows_none_eq_nil_iff.mpr h, perm_nil, foundRows_none] at hnil
  have heng := hhan.engine
  rw [answerOfNothing]
  rw [rocksdbRows] at heng
  split_ifs at heng ⊢
  · cases heng with | some hrows =>
    rw [getD_some] at hnil
    subst hnil
    rfl
  · cases heng with | none =>
    rw [getD_none] at hnil
    have hrows : databaseRows rs db none none = [] := by
      rw [databaseRows, getD_none, hnil]
      rfl
    have hscan : rs.scanAtSnapshot rs.currentXid =
      (PagedRowStore.new n.rowStore.pageSize).scanAtSnapshot
        (PagedRowStore.new n.rowStore.pageSize).currentXid := hnil
    rw [executeOltpSelect_congr_of_scan hscan, hrows]

theorem answers_eq_nothing_iff (hbare : ∃ stmt, SelectsAll none stmt) :
    (∀ stmt limit, n.Answers engine stmt limit db = {n.answerOfNothing engine stmt limit db}) ↔
      n.NoRows db := by
  constructor
  · intro h
    obtain ⟨stmt, hstmt⟩ := hbare
    -- one row is asked for
    have hself : (executeOltpSelect engine [stmt] n.rowStore 1 db none
        (n.rocksdbRows db n.rowStore.currentXid) (some (indexManager n.catalog)), _) ∈
        n.Answers engine stmt 1 db :=
      ⟨_, _, n.handsOver_self db, rfl⟩
    rw [h, Set.mem_singleton_iff] at hself
    have hfnd := congrArg Prod.fst hself
    have hnot : foundRows none (PagedRowStore.new n.rowStore.pageSize)
        (if persistsRows n.walEngine then some [] else none) = [] := by
      split_ifs <;> rfl
    simp only [answerOfNothing, executeOltpSelect_of_selectsAll hstmt, hnot, take_nil,
      map_nil, map_eq_nil_iff] at hfnd
    rw [← foundRows_none_eq_nil_iff]
    simpa using hfnd
  · intro h stmt limit
    ext answer
    constructor
    · rintro ⟨rs, rows, hhan, rfl⟩
      exact h.answer_eq hhan engine stmt limit
    · rintro rfl
      exact ⟨_, _, n.handsOver_self db, (h.answer_eq (n.handsOver_self db) engine stmt limit).symm⟩

theorem answers_forall_eq_iff (hidxs : indexManager n'.catalog = indexManager n.catalog)
    (hper : persistsRows n'.walEngine = persistsRows n.walEngine)
    (hbare : ∃ stmt, SelectsAll none stmt) :
    (∀ stmt limit, n'.Answers engine stmt limit db = n.Answers engine stmt limit db) ↔
      SameRows n n' db := by
  constructor
  · intro h
    obtain ⟨stmt, hstmt⟩ := hbare
    have hperm := perm_of_listed (fun rs limit rows indexManager =>
      executeOltpSelect_of_selectsAll hstmt engine rs limit db rows indexManager)
      (fun _ _ hhan => hhan.perm_foundRows none) (h stmt)
    rw [foundRows_none, foundRows_none, rocksdbRows, rocksdbRows, hper] at hperm
    rw [SameRows]
    split_ifs at hperm ⊢ with hp
    · exact (perm_scanRowsForDb_iff hp (hper.trans hp) n.maxRowXid_le_currentXid
        n'.maxRowXid_le_currentXid db).mp hperm
    · exact PagedRowStore.perm_scanAtSnapshot_iff.mp hperm
  · exact fun h stmt limit => answers_congr hidxs hper h engine stmt limit

end

end Node

end VngDatabase.Daemon
