import VngDatabase.Noninterference
import VngDatabase.Query.Select
import VngDatabase.Store.View

/-!
# What a query in a database can see

A query in database `d` should see nothing but rows under keys that start with `d.` (`AgreeOn`,
`Isolated`). Of the three executors one keeps to this (`databaseRows_congr`).
-/

namespace VngDatabase.Query

open Text Store PagedRowStore List Option
open Sql (isUnder isUnder_empty)

/-! ### Keys of a database -/

theorem isUnder_of_startsWith {db table key : String}
    (h : startsWith key (makeTableScanPrefix db table)) : isUnder db key := by
  rcases eq_or_ne db "" with rfl | hdb
  · exact isUnder_empty key
  · rw [isUnder, Bool.or_eq_true]
    refine Or.inr ( isPrefixOf_iff_prefix.mpr ?_)
    refine List.IsPrefix.trans ?_ ( isPrefixOf_iff_prefix.mp h)
    rw [makeTableScanPrefix, Sql.toList_dbPrefixKey hdb]
    exact ⟨(table ++ ":").toList, by simp⟩

def Issued (rs : PagedRowStore) : Prop :=
  ∀ row ∈ rs.rows, ∀ v ∈ row.versions, 0 < v.xid ∧ v.xid ≤ rs.currentXid

/-- **The same rows under the database**, version by version. -/
structure AgreeOn (db : String) (rs₁ rs₂ : PagedRowStore) : Prop where
  issued₁ : Issued rs₁
  issued₂ : Issued rs₂
  rows : Noninterference.AgreeOn (fun row => isUnder db row.key) rs₁.rows rs₂.rows

theorem listed_congr {rs₁ rs₂ : PagedRowStore} {row : MvccRow} (h₁ : Issued rs₁) (h₂ : Issued rs₂)
    (hrow₁ : row ∈ rs₁.rows) (hrow₂ : row ∈ rs₂.rows) (x : Option Xid) :
    listed (x.getD rs₁.currentXid) row =
      listed (x.getD rs₂.currentXid) row := by
  cases x with
  | some xid => rfl
  | none =>
    have hlast : Versions.lastAtMost RowVersion.xid rs₁.currentXid row.versions =
        Versions.lastAtMost RowVersion.xid rs₂.currentXid row.versions :=
      Versions.lastAtMost_congr fun v hv =>
        iff_of_true (h₁ row hrow₁ v hv).2 (h₂ row hrow₂ v hv).2
    rw [getD_none, getD_none, listed, listed, MvccRow.visibleAt, MvccRow.visibleAt, hlast]

theorem scanAtSnapshot_zero {rs : PagedRowStore} (h : Issued rs) : rs.scanAtSnapshot 0 = [] := by
  rw [scanAtSnapshot_eq, filterMap_eq_nil_iff]
  intro row hrow
  have hlast : Versions.lastAtMost RowVersion.xid 0 row.versions = none := by
    rw [Versions.lastAtMost, find?_eq_none]
    intro v hv
    have := (h row hrow v (mem_reverse.mp hv)).1
    simpa using this.ne'
  rw [listed, MvccRow.visibleAt, hlast]
  rfl

theorem filter_filterMap_listed (db : String) (x : Xid) (rows : List MvccRow) :
    (rows.filterMap (listed x)).filter (fun row => isUnder db row.1) =
      (rows.filter fun row => isUnder db row.key).filterMap (listed x) := by
  rw [filter_filterMap, filterMap_filter]
  refine filterMap_congr fun row _ => ?_
  rw [listed]
  cases row.visibleAt x with
  | none => simp
  | some data => cases h : isUnder db row.key <;> simp [h]

theorem AgreeOn.scan {db : String} {rs₁ rs₂ : PagedRowStore} (h : AgreeOn db rs₁ rs₂)
    (x : Option Xid) :
    Noninterference.AgreeOn (fun row : String × RowData => isUnder db row.1)
      (rs₁.scanAtSnapshot (x.getD rs₁.currentXid))
      (rs₂.scanAtSnapshot (x.getD rs₂.currentXid)) := by
  rw [Noninterference.AgreeOn, scanAtSnapshot_eq, scanAtSnapshot_eq, filter_filterMap_listed,
    filter_filterMap_listed, ← h.rows]
  refine filterMap_congr fun row hrow => ?_
  exact listed_congr h.issued₁ h.issued₂ (mem_filter.mp hrow).1
    (mem_filter.mp (h.rows ▸ hrow)).1 x

def storeOf (rows : List (String × RowData)) (h : (rows.map Prod.fst).Nodup) : PagedRowStore where
  pages := [⟨0, rows.map fun row => ⟨row.1, [⟨1, false, row.2⟩]⟩⟩]
  pageSize := rows.length + 1
  nextPageId := 1
  nextXid := 2
  writeIntents := fun _ => none
  maxRowsCap := 0
  nonempty := by simp
  distinct := by simpa [StorePage.keys, Function.comp_def] using h

section

variable {rows rows' : List (String × RowData)} (h : (rows.map Prod.fst).Nodup)
  (h' : (rows'.map Prod.fst).Nodup)

theorem rows_storeOf :
    (storeOf rows h).rows = rows.map fun row => ⟨row.1, [⟨1, false, row.2⟩]⟩ := by
  simp [storeOf, PagedRowStore.rows]

theorem issued_storeOf : Issued (storeOf rows h) := by
  intro row hrow v hv
  rw [rows_storeOf] at hrow
  obtain ⟨r, -, rfl⟩ := mem_map.mp hrow
  rw [mem_singleton.mp hv]
  exact ⟨Nat.one_pos, le_rfl⟩

theorem scan_storeOf (x : Option Xid) (hx : x ≠ some 0) :
    (storeOf rows h).scanAtSnapshot (x.getD (storeOf rows h).currentXid) = rows := by
  have hcur : (storeOf rows h).currentXid = 1 := rfl
  have hle : 1 ≤ x.getD 1 := by
    cases x with
    | none => exact le_rfl
    | some xid => exact Nat.one_le_iff_ne_zero.mpr fun h0 => hx (congrArg some h0)
  rw [scanAtSnapshot_eq, rows_storeOf, hcur, filterMap_map]
  have hlis : ∀ row ∈ rows, (listed (x.getD 1) ∘ fun row : String × RowData =>
      (⟨row.1, [⟨1, false, row.2⟩]⟩ : MvccRow)) row = some row := by
    intro row _
    simp [listed, MvccRow.visibleAt, Versions.lastAtMost, RowVersion.value, hle]
  rw [filterMap_congr hlis, filterMap_some]

theorem agreeOn_storeOf {db : String}
    (hagr : Noninterference.AgreeOn (fun row : String × RowData => isUnder db row.1) rows rows') :
    AgreeOn db (storeOf rows h) (storeOf rows' h') := by
  refine ⟨issued_storeOf h, issued_storeOf h', ?_⟩
  rw [Noninterference.AgreeOn, rows_storeOf, rows_storeOf, List.filter_map, List.filter_map]
  exact congrArg _ hagr

end

section

variable {db : String} {rs₁ rs₂ : PagedRowStore}

theorem databaseRows_congr (h : AgreeOn db rs₁ rs₂) (x : Option Xid)
    (rocksdbRows : Option (List (String × RowData))) :
    databaseRows rs₁ db x rocksdbRows = databaseRows rs₂ db x rocksdbRows := by
  cases rocksdbRows with
  | some rows => rfl
  | none => exact congrArg (map _) (h.scan x)

theorem tableRows_congr {l₁ l₂ : List (String × RowData)} {name : String}
    (h : Noninterference.AgreeOn (fun row : String × RowData => isUnder db row.1) l₁ l₂)
    (hname : isUnder db name) : tableRows db l₁ name = tableRows db l₂ name := by
  refine congrArg (map _) (h.filter_eq fun row hrow => ?_)
  rw [Bool.or_eq_true, decide_eq_true_iff] at hrow
  rcases hrow with hrow | hrow
  · rw [hrow, hname]
  · exact isUnder_of_startsWith hrow

variable [F64] [QueryParser]

def fastPath (stmt : String) : Option (SelectStatement × Option Expr) :=
  match QueryParser.parseOne stmt with
  | .ok (some sel) =>
    if (unsupportedFeature sel).isSome || tryExtractAggregates sel.columns then none
    else match parseWhere sel with
      | .ok whereExpr => some (sel, whereExpr)
      | .error _ => none
  | _ => none

theorem executeSelect_of_fastPath {stmt : String} {sel : SelectStatement}
    {whereExpr : Option Expr} (h : fastPath stmt = some (sel, whereExpr)) (rs : PagedRowStore)
    (mr : ℕ) : executeSelect stmt rs mr = .ok (.rows (sel.page mr
      ((rs.scanAtSnapshot rs.currentXid).filter (sel.rowMatches whereExpr)))) := by
  rw [fastPath] at h
  rw [executeSelect]
  split at h
  · rename_i sel' hprs
    rw [hprs]
    split_ifs at h with hno
    rw [Bool.or_eq_true, not_or, not_isSome_iff_eq_none] at hno
    split at h
    · rename_i whereExpr' hwhr
      obtain ⟨rfl, rfl⟩ := Prod.mk.inj (some.inj h)
      simp only [executeParsedSelect, hno.1, hwhr, hno.2, if_false, Bool.false_eq_true]
    · cases h
  · cases h

theorem executeSelect_congr {stmt : String} (h : fastPath stmt = none) (rs₁ rs₂ : PagedRowStore)
    (maxRows : ℕ) : executeSelect stmt rs₁ maxRows = executeSelect stmt rs₂ maxRows := by
  rw [fastPath] at h
  rw [executeSelect, executeSelect]
  split at h
  · rename_i sel hprs
    rw [hprs]
    simp only [executeParsedSelect]
    cases hfea : unsupportedFeature sel with
    | some what => rfl
    | none =>
      cases hwhr : parseWhere sel with
      | error e => rfl
      | ok whereExpr =>
        cases hagg : tryExtractAggregates sel.columns with
        | true => rfl
        | false => simp [hfea, hwhr, hagg] at h
  · rename_i hno
    cases hprs : QueryParser.parseOne stmt with
    | error why => rfl
    | ok sel =>
      cases sel with
      | none => rfl
      | some sel => exact absurd hprs (hno sel)

section

omit [QueryParser]

theorem length_sortRows (orderBy : List OrderByClause) (rows : List (String × RowData)) :
    (sortRows orderBy rows).length = rows.length := by
  cases orderBy with
  | nil => rfl
  | cons ob _ => exact length_mergeSort _

theorem length_page (sel : SelectStatement) (mr : ℕ) (matched : List (String × RowData)) :
    (sel.page mr matched).length =
      min (sel.pageLimit mr) (matched.length - sel.offset.getD 0) := by
  rw [SelectStatement.page, length_map, length_take, length_drop, length_sortRows]

theorem take_page (sel : SelectStatement) (mr : ℕ) (matched : List (String × RowData)) :
    (sel.page mr matched).take mr = sel.page mr matched := by
  refine take_of_length_le ?_
  rw [length_page]
  exact (min_le_left _ _).trans (min_le_right _ _)

end

end

/-! ### Isolation -/

section

variable [F64] [QueryParser]

def Isolated (stmt : String) (limit : ℕ) (db : String) (snapshotXid : Option Xid)
    (rocksdbRows : Option (List (String × RowData))) (indexManager : Option IndexManager) : Prop :=
  ∀ engine rs₁ rs₂, AgreeOn db rs₁ rs₂ →
    executeOltpSelect engine [stmt] rs₁ limit db snapshotXid rocksdbRows indexManager =
      executeOltpSelect engine [stmt] rs₂ limit db snapshotXid rocksdbRows indexManager

/-- **The page can show nothing but rows of the database.** -/
def PageConfined (db : String) (limit : ℕ) (sel : SelectStatement) (whereExpr : Option Expr) :
    Prop :=
  sel.pageLimit limit = 0 ∨
    ∀ rows : List (String × RowData), (rows.map Prod.fst).Nodup →
      (∀ row ∈ rows, sel.rowMatches whereExpr row) → rows.length = sel.offset.getD 0 + 1 →
      ∀ row ∈ rows, isUnder db row.1

/-- **The statement keeps to the database.** -/
def Confined (stmt : String) (limit : ℕ) (db : String) (snapshotXid : Option Xid)
    (rocksdbRows : Option (List (String × RowData))) : Prop :=
  limit = 0 ∨ rocksdbRows.isSome ∨
    ((isComplex stmt → snapshotXid ≠ some 0 →
        ∀ name ∈ QueryParser.collectQueryTableNames stmt, isUnder db name) ∧
      ∀ sel whereExpr, fastPath stmt = some (sel, whereExpr) →
        PageConfined db limit sel whereExpr)

variable {stmt db : String} {limit : ℕ} {snapshotXid : Option Xid}
  {rocksdbRows : Option (List (String × RowData))} {indexManager : Option IndexManager}

theorem executeOltpSelect_singleton (eng : QueryEngine) (rs : PagedRowStore) :
    executeOltpSelect eng [stmt] rs limit db snapshotXid rocksdbRows indexManager =
      if limit = 0 then []
      else answer eng rs limit db snapshotXid rocksdbRows indexManager [] stmt := rfl

omit [F64] in
theorem askEngine_congr {rs₁ rs₂ : PagedRowStore} (eng : QueryEngine) (mr : ℕ)
    (h : AgreeOn db rs₁ rs₂)
    (hnms : snapshotXid ≠ some 0 →
      ∀ name ∈ QueryParser.collectQueryTableNames stmt, isUnder db name) :
    askEngine eng stmt rs₁ mr db snapshotXid none =
      askEngine eng stmt rs₂ mr db snapshotXid none := by
  rw [askEngine, askEngine, getD_none, getD_none]
  by_cases hx : snapshotXid = some 0
  · rw [hx, getD_some, getD_some, scanAtSnapshot_zero h.issued₁, scanAtSnapshot_zero h.issued₂]
  · refine congrArg (fun tables => eng stmt tables mr) (map_congr_left ?_)
    intro name hname
    rw [tableRows_congr (h.scan snapshotXid) (hnms hx name hname)]

theorem executeSelect_congr_of_confined {rs₁ rs₂ : PagedRowStore} (h : AgreeOn db rs₁ rs₂)
    (hpage : ∀ sel whereExpr, fastPath stmt = some (sel, whereExpr) →
      PageConfined db limit sel whereExpr) :
    executeSelect stmt rs₁ limit = executeSelect stmt rs₂ limit := by
  cases hfast : fastPath stmt with
  | none => exact executeSelect_congr hfast rs₁ rs₂ limit
  | some p =>
    obtain ⟨sel, whereExpr⟩ := p
    rw [executeSelect_of_fastPath hfast, executeSelect_of_fastPath hfast]
    refine congrArg (Except.ok ∘ SelectOutput.rows) ?_
    exact (Noninterference.page_safe_iff Prod.fst (length_page sel limit)).mpr
      (hpage sel whereExpr hfast) _ _ (nodup_scanAtSnapshot _ _) (nodup_scanAtSnapshot _ _)
      (h.scan none)

theorem isolated_of_confined (h : Confined stmt limit db snapshotXid rocksdbRows) :
    Isolated stmt limit db snapshotXid rocksdbRows indexManager := by
  intro engine rs₁ rs₂ hagr
  rw [executeOltpSelect_singleton, executeOltpSelect_singleton]
  refine if_ctx_congr Iff.rfl (fun _ => rfl) fun hlim => ?_
  rw [answer, answer]
  simp only [executeOltpSelectLegacy, databaseRows_congr hagr, length_nil, Nat.sub_zero]
  cases rocksdbRows with
  | some rows => rfl
  | none =>
    obtain ⟨hnms, hpage⟩ := (h.resolve_left hlim).resolve_left (by simp)
    rw [executeSelect_congr_of_confined hagr hpage]
    cases hcx : isComplex stmt with
    | false => rfl
    | true => rw [askEngine_congr engine limit hagr (hnms hcx)]

def echoEngine : QueryEngine := fun _ tables _ =>
  some (tables.flatMap fun table => table.2.map fun row => ⟨row.1, row.2⟩)

theorem isUnder_of_isolated (h : Isolated stmt limit db snapshotXid none indexManager)
    (hlim : limit ≠ 0) (hcx : isComplex stmt) (hx : snapshotXid ≠ some 0) {name : String}
    (hname : name ∈ QueryParser.collectQueryTableNames stmt) : isUnder db name := by
  by_contra hnot
  have hagr : AgreeOn db (storeOf [] nodup_nil)
      (storeOf [(name, ∅)] (nodup_singleton _)) :=
    agreeOn_storeOf _ _ (by simp [Noninterference.AgreeOn, hnot])
  have heq := h echoEngine _ _ hagr
  rw [executeOltpSelect_singleton, executeOltpSelect_singleton, if_neg hlim, if_neg hlim,
    answer, answer] at heq
  simp only [hcx, if_true, askEngine, getD_none, scan_storeOf _ _ hx, echoEngine,
    flatMap_map, length_nil, Nat.sub_zero, nil_append] at heq
  -- there are no rows in the one store, so there should be none from the other
  have hnone : ((QueryParser.collectQueryTableNames stmt).flatMap fun name =>
      (tableRows db [] name).map fun row => (⟨row.1, row.2⟩ : ResultRow)) = [] :=
    flatMap_eq_nil_iff.mpr fun _ _ => rfl
  rw [hnone, take_nil, eq_comm, take_eq_nil_iff, or_iff_right hlim, flatMap_eq_nil_iff] at heq
  simpa [tableRows] using heq name hname

theorem pageConfined_of_isolated (h : Isolated stmt limit db snapshotXid none indexManager)
    (hlim : limit ≠ 0) {sel : SelectStatement} {whereExpr : Option Expr}
    (hfast : fastPath stmt = some (sel, whereExpr)) : PageConfined db limit sel whereExpr := by
  refine (Noninterference.page_safe_iff Prod.fst (length_page sel limit)).mp ?_
  intro l₁ l₂ hl₁ hl₂ hagr
  -- the query engine fails, so the statement is answered by walking its syntax tree
  have heq := h (fun _ _ _ => none) _ _ (agreeOn_storeOf hl₁ hl₂ hagr)
  rw [executeOltpSelect_singleton, executeOltpSelect_singleton, if_neg hlim, if_neg hlim,
    answer, answer] at heq
  have hscan : ∀ (l : List (String × RowData)) hl,
      (storeOf l hl).scanAtSnapshot (storeOf l hl).currentXid = l := fun l hl =>
    scan_storeOf hl none (by simp)
  simpa only [askEngine, ite_self, isSome_none, Bool.false_eq_true, if_false,
    executeSelect_of_fastPath hfast, hscan, length_nil, Nat.sub_zero, nil_append,
    take_page] using heq

/-- **Exactly the statements that keep to their database show nothing of others.** -/
theorem select_isolated_iff :
    Isolated stmt limit db snapshotXid rocksdbRows indexManager ↔
      Confined stmt limit db snapshotXid rocksdbRows := by
  constructor
  · intro h
    by_cases hlim : limit = 0
    · exact Or.inl hlim
    cases rocksdbRows with
    | some rows => exact Or.inr (Or.inl rfl)
    | none =>
      refine Or.inr (Or.inr ⟨?_, ?_⟩)
      · intro hcx hx name hname
        exact isUnder_of_isolated h hlim hcx hx hname
      · intro sel whereExpr hfast
        exact pageConfined_of_isolated h hlim hfast
  · exact isolated_of_confined

end

namespace Sample

scoped instance : QueryParser where
  parseOne sql :=
    if sql = "SELECT * FROM e.users" then
      .ok (some { columns := ["*"], table := some "e.users" })
    else .error "no such statement"
  parsePredicate _ := .error "no condition"
  collectQueryTableNames _ := ["users"]

def user : RowData := Finmap.insert "name" "ann" ∅

def withUser : PagedRowStore := (PagedRowStore.new 64).beginXid.1.insert 1 "e.users:1" user

end Sample

open scoped Sample

/-- **A query in `d` returns a row of `e`.** -/
theorem select_reads_other_database :
    AgreeOn "d" (PagedRowStore.new 64) Sample.withUser ∧
    ∀ engine : QueryEngine,
      executeOltpSelect engine ["SELECT * FROM e.users"] (PagedRowStore.new 64) 100 "d"
        none none none = [] ∧
      executeOltpSelect engine ["SELECT * FROM e.users"] Sample.withUser 100 "d"
        none none none = [⟨"e.users:1", Sample.user⟩] := by
  refine ⟨⟨?_, ?_, ?_⟩, fun engine => ?_⟩
  · intro row hrow
    cases hrow
  · unfold Issued
    decide +kernel
  · unfold Noninterference.AgreeOn
    decide +kernel
  · have hsim : isComplex "SELECT * FROM e.users" = false := by decide +kernel
    simp only [executeOltpSelect_singleton, answer, hsim, Bool.false_eq_true, if_false]
    decide +kernel

end VngDatabase.Query
