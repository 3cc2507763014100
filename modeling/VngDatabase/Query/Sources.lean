import VngDatabase.Query.Isolation

/-!
# Two sources of rows

The rows of a query come from the row store, under keys that start with their database, or from an
engine, which hands them over without it, and the two are read in different ways (`answer`).
-/

namespace VngDatabase.Query

open Text Store PagedRowStore QueryParser List Option
open Sql (isUnder isUnder_empty dbPrefixKey)

/-! ### Rows with and without their database -/

def prefixed (db : String) (rows : List (String × RowData)) : List (String × RowData) :=
  rows.map fun row => (dbPrefixKey db row.1, row.2)

theorem isUnder_dbPrefixKey (db key : String) : isUnder db (dbPrefixKey db key) := by
  rcases eq_or_ne db "" with rfl | hdb
  · exact isUnder_empty _
  · rw [isUnder, Bool.or_eq_true]
    refine Or.inr ( isPrefixOf_iff_prefix.mpr ?_)
    rw [Sql.toList_dbPrefixKey hdb]
    exact ⟨key.toList, by simp⟩

theorem stripDatabase_dbPrefixKey (db key : String) :
    stripDatabase db (dbPrefixKey db key) = key := by
  rcases eq_or_ne db "" with rfl | hdb
  · rw [stripDatabase, if_pos rfl, Sql.dbPrefixKey_empty]
  · rw [stripDatabase, if_neg hdb, dbPrefixKey, if_neg hdb, stripPrefix_append, getD_some]

theorem nodup_prefixed (db : String) {rows : List (String × RowData)}
    (h : (rows.map Prod.fst).Nodup) : ((prefixed db rows).map Prod.fst).Nodup := by
  rw [prefixed, List.map_map]
  have hkeys := h.map (Sql.dbPrefixKey_injective db)
  rwa [List.map_map] at hkeys

def HeldIn (rs : PagedRowStore) (db : String) (rows : List (String × RowData)) : Prop :=
  ∃ rows', rows'.Perm rows ∧ rs.scanAtSnapshot rs.currentXid = prefixed db rows'

theorem databaseRows_of_scan {rs : PagedRowStore} {db : String} {rows : List (String × RowData)}
    (h : rs.scanAtSnapshot rs.currentXid = prefixed db rows) :
    databaseRows rs db none none = rows := by
  rw [databaseRows, Option.getD_none, h, prefixed, List.filter_map]
  have hall : rows.filter ((fun row : String × RowData => isUnder db row.1) ∘
      fun row => (dbPrefixKey db row.1, row.2)) = rows :=
    List.filter_eq_self.mpr fun row _ => isUnder_dbPrefixKey db row.1
  rw [hall, List.map_map]
  refine (List.map_congr_left fun row _ => ?_).trans (List.map_id rows)
  exact Prod.ext (stripDatabase_dbPrefixKey db row.1) rfl

def SameTables (tables tables' : List (String × List (String × RowData))) : Prop :=
  List.Forall₂ (fun t t' => t.1 = t'.1 ∧ t.2.Perm t'.2) tables tables'

theorem SameTables.trans {tables tables' tables'' : List (String × List (String × RowData))}
    (h : SameTables tables tables') (h' : SameTables tables' tables'') :
    SameTables tables tables'' := by
  induction h generalizing tables'' with
  | nil => exact h'
  | cons ht _ ih =>
    cases h' with
    | cons ht' hts' => exact .cons ⟨ht.1.trans ht'.1, ht.2.trans ht'.2⟩ (ih hts')

def Setwise (engine : QueryEngine) : Prop :=
  ∀ stmt tables tables' maxRows, SameTables tables tables' →
    engine stmt tables maxRows = engine stmt tables' maxRows

theorem sameTables_map_iff {names : List String} {f g : String → List (String × RowData)} :
    SameTables (names.map fun name => (name, f name)) (names.map fun name => (name, g name)) ↔
      ∀ name ∈ names, (f name).Perm (g name) := by
  rw [SameTables, forall₂_map_left_iff, forall₂_map_right_iff, forall₂_same]
  exact forall₂_congr fun _ _ => and_iff_right rfl

section

variable [F64] [QueryParser]

def legacyRows (stmt : String) (limit : ℕ) (indexManager : Option IndexManager)
    (rows : List (String × RowData)) : List ResultRow :=
  match parseOne stmt with
  | .ok (some sel) =>
    ((rows.filter (legacyMatches indexManager sel)).take (sel.pageLimit limit)).map fun row =>
      applyProjection sel.columns ⟨row.1, row.2⟩
  | _ => []

def leftToTexts (stmt : String) : Bool :=
  match parseOne stmt with
  | .ok (some sel) =>
    (unsupportedFeature sel).isSome ||
      ((parseWhere sel).toOption.isSome && tryExtractAggregates sel.columns)
  | _ => false

def memoryRows (stmt : String) (limit : ℕ) (db : String) (indexManager : Option IndexManager)
    (rows : List (String × RowData)) : List ResultRow :=
  match fastPath stmt with
  | some (sel, whereExpr) => sel.page limit ((prefixed db rows).filter (sel.rowMatches whereExpr))
  | none => if leftToTexts stmt then legacyRows stmt limit indexManager rows else []

def SourceIndependent (stmt : String) (limit : ℕ) (db : String) (rows : List (String × RowData))
    (indexManager : Option IndexManager) : Prop :=
  ∀ engine, Setwise engine → ∀ rs rs', HeldIn rs db rows → ∀ row,
    row ∈ executeOltpSelect engine [stmt] rs' limit db none (some rows) indexManager ↔
      row ∈ executeOltpSelect engine [stmt] rs limit db none none indexManager

structure SourceBlind (stmt : String) (limit : ℕ) (db : String) (rows : List (String × RowData))
    (indexManager : Option IndexManager) : Prop where
  tables : isComplex stmt → ∀ name ∈ collectQueryTableNames stmt,
    (tableRows db rows name).Perm (tableRows db (prefixed db rows) name)
  fallback : ∀ rows', rows'.Perm rows → ∀ row,
    row ∈ legacyRows stmt limit indexManager rows ↔
      row ∈ memoryRows stmt limit db indexManager rows'

variable {stmt db : String} {limit : ℕ} {rows rows' : List (String × RowData)}
  {indexManager : Option IndexManager} {rs rs' : PagedRowStore}

omit [F64] in
theorem executeOltpSelectLegacy_eq (rs : PagedRowStore) (rr : Option _) :
    executeOltpSelectLegacy stmt rs limit [] db none rr indexManager =
      legacyRows stmt limit indexManager (databaseRows rs db none rr) := by
  rw [executeOltpSelectLegacy, legacyRows]
  rcases parseOne stmt with why | _ | sel <;> rfl

theorem executeSelect_of_fastPath_eq_none (h : fastPath stmt = none) (rs : PagedRowStore)
    (mr : ℕ) :
    (leftToTexts stmt = true ∧ (executeSelect stmt rs mr = .ok .aggregate ∨
        ∃ what, executeSelect stmt rs mr = .error (.unsupported what))) ∨
      (leftToTexts stmt = false ∧ ((∃ why, executeSelect stmt rs mr =
        .error (.badPredicate why)) ∨ executeSelect stmt rs mr = .error .notASelect)) := by
  rw [fastPath] at h
  rw [leftToTexts, executeSelect]
  rcases hprs : parseOne stmt with why | _ | sel
  · exact Or.inr ⟨rfl, Or.inl ⟨why, rfl⟩⟩
  · exact Or.inr ⟨rfl, Or.inr rfl⟩
  rw [hprs] at h
  dsimp only at h ⊢
  rw [executeParsedSelect]
  cases hfea : unsupportedFeature sel with
  | some what => exact Or.inl ⟨rfl, Or.inr ⟨what, rfl⟩⟩
  | none =>
    cases hwhr : parseWhere sel with
    | error e =>
      obtain ⟨why, rfl⟩ : ∃ why, e = .badPredicate why := by
        rw [parseWhere] at hwhr
        split at hwhr
        · cases hwhr
        · split at hwhr
          · cases hwhr
          · exact ⟨_, (Except.error.inj hwhr).symm⟩
      exact Or.inr ⟨rfl, Or.inl ⟨why, rfl⟩⟩
    | ok whereExpr =>
      cases hagg : tryExtractAggregates sel.columns with
      | true => exact Or.inl ⟨rfl, Or.inl rfl⟩
      | false => simp [hfea, hwhr, hagg] at h

def fromEngine (engine : QueryEngine) (stmt : String) (limit : ℕ)
    (table : String → List (String × RowData)) : Option (List ResultRow) :=
  if isComplex stmt then
    (engine stmt ((collectQueryTableNames stmt).map fun name => (name, table name))
      limit).map (List.take limit)
  else none

theorem executeOltpSelect_of_rocksdbRows (hlim : limit ≠ 0) (eng : QueryEngine) :
    executeOltpSelect eng [stmt] rs' limit db none (some rows) indexManager =
      (fromEngine eng stmt limit (tableRows db rows)).getD
        (legacyRows stmt limit indexManager rows) := by
  rw [executeOltpSelect_singleton, if_neg hlim, answer, fromEngine]
  simp only [executeOltpSelectLegacy_eq, askEngine, getD_some, length_nil, Nat.sub_zero,
    nil_append, isSome_some, if_true, databaseRows]
  cases isComplex stmt with
  | false => rfl
  | true =>
    simp only [if_true]
    cases eng stmt _ limit <;> rfl

/-- The rows that the answer of `executeSelect` stands for. -/
def selectedRows (limit : ℕ) (legacy : List ResultRow) :
    Except ExecError SelectOutput → List ResultRow
  | .ok (.rows rows) => rows.take limit
  | .ok .aggregate | .error (.unsupported _) => legacy
  | .error _ => []

theorem executeOltpSelect_of_scan (hlim : limit ≠ 0) (eng : QueryEngine)
    (h : rs.scanAtSnapshot rs.currentXid = prefixed db rows) :
    executeOltpSelect eng [stmt] rs limit db none none indexManager =
      (fromEngine eng stmt limit (tableRows db (prefixed db rows))).getD
        (memoryRows stmt limit db indexManager rows) := by
  have hoth : selectedRows limit (legacyRows stmt limit indexManager rows)
      (executeSelect stmt rs limit) = memoryRows stmt limit db indexManager rows := by
    unfold memoryRows
    cases hfast : fastPath stmt with
    | some p =>
      obtain ⟨sel, whereExpr⟩ := p
      rw [executeSelect_of_fastPath hfast, h]
      exact take_page _ _ _
    | none =>
      rcases executeSelect_of_fastPath_eq_none hfast rs limit with
        ⟨hleft, hexec | ⟨what, hexec⟩⟩ | ⟨hleft, ⟨why, hexec⟩ | hexec⟩ <;> rw [hexec, hleft] <;> rfl
  rw [executeOltpSelect_singleton, if_neg hlim, answer, fromEngine, ← hoth]
  simp only [executeOltpSelectLegacy_eq, askEngine, getD_none, length_nil, Nat.sub_zero,
    nil_append, h, databaseRows_of_scan h, isSome_none, Bool.false_eq_true, if_false]
  cases isComplex stmt with
  | false => rfl
  | true =>
    simp only [if_true]
    cases eng stmt _ limit <;> rfl

omit [F64] in
theorem fromEngine_congr {eng : QueryEngine} (h : Setwise eng)
    {table table' : String → List (String × RowData)}
    (htab : isComplex stmt → ∀ name ∈ collectQueryTableNames stmt,
      (table name).Perm (table' name)) :
    fromEngine eng stmt limit table = fromEngine eng stmt limit table' := by
  rw [fromEngine, fromEngine]
  refine if_ctx_congr Iff.rfl (fun hcx => ?_) fun _ => rfl
  rw [h stmt _ _ limit (sameTables_map_iff.mpr (htab hcx))]

noncomputable def recognise (tables : List (String × List (String × RowData))) : QueryEngine :=
  open Classical in fun _ tables' _ => if SameTables tables tables' then some [] else some [⟨"", ∅⟩]

omit [F64] [QueryParser] in
theorem setwise_recognise (tables : List (String × List (String × RowData))) :
    Setwise (recognise tables) := by
  intro stmt t t' maxRows hsame
  have hiff : SameTables tables t ↔ SameTables tables t' :=
    ⟨fun h => h.trans hsame,
      fun h => h.trans (hsame.flip.imp fun _ _ ht => ⟨ht.1.symm, ht.2.symm⟩)⟩
  classical exact if_congr hiff rfl rfl

theorem perm_tableRows_of_sourceIndependent (hnd : (rows.map Prod.fst).Nodup)
    (hlim : limit ≠ 0) (h : SourceIndependent stmt limit db rows indexManager)
    (hcx : isComplex stmt) : ∀ name ∈ collectQueryTableNames stmt,
      (tableRows db rows name).Perm (tableRows db (prefixed db rows) name) := by
  have hscan := scan_storeOf (nodup_prefixed db hnd) none (by simp)
  have hiff := h _ (setwise_recognise ((collectQueryTableNames stmt).map
    fun name => (name, tableRows db rows name))) _ (PagedRowStore.new 64)
    ⟨rows, .refl _, hscan⟩ ⟨"", ∅⟩
  rw [executeOltpSelect_of_rocksdbRows hlim, executeOltpSelect_of_scan hlim _ hscan, fromEngine,
    fromEngine, if_pos hcx, if_pos hcx] at hiff
  by_contra hoth
  -- the engine knows the tables from the one source and answers to others with a row
  have hsame : recognise ((collectQueryTableNames stmt).map
      fun name => (name, tableRows db rows name)) stmt
      ((collectQueryTableNames stmt).map fun name => (name, tableRows db rows name))
      limit = some [] :=
    if_pos (sameTables_map_iff.mpr fun _ _ => .refl _)
  have hdif : recognise ((collectQueryTableNames stmt).map
      fun name => (name, tableRows db rows name)) stmt
      ((collectQueryTableNames stmt).map
        fun name => (name, tableRows db (prefixed db rows) name)) limit = some [⟨"", ∅⟩] :=
    if_neg fun hsame => hoth (sameTables_map_iff.mp hsame)
  rw [hsame, hdif] at hiff
  obtain ⟨n, rfl⟩ := Nat.exists_eq_succ_of_ne_zero hlim
  simp at hiff

theorem fallback_of_sourceIndependent (hnd : (rows.map Prod.fst).Nodup) (hlim : limit ≠ 0)
    (h : SourceIndependent stmt limit db rows indexManager) (hperm : rows'.Perm rows)
    (row : ResultRow) :
    row ∈ legacyRows stmt limit indexManager rows ↔
      row ∈ memoryRows stmt limit db indexManager rows' := by
  have hscan := scan_storeOf (nodup_prefixed db ((hperm.map _).nodup_iff.mpr hnd)) none
    (by simp)
  have hiff := h (fun _ _ _ => none) (fun _ _ _ _ _ => rfl) _ (PagedRowStore.new 64)
    ⟨rows', hperm, hscan⟩ row
  rw [executeOltpSelect_of_rocksdbRows hlim, executeOltpSelect_of_scan hlim _ hscan] at hiff
  simpa only [fromEngine, map_none, ite_self, getD_none] using hiff

end

namespace TwoSources

scoped instance : F64 := Sample.instF64

scoped instance : QueryParser where
  parseOne sql :=
    if sql = "SELECT * FROM users" then .ok (some { columns := ["*"], table := some "users" })
    else .error "no such statement"
  parsePredicate _ := .error "no condition"
  collectQueryTableNames _ := ["users"]

def ann : RowData := Finmap.insert "name" "ann" ∅

def users : List (String × RowData) := [("users:1", ann)]

end TwoSources

open scoped TwoSources

end VngDatabase.Query
