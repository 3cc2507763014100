import VngDatabase.MixedOrder
import VngDatabase.Query.Isolation

/-!
# Comparing stored texts

A column is stored as text and read as a number or a truth value wherever it looks like one. So a
text need not be equal to itself in a condition, and `ORDER BY` compares by two orders at once.
-/

namespace VngDatabase.Query

open Text Store Option MixedOrder

/-! ### Equality -/

section

variable [F64]

theorem compareValues_text {v : Val} (hv : v ≠ .null) (s : String) :
    compareValues v .eq (.text s) ↔ valueToString v = s := by
  cases v with
  | null => exact absurd rfl hv
  | _ => simp [compareValues, orderValues, valueToString]

theorem colValue_ne_null {env : RowEnv} {c s : String} (h : env.rowData.lookup c = some s) :
    colValue env c ≠ .null := by
  unfold colValue
  split_ifs
  · exact nofun
  · rw [h]
    dsimp only [parseStrToValue]
    repeat' split
    all_goals exact nofun

variable [QueryParser] {rs : PagedRowStore} {sql w t c s key : String} {data : RowData}

def selectWhere (t w : String) : SelectStatement :=
  { columns := ["*"], table := some t, whereClause := some w }

theorem executeSelect_of_room {e : Expr} {maxRows : ℕ}
    (hsql : QueryParser.parseOne sql = .ok (some (selectWhere t w)))
    (hw : QueryParser.parsePredicate w = .ok e)
    (hroom : (rs.scanAtSnapshot rs.currentXid).length ≤ maxRows) :
    executeSelect sql rs maxRows = .ok (.rows (((rs.scanAtSnapshot rs.currentXid).filter
      ((selectWhere t w).rowMatches (some e))).map fun row => ⟨row.1, row.2⟩)) := by
  have hwhr : parseWhere (selectWhere t w) = .ok (some e) := by
    simp only [parseWhere, selectWhere, hw]
  have hpl : tryExtractAggregates ["*"] = false := by decide
  have hstar (row : RowData) : projectColumns ["*"] row = row := if_pos (by decide)
  have htake : ((rs.scanAtSnapshot rs.currentXid).filter
      ((selectWhere t w).rowMatches (some e))).length ≤ (selectWhere t w).pageLimit maxRows := by
    refine (List.length_filter_le _ _).trans (hroom.trans ?_)
    simp [SelectStatement.pageLimit, selectWhere]
  simp only [executeSelect, hsql, executeParsedSelect,
    show unsupportedFeature (selectWhere t w) = none from rfl, hwhr,
    show (selectWhere t w).columns = ["*"] from rfl, hpl, Bool.false_eq_true, if_false,
    SelectStatement.page, show (selectWhere t w).orderBy = [] from rfl,
    show (selectWhere t w).offset = none from rfl, sortRows, getD_none, List.drop_zero,
    List.take_of_length_le htake, hstar]

/-- **A stored text is found by equality** iff it is printed as it was read. -/
theorem stored_text_found_iff
    (hsql : QueryParser.parseOne sql = .ok (some (selectWhere t w)))
    (hw : QueryParser.parsePredicate w = .ok (.binaryOp (.identifier c) .eq (.value (.text s))))
    (hrow : (key, data) ∈ rs.scanAtSnapshot rs.currentXid) (hkey : keyFilter (some t) key)
    (hstored : data.lookup c = some s) :
    (∀ maxRows, (rs.scanAtSnapshot rs.currentXid).length ≤ maxRows →
      ∃ rows, executeSelect sql rs maxRows = .ok (.rows rows) ∧ ⟨key, data⟩ ∈ rows) ↔
    if c = "_key" then key = s else valueToString (parseStrToValue s) = s := by
  have hval : valueToString (colValue ⟨key, data⟩ c) =
      if c = "_key" then key else valueToString (parseStrToValue s) := by
    simp only [colValue, hstored]
    split_ifs <;> rfl
  have hmt : (selectWhere t w).rowMatches
      (some (.binaryOp (.identifier c) .eq (.value (.text s)))) (key, data) ↔
        valueToString (colValue ⟨key, data⟩ c) = s := by
    rw [SelectStatement.rowMatches, show (selectWhere t w).table = some t from rfl, hkey,
      Bool.true_and, ← compareValues_text (colValue_ne_null hstored)]
    rfl
  rw [hval, apply_ite (· = s)] at hmt
  rw [← hmt]
  constructor
  · intro h
    obtain ⟨rows, hans, hmem⟩ := h _ le_rfl
    rw [executeSelect_of_room hsql hw le_rfl] at hans
    cases hans
    obtain ⟨row, hrow', heq⟩ := List.mem_map.mp hmem
    cases heq
    exact (List.mem_filter.mp hrow').2
  · exact fun h maxRows hroom => ⟨_, executeSelect_of_room hsql hw hroom,
      List.mem_map_of_mem (List.mem_filter.mpr ⟨hrow, h⟩)⟩

end

section

open scoped Sample

@[reducible] def parserOf (s : String) : QueryParser where
  parseOne _ := .ok (some (selectWhere "t" s))
  parsePredicate w := .ok (.binaryOp (.identifier "c") .eq (.value (.text w)))
  collectQueryTableNames _ := ["t"]

def storing (s : String) : PagedRowStore :=
  storeOf [("t:1", Finmap.insert "c" s ∅)] (by simp)

theorem scan_storing (s : String) :
    (storing s).scanAtSnapshot (storing s).currentXid = [("t:1", Finmap.insert "c" s ∅)] :=
  scan_storeOf _ none (by simp)

theorem text_007_not_found :
    ("t:1", Finmap.insert "c" "007" ∅) ∈
        (storing "007").scanAtSnapshot (storing "007").currentXid ∧
      letI := parserOf "007"
      ¬∃ rows, executeSelect "SELECT * FROM t WHERE c = '007'" (storing "007") 100 =
          .ok (.rows rows) ∧ ⟨"t:1", Finmap.insert "c" "007" ∅⟩ ∈ rows := by
  refine ⟨by simp [scan_storing], ?_⟩
  let := parserOf "007"
  rintro ⟨rows, hans, hmem⟩
  rw [executeSelect_of_room rfl rfl (by simp [scan_storing]), scan_storing] at hans
  cases hans
  revert hmem
  decide +kernel

theorem text_abc_found :
    letI := parserOf "abc"
    ∃ rows, executeSelect "SELECT * FROM t WHERE c = 'abc'" (storing "abc") 100 =
      .ok (.rows rows) ∧ ⟨"t:1", Finmap.insert "c" "abc" ∅⟩ ∈ rows := by
  let := parserOf "abc"
  exact (stored_text_found_iff (t := "t") (c := "c") rfl rfl (by simp [scan_storing]) (by decide)
    (Finmap.lookup_insert _)).mpr (by decide +kernel) 100 (by simp [scan_storing])

end

/-! ### Order -/

section

variable [F64]

def decimal (s : String) : Option ℤ := (F64.parse s).bind fun _ => parseI64 s

/-- **Exact on the integers below `2 ^ 53`.** -/
structure F64.Exact : Prop where
  parse : ∀ s i, decimal s = some i → i.natAbs < 2 ^ 53 → F64.parse s = some (F64.ofInt i)
  partialCmp : ∀ i j, i.natAbs < 2 ^ 53 → j.natAbs < 2 ^ 53 →
    F64.partialCmp (F64.ofInt i) (F64.ofInt j) = some (compare i j)

/-- A missing value, a text that is no number, or a small integer. -/
def Comparable (s : String) : Prop :=
  F64.parse s = none ∨ ∃ i, decimal s = some i ∧ i.natAbs < 2 ^ 53

theorem compareColumn_iff (hexa : F64.Exact) {a b : String} (ha : Comparable a)
    (hb : Comparable b) :
    (compareColumn a b ≠ .gt ↔ Le decimal a b) ∧ (compareColumn a b ≠ .lt ↔ Le decimal b a) := by
  have hcmp (x y : String) : (compare x y ≠ .gt ↔ x ≤ y) ∧ (compare x y ≠ .lt ↔ y ≤ x) :=
    ⟨compare_le_iff_le, compare_ge_iff_ge⟩
  have hcmpI (i j : ℤ) : (compare i j ≠ .gt ↔ i ≤ j) ∧ (compare i j ≠ .lt ↔ j ≤ i) :=
    ⟨compare_le_iff_le, compare_ge_iff_ge⟩
  have hnone {s : String} (h : F64.parse s = none) : decimal s = none := by
    rw [decimal, h, bind_none]
  rcases ha with ha | ⟨i, ha, hi⟩ <;> rcases hb with hb | ⟨j, hb, hj⟩
  · simp [compareColumn, Le, hnone ha, hnone hb, ha, hcmp]
  · simp [compareColumn, Le, hnone ha, ha, hcmp]
  · simp [compareColumn, Le, hnone hb, hb, hcmp]
  · simp [compareColumn, Le, ha, hb, hexa.parse _ _ ha hi, hexa.parse _ _ hb hj,
      hexa.partialCmp i j hi hj, hcmpI]

def columnText (ob : OrderByClause) (row : String × RowData) : String :=
  (row.2.lookup ob.column).getD ""

def orderedBy (ob : OrderByClause) (a b : String × RowData) : Bool :=
  let cmp := compareColumn (columnText ob a) (columnText ob b)
  (if ob.descending then cmp.swap else cmp) ≠ .gt

theorem orderedBy_iff (hexa : F64.Exact) {ob : OrderByClause} {a b : String × RowData}
    (ha : Comparable (columnText ob a)) (hb : Comparable (columnText ob b)) :
    orderedBy ob a b ↔ if ob.descending then Le decimal (columnText ob b) (columnText ob a)
      else Le decimal (columnText ob a) (columnText ob b) := by
  have h := compareColumn_iff hexa ha hb
  unfold orderedBy
  split_ifs
  · rw [← h.2]
    cases compareColumn (columnText ob a) (columnText ob b) <;> decide
  · rw [← h.1]
    simp

/-- **`ORDER BY` compares by a total preorder** iff no text stands between two numbers. -/
theorem orderBy_preorder_iff (hexact : F64.Exact) (ob : OrderByClause) (more : List OrderByClause)
    {rows : List (String × RowData)} (hrows : ∀ row ∈ rows, Comparable (columnText ob row)) :
    ((∀ a ∈ rows, orderedBy ob a a) ∧
      (∀ a ∈ rows, ∀ b ∈ rows, orderedBy ob a b ∨ orderedBy ob b a) ∧
      (∀ a ∈ rows, ∀ b ∈ rows, ∀ c ∈ rows, orderedBy ob a b → orderedBy ob b c → orderedBy ob a c) ∧
      (sortRows (ob :: more) rows).Pairwise (orderedBy ob · ·)) ↔
    ¬∃ x ∈ rows, ∃ y ∈ rows, ∃ z ∈ rows, ∃ i j, decimal (columnText ob x) = some i ∧
      decimal (columnText ob y) = some j ∧ decimal (columnText ob z) = none ∧
      columnText ob x < columnText ob z ∧ columnText ob z < columnText ob y ∧ j ≤ i := by
  have hle {a b} (ha : a ∈ rows) (hb : b ∈ rows) := orderedBy_iff hexact (hrows a ha) (hrows b hb)
  have htot : ∀ a ∈ rows, ∀ b ∈ rows, orderedBy ob a b ∨ orderedBy ob b a := by
    intro a ha b hb
    rw [hle ha hb, hle hb ha]
    split_ifs
    · exact le_or_le _ _
    · exact le_or_le _ _
  have htra : (∀ a ∈ rows, ∀ b ∈ rows, ∀ c ∈ rows, orderedBy ob a b → orderedBy ob b c →
      orderedBy ob a c) ↔ ∀ a b c, (∃ row ∈ rows, columnText ob row = a) →
        (∃ row ∈ rows, columnText ob row = b) → (∃ row ∈ rows, columnText ob row = c) →
        Le decimal a b → Le decimal b c → Le decimal a c := by
    constructor
    · rintro h _ _ _ ⟨a, ha, rfl⟩ ⟨b, hb, rfl⟩ ⟨c, hc, rfl⟩ hab hbc
      cases hd : ob.descending
      · simpa [hle, ha, hb, hc, hd, hab, hbc] using h a ha b hb c hc
      · simpa [hle, ha, hb, hc, hd, hab, hbc] using h c hc b hb a ha
    · intro h a ha b hb c hc
      rw [hle ha hb, hle hb hc, hle ha hc]
      split_ifs
      · exact fun hab hbc => h _ _ _ ⟨c, hc, rfl⟩ ⟨b, hb, rfl⟩ ⟨a, ha, rfl⟩ hbc hab
      · exact h _ _ _ ⟨a, ha, rfl⟩ ⟨b, hb, rfl⟩ ⟨c, hc, rfl⟩
  have hbet := htra.trans trans_iff
  constructor
  · rintro ⟨-, -, h, -⟩ ⟨x, hx, y, hy, z, hz, i, j, hbad⟩
    exact hbet.mp h ⟨_, _, _, i, j, ⟨x, hx, rfl⟩, ⟨y, hy, rfl⟩, ⟨z, hz, rfl⟩, hbad⟩
  · intro h
    have htra' := hbet.mpr (by
      rintro ⟨_, _, _, i, j, ⟨x, hx, rfl⟩, ⟨y, hy, rfl⟩, ⟨z, hz, rfl⟩, hbad⟩
      exact h ⟨x, hx, y, hy, z, hz, i, j, hbad⟩)
    exact ⟨fun a ha => (htot a ha a ha).elim id id, htot, htra',
      pairwise_mergeSort_of_mem htot htra'⟩

end

section

@[reducible] def wholeNumbers : F64 where
  Number := ℤ
  parse s := if Sql.parsesAsF64 s.toList then some ((parseI64 s).getD 0) else none
  ofInt := id
  partialCmp x y := some (compare x y)
  neg x := -x
  isZero x := x = 0
  toText := toString
  isSome_parse s := by split_ifs <;> simp_all

theorem exact_wholeNumbers : letI := wholeNumbers; F64.Exact := by
  let := wholeNumbers
  refine ⟨fun s i h _ => ?_, fun _ _ _ _ => rfl⟩
  obtain ⟨x, hx, hi⟩ := bind_eq_some_iff.mp h
  obtain ⟨hs, hx⟩ := ite_none_right_eq_some.mp hx
  exact (if_pos hs).trans (by rw [hi]; rfl)

def rowOf (v : String) : String × RowData := ("t:" ++ v, Finmap.insert "c" v ∅)

def mixedRows : List (String × RowData) := [rowOf "9", rowOf "10", rowOf "1a"]

theorem comparable_mixedRows :
    letI := wholeNumbers
    ∀ row ∈ mixedRows, Comparable (columnText ⟨"c", false⟩ row) := by
  have h (v : String) : columnText ⟨"c", false⟩ (rowOf v) = v := by
    rw [columnText, rowOf, Finmap.lookup_insert, getD_some]
  simp only [mixedRows, List.forall_mem_cons, h]
  exact ⟨.inr ⟨9, by decide, by decide⟩, .inr ⟨10, by decide, by decide⟩, .inl (by decide), nofun⟩

theorem orderBy_not_transitive :
    letI := wholeNumbers
    (∀ row ∈ mixedRows, Comparable (columnText ⟨"c", false⟩ row)) ∧
      orderedBy ⟨"c", false⟩ (rowOf "9") (rowOf "10") ∧
      orderedBy ⟨"c", false⟩ (rowOf "10") (rowOf "1a") ∧
      ¬orderedBy ⟨"c", false⟩ (rowOf "9") (rowOf "1a") :=
  ⟨comparable_mixedRows, by decide +kernel⟩

theorem numbers_sorted :
    letI := wholeNumbers
    (sortRows [⟨"c", false⟩] (mixedRows.take 2)).Pairwise (orderedBy ⟨"c", false⟩ · ·) := by
  let := wholeNumbers
  have hnum : ∀ row ∈ mixedRows.take 2, (decimal (columnText ⟨"c", false⟩ row)).isSome := by
    decide +kernel
  refine ((orderBy_preorder_iff exact_wholeNumbers _ [] fun row hrow =>
    comparable_mixedRows row (List.mem_of_mem_take hrow)).mpr ?_).2.2.2
  rintro ⟨-, -, -, -, z, hz, i, j, -, -, hnone, -⟩
  have hsome := hnum z hz
  rw [hnone] at hsome
  cases hsome

end

end VngDatabase.Query
