import VngDatabase.Store.Mvcc

/-!
# Column constraints

The constraint manager of `crates/voltnuerongrid-store/src/constraints.rs`.
-/

namespace VngDatabase.Store

open List Option

inductive ConstraintKind
  | primaryKey
  | unique
  | notNull
  | foreignKey
  | check
  deriving DecidableEq

def ConstraintKind.isKey : ConstraintKind → Bool
  | .primaryKey | .unique => true
  | _ => false

structure ConstraintDescriptor where
  name : String
  table : String
  column : String
  kind : ConstraintKind
  refTable : Option String := none
  refColumn : Option String := none
  deriving DecidableEq

inductive ConstraintViolation
  | primaryKeyDuplicate (constraint value : String)
  | uniqueDuplicate (constraint value : String)
  | notNullViolation (constraint column : String)
  | foreignKeyViolation (constraint value refTable refColumn : String)
  | checkViolation (constraint expr value : String)
  | constraintAlreadyExists (name : String)

def ConstraintViolation.text : ConstraintViolation → String
  | .primaryKeyDuplicate c v => "primary key '" ++ c ++ "' duplicate for value '" ++ v ++ "'"
  | .uniqueDuplicate c v => "unique constraint '" ++ c ++ "' violation for value '" ++ v ++ "'"
  | .notNullViolation c col => "not-null constraint '" ++ c ++ "' on column '" ++ col ++ "'"
  | .foreignKeyViolation c v t col =>
    "foreign key '" ++ c ++ "' violation: value '" ++ v ++ "' not found in '" ++ t ++ "." ++ col ++
      "'"
  | .checkViolation c e v =>
    "check constraint '" ++ c ++ "' violation: value '" ++ v ++ "' fails predicate '" ++ e ++ "'"
  | .constraintAlreadyExists c => "constraint '" ++ c ++ "' already exists"

def ConstraintViolation.isDuplicate : ConstraintViolation → Bool
  | .primaryKeyDuplicate _ _ | .uniqueDuplicate _ _ => true
  | _ => false

/-- Expression, column and value. -/
class CheckPredicate where
  evalCheckPredicate : (expr column value : String) → Bool

class ColumnOrder where
  columns : RowData → List (String × String)
  mem_columns : ∀ (row : RowData) (c : String × String),
    c ∈ columns row ↔ row.lookup c.1 = some c.2

def columnNames (row : RowData) : List String :=
  Quotient.liftOn row.keys.val (List.insertionSort (· ≤ ·)) fun l l' h =>
    (((l.perm_insertionSort _).trans h).trans (l'.perm_insertionSort _).symm).eq_of_sortedLE
      List.sortedLE_insertionSort List.sortedLE_insertionSort

theorem mem_columnNames {row : RowData} {name : String} : name ∈ columnNames row ↔ name ∈ row := by
  rw [← Finmap.mem_keys, ← Finset.mem_val, columnNames]
  generalize row.keys.val = names
  induction names using Quotient.inductionOn
  exact mem_insertionSort _

@[reducible]
def ColumnOrder.byName : ColumnOrder where
  columns row := (columnNames row).filterMap fun name => (row.lookup name).map fun v => (name, v)
  mem_columns := by
    intro row c
    simp only [List.mem_filterMap, mem_columnNames, Option.map_eq_some_iff]
    constructor
    · rintro ⟨name, -, v, hv, rfl⟩
      exact hv
    · intro h
      exact ⟨c.1, Finmap.mem_of_lookup_eq_some h, c.2, h, rfl⟩

structure ConstraintManager where
  constraints : List ConstraintDescriptor
  uniqueSets : String → Option (Finset String)
  checkExprs : String → Option String
  distinct : (constraints.map ConstraintDescriptor.name).Nodup
  tracked : ∀ c ∈ constraints, c.kind.isKey → (uniqueSets c.name).isSome

namespace ConstraintManager

def new : ConstraintManager where
  constraints := []
  uniqueSets := fun _ => none
  checkExprs := fun _ => none
  distinct := List.nodup_nil
  tracked := by simp

def addConstraint (mgr : ConstraintManager) (d : ConstraintDescriptor) :
    Except ConstraintViolation ConstraintManager :=
  if h : d.name ∈ mgr.constraints.map ConstraintDescriptor.name then
    .error (.constraintAlreadyExists d.name)
  else .ok
    { constraints := d :: mgr.constraints
      uniqueSets := if d.kind.isKey then Function.update mgr.uniqueSets d.name (some ∅)
        else mgr.uniqueSets
      checkExprs := mgr.checkExprs
      distinct := List.nodup_cons.mpr ⟨h, mgr.distinct⟩
      tracked := by
        intro c hc hkey
        rcases List.mem_cons.mp hc with rfl | hc
        · simp [hkey]
        · have hne : c.name ≠ d.name := fun he => h (he ▸ List.mem_map_of_mem hc)
          have := mgr.tracked c hc hkey
          split_ifs <;> simpa [hne] using this }

def seen (mgr : ConstraintManager) (name : String) : Finset String :=
  (mgr.uniqueSets name).getD ∅

def parents (mgr : ConstraintManager) (refTable refColumn : String) : List ConstraintDescriptor :=
  mgr.constraints.filter fun c => c.kind.isKey && c.table = refTable && c.column = refColumn

def foreignKeyViolation? (mgr : ConstraintManager) (c : ConstraintDescriptor) (value : String) :
    Option ConstraintViolation :=
  match c.refTable, c.refColumn with
  | some refTable, some refColumn =>
    let parents := mgr.parents refTable refColumn
    if parents ≠ [] ∧ ∀ p ∈ parents, value ∉ mgr.seen p.name then
      some (.foreignKeyViolation c.name value refTable refColumn)
    else none
  | _, _ => none

variable [CheckPredicate]

def violationOf (mgr : ConstraintManager) (column : String) (value : Option String)
    (c : ConstraintDescriptor) : Option ConstraintViolation :=
  match c.kind, value with
  | .notNull, none => some (.notNullViolation c.name column)
  | .primaryKey, none => some (.notNullViolation c.name column)
  | .primaryKey, some v =>
    if v ∈ mgr.seen c.name then some (.primaryKeyDuplicate c.name v) else none
  | .unique, some v => if v ∈ mgr.seen c.name then some (.uniqueDuplicate c.name v) else none
  | .foreignKey, some v => mgr.foreignKeyViolation? c v
  | .check, some v =>
    match mgr.checkExprs c.name with
    | some expr =>
      if CheckPredicate.evalCheckPredicate expr c.column v then none
      else some (.checkViolation c.name expr v)
    | none => none
  | _, _ => none

def constraintsOn (mgr : ConstraintManager) (table column : String) : List ConstraintDescriptor :=
  mgr.constraints.filter fun c => c.table = table && c.column = column

/-- `none` for the column is a missing value. -/
def validate (mgr : ConstraintManager) (table column : String) (value : Option String) :
    Option ConstraintViolation :=
  (mgr.constraintsOn table column).findSome? (mgr.violationOf column value)

omit [CheckPredicate]

def tracks (mgr : ConstraintManager) (table column name : String) : Bool :=
  (mgr.constraintsOn table column).any fun c => c.name = name && c.kind.isKey

def recordCommittedValue (mgr : ConstraintManager) (table column value : String) :
    ConstraintManager :=
  { mgr with
    uniqueSets := fun name =>
      if mgr.tracks table column name then (mgr.uniqueSets name).map (insert value)
      else mgr.uniqueSets name
    tracked := by
      intro c hc hkey
      have := mgr.tracked c hc hkey
      split_ifs <;> simpa using this }

def notNullColumns (mgr : ConstraintManager) (table : String) : List String :=
  (mgr.constraints.filter fun c =>
    c.table = table && (c.kind = .notNull || c.kind = .primaryKey)).map ConstraintDescriptor.column

/-! ### What is seen -/

variable {mgr : ConstraintManager} {c : ConstraintDescriptor} {table column value : String}

theorem mem_constraintsOn :
    c ∈ mgr.constraintsOn table column ↔
      c ∈ mgr.constraints ∧ c.table = table ∧ c.column = column := by
  rw [constraintsOn, mem_filter, Bool.and_eq_true, decide_eq_true_iff, decide_eq_true_iff]

theorem mem_parents {rt refColumn : String} :
    c ∈ mgr.parents rt refColumn ↔
      c ∈ mgr.constraints ∧ c.kind.isKey ∧ c.table = rt ∧ c.column = refColumn := by
  simp [parents, and_assoc]

theorem eq_of_name_eq {c' : ConstraintDescriptor} (h : c ∈ mgr.constraints)
    (h' : c' ∈ mgr.constraints) (hname : c.name = c'.name) : c = c' :=
  inj_on_of_nodup_map mgr.distinct h h' hname

theorem tracks_iff (hc : c ∈ mgr.constraints) :
    mgr.tracks table column c.name ↔ c.table = table ∧ c.column = column ∧ c.kind.isKey := by
  rw [tracks, List.any_eq_true]
  constructor
  · rintro ⟨c', hc', h⟩
    obtain ⟨hmem, htab, hcol⟩ := mem_constraintsOn.mp hc'
    rw [Bool.and_eq_true, decide_eq_true_iff] at h
    obtain rfl := eq_of_name_eq hmem hc h.1
    exact ⟨htab, hcol, h.2⟩
  · rintro ⟨htab, hcol, hkey⟩
    exact ⟨c, mem_constraintsOn.mpr ⟨hc, htab, hcol⟩, by simp [hkey]⟩

theorem mem_seen_recordCommittedValue (hc : c ∈ mgr.constraints) (hkey : c.kind.isKey)
    {v : String} :
    v ∈ (mgr.recordCommittedValue table column value).seen c.name ↔
      v ∈ mgr.seen c.name ∨ (c.table = table ∧ c.column = column ∧ v = value) := by
  obtain ⟨values, hvals⟩ := isSome_iff_exists.mp (mgr.tracked c hc hkey)
  rw [seen, recordCommittedValue, seen]
  simp only [tracks_iff hc, hvals]
  split_ifs with h
  · obtain ⟨htab, hcol, -⟩ := h
    simp [htab, hcol, or_comm]
  · simp only [getD_some]
    constructor
    · exact Or.inl
    · rintro (h' | ⟨htab, hcol, -⟩)
      · exact h'
      · exact absurd ⟨htab, hcol, hkey⟩ h

theorem recordCommittedValue_eq_self (h : mgr.constraints = []) :
    mgr.recordCommittedValue table column value = mgr := by
  have htra : ∀ name, mgr.tracks table column name = false := by
    intro name
    rw [tracks, constraintsOn, h]
    rfl
  unfold recordCommittedValue
  simp only [htra, Bool.false_eq_true, if_false]

variable [CheckPredicate]

theorem notMem_seen_of_validate (h : mgr.validate table column (some value) = none)
    (hc : c ∈ mgr.constraintsOn table column) (hkey : c.kind.isKey) : value ∉ mgr.seen c.name := by
  have hv := findSome?_eq_none_iff.mp h c hc
  unfold violationOf at hv
  intro hmem
  cases hk : c.kind <;> simp_all [ConstraintKind.isKey]

theorem exists_isDuplicate_iff :
    (∃ violation, mgr.violationOf column (some value) c = some violation ∧
      violation.isDuplicate) ↔ c.kind.isKey ∧ value ∈ mgr.seen c.name := by
  unfold violationOf
  cases hk : c.kind with
  | notNull => simp [ConstraintKind.isKey]
  | primaryKey | unique =>
    simp only [ite_none_right_eq_some, ConstraintKind.isKey, true_and]
    constructor
    · rintro ⟨violation, ⟨hseen, -⟩, -⟩
      exact hseen
    · intro hseen
      exact ⟨_, ⟨hseen, rfl⟩, rfl⟩
  | foreignKey =>
    simp only [foreignKeyViolation?, ConstraintKind.isKey, Bool.false_eq_true, false_and, iff_false]
    rintro ⟨violation, hv, hdup⟩
    split at hv
    · obtain rfl := some.inj (ite_none_right_eq_some.mp hv).2
      simp [ConstraintViolation.isDuplicate] at hdup
    · contradiction
  | check =>
    simp only [ConstraintKind.isKey, Bool.false_eq_true, false_and, iff_false]
    rintro ⟨violation, hv, hdup⟩
    split at hv
    · obtain rfl := some.inj (ite_none_left_eq_some.mp hv).2
      simp [ConstraintViolation.isDuplicate] at hdup
    · contradiction

end ConstraintManager

end VngDatabase.Store
