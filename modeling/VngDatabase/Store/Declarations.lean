import VngDatabase.Store.Constraints

/-!
# Declaring constraints

How the constraints of a statement get into the manager. A constraint whose name is taken is passed
over.
-/

namespace VngDatabase.Store

open List

structure ParsedConstraint extends ConstraintDescriptor where
  checkExpr : Option String := none
  deriving DecidableEq

def ParsedConstraint.descriptor (pc : ParsedConstraint) : ConstraintDescriptor :=
  if pc.kind = .check then ⟨pc.name, pc.table, pc.column, .check, none, none⟩
  else pc.toConstraintDescriptor

section

variable (pc : ParsedConstraint)

@[simp]
theorem ParsedConstraint.name_descriptor : pc.descriptor.name = pc.name := by
  unfold descriptor
  split_ifs <;> rfl

@[simp]
theorem ParsedConstraint.table_descriptor : pc.descriptor.table = pc.table := by
  unfold descriptor
  split_ifs <;> rfl

@[simp]
theorem ParsedConstraint.kind_descriptor : pc.descriptor.kind = pc.kind := by
  unfold descriptor
  split_ifs with h
  · exact h.symm
  · rfl

theorem ParsedConstraint.descriptor_eq (h : pc.kind ≠ .check) :
    pc.descriptor = pc.toConstraintDescriptor := if_neg h

end

namespace ConstraintManager

def names (mgr : ConstraintManager) : List String := mgr.constraints.map ConstraintDescriptor.name

theorem mem_names {mgr : ConstraintManager} {c : ConstraintDescriptor} (h : c ∈ mgr.constraints) :
    c.name ∈ mgr.names := mem_map_of_mem h

def addCheckConstraint (mgr : ConstraintManager) (name table column expr : String) :
    Except ConstraintViolation ConstraintManager :=
  if h : name ∈ mgr.constraints.map ConstraintDescriptor.name then
    .error (.constraintAlreadyExists name)
  else .ok
    { constraints := ⟨name, table, column, .check, none, none⟩ :: mgr.constraints
      uniqueSets := mgr.uniqueSets
      checkExprs := Function.update mgr.checkExprs name (some expr)
      distinct := List.nodup_cons.mpr ⟨h, mgr.distinct⟩
      tracked := by
        intro c hc hkey
        rcases List.mem_cons.mp hc with rfl | hc
        · cases hkey
        · exact mgr.tracked c hc hkey }

def register (mgr : ConstraintManager) (pc : ParsedConstraint) : ConstraintManager :=
  let result :=
    if pc.kind = .check then
      mgr.addCheckConstraint pc.name pc.table pc.column (pc.checkExpr.getD "")
    else mgr.addConstraint pc.toConstraintDescriptor
  result.toOption.getD mgr

def declare (mgr : ConstraintManager) (pcs : List ParsedConstraint) : ConstraintManager :=
  pcs.foldl register mgr

theorem not_any_of_table_ne {mgr : ConstraintManager} {c : ConstraintDescriptor} {table : String}
    (hc : c ∈ mgr.constraints) (hne : c.table ≠ table) :
    ¬mgr.constraints.any fun c' => c'.name = c.name && c'.table = table := by
  rw [any_eq_true]
  rintro ⟨c', hc', h⟩
  rw [Bool.and_eq_true, decide_eq_true_iff, decide_eq_true_iff] at h
  obtain rfl := eq_of_name_eq hc' hc h.1
  exact hne h.2

def withoutTable (mgr : ConstraintManager) (table : String) : ConstraintManager where
  constraints := mgr.constraints.filter fun c => c.table ≠ table
  uniqueSets name :=
    if mgr.constraints.any fun c => c.name = name && c.table = table then none
    else mgr.uniqueSets name
  checkExprs name :=
    if mgr.constraints.any fun c => c.name = name && c.table = table then none
    else mgr.checkExprs name
  distinct := mgr.distinct.sublist (List.filter_sublist.map _)
  tracked := by
    intro c hc hkey
    obtain ⟨hmem, hne⟩ := List.mem_filter.mp hc
    rw [if_neg (not_any_of_table_ne hmem (of_decide_eq_true hne))]
    exact mgr.tracked c hmem hkey

/-! ### What is declared -/

variable {mgr : ConstraintManager} {pc : ParsedConstraint} {pcs : List ParsedConstraint}
  {c : ConstraintDescriptor} {name : String}

theorem register_of_mem (h : pc.name ∈ mgr.names) : mgr.register pc = mgr := by
  rw [names] at h
  unfold register
  split_ifs
  · rw [addCheckConstraint, dif_pos h]
    rfl
  · rw [addConstraint, dif_pos h]
    rfl

theorem constraints_register (h : pc.name ∉ mgr.names) :
    (mgr.register pc).constraints = pc.descriptor :: mgr.constraints := by
  rw [names] at h
  unfold register ParsedConstraint.descriptor
  split_ifs
  · rw [addCheckConstraint, dif_neg h]
    rfl
  · rw [addConstraint, dif_neg h]
    rfl

theorem seen_register (h : pc.name ∉ mgr.names) :
    (mgr.register pc).seen name =
      if pc.kind.isKey ∧ name = pc.name then ∅ else mgr.seen name := by
  rw [names] at h
  unfold register
  by_cases hche : pc.kind = .check
  · rw [if_pos hche, addCheckConstraint, dif_neg h, hche]
    rfl
  · rw [if_neg hche, addConstraint, dif_neg h]
    by_cases hkey : pc.kind.isKey
    · by_cases hname : name = pc.name <;>
        simp [seen, hkey, hname, Except.toOption]
    · simp [seen, hkey, Except.toOption]

theorem checkExprs_register (h : pc.name ∉ mgr.names) :
    (mgr.register pc).checkExprs name =
      if pc.kind = .check ∧ name = pc.name then some (pc.checkExpr.getD "")
      else mgr.checkExprs name := by
  rw [names] at h
  unfold register
  by_cases hche : pc.kind = .check
  · rw [if_pos hche, addCheckConstraint, dif_neg h]
    by_cases hname : name = pc.name <;>
      simp [hche, hname, Except.toOption]
  · rw [if_neg hche, addConstraint, dif_neg h]
    simp [hche, Except.toOption]

theorem names_register (h : pc.name ∉ mgr.names) :
    (mgr.register pc).names = pc.name :: mgr.names := by
  rw [names, constraints_register h, map_cons, pc.name_descriptor, names]

theorem mem_declare_iff : c ∈ (mgr.declare pcs).constraints ↔
    c ∈ mgr.constraints ∨ c.name ∉ mgr.names ∧
      ∃ pc, pcs.find? (fun pc => pc.name = c.name) = some pc ∧ pc.descriptor = c := by
  induction pcs generalizing mgr with
  | nil => simp [declare]
  | cons pc pcs ih =>
    rw [declare, foldl_cons, ← declare, ih, find?_cons]
    by_cases htk : pc.name ∈ mgr.names
    · rw [register_of_mem htk]
      refine or_congr_right (and_congr_right fun hfree => ?_)
      have hne : pc.name ≠ c.name := fun he => hfree (he ▸ htk)
      rw [decide_eq_false hne]
    · rw [constraints_register htk, names_register htk, mem_cons, mem_cons]
      by_cases hname : pc.name = c.name
      · -- the first of its name
        rw [decide_eq_true hname]
        have hold : c ∉ mgr.constraints := fun hc => htk (hname ▸ mem_names hc)
        simp only [hname, hold, or_false, true_or, not_true_eq_false, false_and, false_or,
          Option.some.injEq, exists_eq_left']
        exact ⟨fun h => ⟨hname ▸ htk, h.symm⟩, fun h => h.2.symm⟩
      · rw [decide_eq_false hname]
        have hne : c ≠ pc.descriptor := by
          rintro rfl
          exact hname pc.name_descriptor.symm
        simp only [hne, Ne.symm hname, false_or]

theorem eq_descriptor_of_mem (h : pc.name ∉ mgr.names)
    (hc : c ∈ ((mgr.register pc).declare pcs).constraints) (hname : c.name = pc.name) :
    c = pc.descriptor := by
  rcases mem_declare_iff.mp hc with hold | ⟨hfree, -⟩
  · rw [constraints_register h, mem_cons] at hold
    exact hold.resolve_right fun hmem => h (hname ▸ mem_names hmem)
  · rw [names_register h, hname] at hfree
    exact absurd mem_cons_self hfree

theorem seen_declare (hc : c ∈ (mgr.declare pcs).constraints) (hkey : c.kind.isKey) :
    (mgr.declare pcs).seen c.name = if c.name ∈ mgr.names then mgr.seen c.name else ∅ := by
  induction pcs generalizing mgr with
  | nil => exact (if_pos (mem_names hc)).symm
  | cons pc pcs ih =>
    rw [declare, foldl_cons, ← declare] at hc ⊢
    rw [ih hc]
    by_cases htk : pc.name ∈ mgr.names
    · rw [register_of_mem htk]
    · simp only [names_register htk, seen_register htk, mem_cons]
      by_cases hname : c.name = pc.name
      · have hpc : pc.kind.isKey := by
          rwa [eq_descriptor_of_mem htk hc hname, pc.kind_descriptor] at hkey
        rw [if_pos (Or.inl hname), if_pos ⟨hpc, hname⟩, if_neg (hname ▸ htk)]
      · simp only [hname, false_or, and_false, if_false]

theorem checkExprs_declare (hc : c ∈ (mgr.declare pcs).constraints) (hche : c.kind = .check) :
    (mgr.declare pcs).checkExprs c.name =
      if c.name ∈ mgr.names then mgr.checkExprs c.name
      else (pcs.find? fun pc => pc.name = c.name).map fun pc => pc.checkExpr.getD "" := by
  induction pcs generalizing mgr with
  | nil => exact (if_pos (mem_names hc)).symm
  | cons pc pcs ih =>
    rw [declare, foldl_cons, ← declare] at hc ⊢
    rw [ih hc, find?_cons]
    by_cases htk : pc.name ∈ mgr.names
    · rw [register_of_mem htk]
      by_cases hold : c.name ∈ mgr.names
      · rw [if_pos hold, if_pos hold]
      · have hne : pc.name ≠ c.name := fun he => hold (he ▸ htk)
        rw [if_neg hold, if_neg hold, decide_eq_false hne]
    · simp only [names_register htk, checkExprs_register htk, mem_cons]
      by_cases hname : c.name = pc.name
      · have hpc : pc.kind = .check := by
          rwa [eq_descriptor_of_mem htk hc hname, pc.kind_descriptor] at hche
        rw [if_pos (Or.inl hname), if_pos ⟨hpc, hname⟩, if_neg (hname ▸ htk),
          decide_eq_true hname.symm]
        rfl
      · rw [decide_eq_false (Ne.symm hname)]
        simp only [hname, false_or, and_false, if_false]

variable {table : String}

theorem mem_withoutTable_iff :
    c ∈ (mgr.withoutTable table).constraints ↔ c ∈ mgr.constraints ∧ c.table ≠ table := by
  simp [withoutTable]

theorem notMem_names_withoutTable (h : name ∉ mgr.names) :
    name ∉ (mgr.withoutTable table).names := by
  intro hmem
  obtain ⟨c, hc, rfl⟩ := mem_map.mp hmem
  exact h (mem_names (mem_withoutTable_iff.mp hc).1)

end ConstraintManager

end VngDatabase.Store
