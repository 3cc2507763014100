import Mathlib

/-!
# Formulas in three truth values

A formula over atoms, some of which may be unknown, has a value in three truth values
(`Formula.kleene`).
-/

namespace VngDatabase.Kleene

open List

/-! ### Connectives -/

def not3 : Option Bool → Option Bool := Option.map not

def and3 : Option Bool → Option Bool → Option Bool
  | some false, _ => some false
  | _, some false => some false
  | some true, some true => some true
  | _, _ => none

def or3 : Option Bool → Option Bool → Option Bool
  | some true, _ => some true
  | _, some true => some true
  | some false, some false => some false
  | _, _ => none

def Reads (x : Option Bool) (b : Bool) : Prop := ∀ c, x = some c → b = c

theorem Reads.not {x : Option Bool} {b : Bool} (h : Reads x b) : Reads (not3 x) (!b) := by
  rintro c hc
  obtain ⟨d, hd, rfl⟩ := Option.map_eq_some_iff.mp hc
  rw [h d hd]

theorem Reads.and {x y : Option Bool} {b c : Bool} (hx : Reads x b) (hy : Reads y c) :
    Reads (and3 x y) (b && c) := by
  rintro d hd
  rcases x with _ | _ | _ <;> rcases y with _ | _ | _ <;> simp_all [and3, Reads]

theorem Reads.or {x y : Option Bool} {b c : Bool} (hx : Reads x b) (hy : Reads y c) :
    Reads (or3 x y) (b || c) := by
  rintro d hd
  rcases x with _ | _ | _ <;> rcases y with _ | _ | _ <;> simp_all [or3, Reads]

inductive Formula (α : Type*)
  | atom (a : α)
  | const (b : Bool)
  | neg (f : Formula α)
  | conj (f g : Formula α)
  | disj (f g : Formula α)

namespace Formula

variable {α : Type*}

def eval (v : α → Bool) : Formula α → Bool
  | atom a => v a
  | const b => b
  | neg f => !f.eval v
  | conj f g => f.eval v && g.eval v
  | disj f g => f.eval v || g.eval v

def kleene (v : α → Option Bool) : Formula α → Option Bool
  | atom a => v a
  | const b => some b
  | neg f => not3 (f.kleene v)
  | conj f g => and3 (f.kleene v) (g.kleene v)
  | disj f g => or3 (f.kleene v) (g.kleene v)

def oneOf : List (Formula α) → Formula α
  | [] => const false
  | f :: fs => disj f (oneOf fs)

theorem eval_oneOf (v : α → Bool) (fs : List (Formula α)) :
    (oneOf fs).eval v = fs.any (·.eval v) := by
  induction fs with
  | nil => rfl
  | cons f fs ih => rw [oneOf, eval, ih, any_cons]

def negatedIf (negated : Bool) (f : Formula α) : Formula α := if negated then neg f else f

theorem eval_negatedIf (v : α → Bool) (negated : Bool) (f : Formula α) :
    (negatedIf negated f).eval v = if negated then !f.eval v else f.eval v := by
  cases negated <;> rfl

def atoms : Formula α → List α
  | atom a => [a]
  | const _ => []
  | neg f => f.atoms
  | conj f g => f.atoms ++ g.atoms
  | disj f g => f.atoms ++ g.atoms

/-- **A reading of the atoms** that keeps the known ones. -/
def Resolves (f : Formula α) (v : α → Option Bool) (v' : α → Bool) : Prop :=
  ∀ a ∈ f.atoms, Reads (v a) (v' a)

variable {v : α → Option Bool} {v' : α → Bool}

theorem eval_of_kleene {f : Formula α} (h : f.Resolves v v') : Reads (f.kleene v) (f.eval v') := by
  induction f with
  | atom a => exact h a (mem_singleton_self a)
  | const b =>
    rintro c hc
    exact Option.some.inj hc
  | neg f ih => exact (ih h).not
  | conj f g ihf ihg =>
    exact (ihf fun a ha => h a (mem_append_left _ ha)).and
      (ihg fun a ha => h a (mem_append_right _ ha))
  | disj f g ihf ihg =>
    exact (ihf fun a ha => h a (mem_append_left _ ha)).or
      (ihg fun a ha => h a (mem_append_right _ ha))

theorem eval_iff_kleene_iff {f : Formula α} (h : f.Resolves v v') :
    (f.eval v' = true ↔ f.kleene v = some true) ↔ (f.kleene v ≠ none ∨ f.eval v' = false) := by
  have hrd := eval_of_kleene h
  cases hk : f.kleene v with
  | none => simp
  | some b => simp [hrd b hk]

end Formula

end VngDatabase.Kleene
