import Mathlib

/-!
# Runs of a partial step function

A system is given by a step function `step : σ → α → Option σ`, and what its states have in common
depends on what is asked of the steps on the way, so reachability comes with a condition `good` on
the action and the state it is taken in (`ReachableIf`, `ReachableIf.invariant`).
-/

namespace VngDatabase.Transition

open Option

variable {σ α : Type*} (step : σ → α → Option σ) (good : σ → α → Prop)

def run (s : σ) : List α → Option σ
  | [] => some s
  | a :: as => (step s a).bind fun t => run t as

def runIf [∀ s a, Decidable (good s a)] (s : σ) : List α → Option σ
  | [] => some s
  | a :: as => if good s a then (step s a).bind fun t => runIf t as else none

/-- **The states reached** by `good` actions. -/
def ReachableIf : σ → σ → Prop :=
  Relation.ReflTransGen fun s t => ∃ a, good s a ∧ step s a = some t

variable {step good} {s t u : σ}

theorem ReachableIf.invariant {P : σ → Prop} (h : ReachableIf step good s t) (hs : P s)
    (hstep : ∀ {s t a}, P s → good s a → step s a = some t → P t) : P t := by
  induction h with
  | refl => exact hs
  | tail _ h ih =>
    obtain ⟨a, hgood, ha⟩ := h
    exact hstep ih hgood ha

theorem ReachableIf.runIf [∀ s a, Decidable (good s a)] {as : List α}
    (h : ReachableIf step good s t) (hrun : runIf step good t as = some u) :
    ReachableIf step good s u := by
  induction as generalizing t with
  | nil =>
    obtain rfl : t = u := some.inj hrun
    exact h
  | cons a as ih =>
    obtain ⟨hgood, hrun⟩ := ite_none_right_eq_some.mp hrun
    obtain ⟨t', ht', hrun⟩ := bind_eq_some_iff.mp hrun
    exact ih (h.tail ⟨a, hgood, ht'⟩) hrun

theorem run_concat (s : σ) (as : List α) (a : α) :
    run step s (as ++ [a]) = (run step s as).bind fun t => step t a := by
  induction as generalizing s with
  | nil =>
    rw [List.nil_append, run, run, bind_some]
    cases step s a with
    | none => rfl
    | some t => rfl
  | cons b as ih =>
    rw [List.cons_append, run, run]
    cases step s b with
    | none => rfl
    | some t => exact ih t

variable (step good)

theorem exists_of_run (s : σ) (as : List α) (P : σ → Prop) [DecidablePred P]
    (h : ((run step s as).any fun t => decide (P t)) = true) :
    ∃ t, run step s as = some t ∧ P t := by
  cases ht : run step s as with
  | none => simp [ht] at h
  | some t => exact ⟨t, rfl, by simpa [ht] using h⟩

theorem exists_of_runIf [∀ s a, Decidable (good s a)] (s : σ) (as : List α) (P : σ → Prop)
    [DecidablePred P] (h : ((runIf step good s as).any fun t => decide (P t)) = true) :
    ∃ t, ReachableIf step good s t ∧ P t := by
  cases ht : runIf step good s as with
  | none => simp [ht] at h
  | some t => exact ⟨t, ReachableIf.runIf .refl ht, by simpa [ht] using h⟩

section

variable {step : σ → α → σ} {good : σ → α → Prop} {P : σ → Prop} {s : σ}

def Always (step : σ → α → σ) (P : σ → Prop) (s : σ) : List α → Prop
  | [] => P s
  | a :: as => P s ∧ Always step P (step s a) as

def Throughout (step : σ → α → σ) (good : σ → α → Prop) (s : σ) : List α → Prop
  | [] => True
  | a :: as => good s a ∧ Throughout step good (step s a) as

theorem Always.head {as : List α} (h : Always step P s as) : P s := by
  cases as with
  | nil => exact h
  | cons a as => exact h.1

theorem Always.foldl {as : List α} (h : Always step P s as) : P (as.foldl step s) := by
  induction as generalizing s with
  | nil => exact h
  | cons a as ih => exact ih h.2

theorem always_iff_throughout_of_imp {Q : σ → Prop} (hQ : ∀ s, P s → Q s)
    (hkeep : ∀ s a, P s → good s a → P (step s a)) (hgood : ∀ s a, P s → Q (step s a) → good s a)
    (hs : P s) (as : List α) : Always step Q s as ↔ Throughout step good s as := by
  induction as generalizing s with
  | nil => exact iff_of_true (hQ s hs) trivial
  | cons a as ih =>
    rw [Always, Throughout, and_iff_right (hQ s hs)]
    constructor
    · intro h
      have ha : good s a := hgood s a hs h.head
      exact ⟨ha, (ih (hkeep s a hs ha)).mp h⟩
    · rintro ⟨ha, h⟩
      exact (ih (hkeep s a hs ha)).mpr h

theorem always_iff_throughout (hstep : ∀ s a, P s → (P (step s a) ↔ good s a)) (hs : P s)
    (as : List α) : Always step P s as ↔ Throughout step good s as :=
  always_iff_throughout_of_imp (fun _ h => h) (fun s a h => (hstep s a h).mpr)
    (fun s a h => (hstep s a h).mp) hs as

end

end VngDatabase.Transition
