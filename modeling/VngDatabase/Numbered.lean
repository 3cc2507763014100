import Mathlib

/-!
# Numbered lists

A piece of a log is *numbered from* `n` when its items have the numbers `n`, `n + 1` and so on
(`NumberedFrom`).
-/

namespace VngDatabase

open List

variable {α : Type*} (num : α → ℕ)

def NumberedFrom (n : ℕ) (l : List α) : Prop := l.map num = List.range' n l.length

instance (n : ℕ) (l : List α) : Decidable (NumberedFrom num n l) :=
  inferInstanceAs (Decidable (l.map num = List.range' n l.length))

variable {num} {n : ℕ} {a : α} {l l' : List α}

@[simp]
theorem numberedFrom_nil : NumberedFrom num n [] := rfl

theorem numberedFrom_cons :
    NumberedFrom num n (a :: l) ↔ num a = n ∧ NumberedFrom num (n + 1) l := by
  rw [NumberedFrom, map_cons, length_cons, range'_succ, cons.injEq, NumberedFrom]

theorem numberedFrom_append :
    NumberedFrom num n (l ++ l') ↔ NumberedFrom num n l ∧ NumberedFrom num (n + l.length) l' := by
  induction l generalizing n with
  | nil => simp
  | cons a l ih =>
    rw [cons_append, numberedFrom_cons, ih, numberedFrom_cons, length_cons,
      Nat.add_right_comm, Nat.add_assoc, and_assoc]

namespace NumberedFrom

theorem take (h : NumberedFrom num n l) (k : ℕ) : NumberedFrom num n (l.take k) := by
  rw [← take_append_drop k l, numberedFrom_append] at h
  exact h.1

theorem num_getElem (h : NumberedFrom num n l) {i : ℕ} (hi : i < l.length) : num l[i] = n + i := by
  have hmap := congrArg (·[i]?) h
  simpa [hi, eq_comm] using hmap

theorem bounds (h : NumberedFrom num n l) (ha : a ∈ l) : n ≤ num a ∧ num a < n + l.length := by
  obtain ⟨i, hi, rfl⟩ := mem_iff_getElem.mp ha
  rw [h.num_getElem hi]
  omega

theorem getElem?_sub (h : NumberedFrom num n l) (ha : a ∈ l) : l[num a - n]? = some a := by
  obtain ⟨i, hi⟩ := mem_iff_getElem?.mp ha
  obtain ⟨hlt, rfl⟩ := List.getElem?_eq_some_iff.mp hi
  rwa [h.num_getElem hlt, Nat.add_sub_cancel_left]

theorem pairwise (h : NumberedFrom num n l) : l.Pairwise fun a b => num a < num b := by
  rw [← pairwise_map, h]
  exact pairwise_lt_range'

theorem getLast? (h : NumberedFrom num n l) (ha : l.getLast? = some a) :
    num a + 1 = n + l.length := by
  obtain ⟨l, rfl⟩ : ∃ front, l = front ++ [a] := ⟨_, (dropLast_append_getLast? _ ha).symm⟩
  have hnum := (numberedFrom_cons.mp (numberedFrom_append.mp h).2).1
  rw [hnum, length_append, length_singleton, Nat.add_assoc]

theorem append_isPrefix {log front piece : List α} (hlog : NumberedFrom num 1 log)
    (hfro : front <+: log) (hpie : NumberedFrom num (front.length + 1) piece)
    (hmem : ∀ a ∈ piece, a ∈ log) : front ++ piece <+: log := by
  obtain ⟨rest, rfl⟩ := hfro
  rw [prefix_append_right_inj, prefix_iff_eq_take]
  refine ext_getElem? fun i => ?_
  by_cases hi : i < piece.length
  · have hat := hlog.getElem?_sub (hmem _ (getElem_mem hi))
    rw [hpie.num_getElem hi, show front.length + 1 + i - 1 = front.length + i by omega,
      getElem?_append_right (Nat.le_add_right _ _), Nat.add_sub_cancel_left] at hat
    rw [getElem?_take_of_lt hi, hat, getElem?_eq_getElem hi]
  · rw [getElem?_eq_none (Nat.le_of_not_lt hi), getElem?_eq_none]
    rw [length_take]
    omega

theorem filter_lt (h : NumberedFrom num (n + 1) l) (k : ℕ) :
    (l.filter fun a => n + k < num a) = l.drop k := by
  have hspl := h
  rw [← take_append_drop k l, numberedFrom_append] at hspl
  have hdrop : ∀ a ∈ l.take k, ¬decide (n + k < num a) = true := by
    intro a ha
    have hlt := (hspl.1.bounds ha).2
    rw [length_take] at hlt
    rw [decide_eq_true_eq]
    omega
  have hkeep : ∀ a ∈ l.drop k, decide (n + k < num a) = true := by
    intro a ha
    have hle := (hspl.2.bounds ha).1
    have hlen : k < l.length := by
      have hpos := length_pos_of_mem ha
      rw [length_drop] at hpos
      omega
    rw [length_take, Nat.min_eq_left hlen.le] at hle
    exact decide_eq_true (by omega)
  calc (l.filter fun a => n + k < num a)
      = ((l.take k ++ l.drop k).filter fun a => n + k < num a) := by rw [take_append_drop]
    _ = l.drop k := by
      rw [filter_append, filter_eq_nil_iff.mpr hdrop, filter_eq_self.mpr hkeep, nil_append]

theorem filter_le_length {log front : List α} (hlog : NumberedFrom num 1 log)
    (hfro : front <+: log) : (log.filter fun a => num a ≤ front.length) = front := by
  obtain ⟨rest, rfl⟩ := hfro
  obtain ⟨hfro, hrest⟩ := numberedFrom_append.mp hlog
  have hkeep : ∀ a ∈ front, decide (num a ≤ front.length) = true := by
    intro a ha
    have hlt := (hfro.bounds ha).2
    exact decide_eq_true (by omega)
  have hdrop : ∀ a ∈ rest, ¬decide (num a ≤ front.length) = true := by
    intro a ha
    have hle := (hrest.bounds ha).1
    rw [decide_eq_true_eq]
    omega
  rw [filter_append, filter_eq_self.mpr hkeep, filter_eq_nil_iff.mpr hdrop, append_nil]

end NumberedFrom

end VngDatabase
