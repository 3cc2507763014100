import Mathlib

/-!
# Two orders in one comparison

Where some elements have a rank, a comparison may go by the rank if both have one, and by the order
of the type if not.
-/

namespace VngDatabase.MixedOrder

variable {α β : Type*}

section

variable [LinearOrder α] [LinearOrder β] {rank : α → Option β} {p : α → Prop}

def Le (rank : α → Option β) (a b : α) : Prop :=
  match rank a, rank b with
  | some i, some j => i ≤ j
  | _, _ => a ≤ b

theorem le_or_le (a b : α) : Le rank a b ∨ Le rank b a := by
  unfold Le
  cases rank a <;> cases rank b <;> exact le_total _ _

/-- **Transitive** iff nothing without a rank is in between. -/
theorem trans_iff : (∀ a b c, p a → p b → p c → Le rank a b → Le rank b c → Le rank a c) ↔
    ¬∃ x y z i j, p x ∧ p y ∧ p z ∧ rank x = some i ∧ rank y = some j ∧ rank z = none ∧
      x < z ∧ z < y ∧ j ≤ i := by
  constructor
  · rintro htra ⟨x, y, z, i, j, hx, hy, hz, hi, hj, hnone, hxz, hzy, hji⟩
    have := htra y x z hy hx hz
    simp only [Le, hi, hj, hnone] at this
    exact hzy.not_ge (this hji hxz.le)
  · intro hbet a b c ha hb hc hab hbc
    by_contra hac
    have hlt {x y : α} {i : β}
        (hx : rank x = none ∧ rank y = some i ∨ rank x = some i ∧ rank y = none)
        (hxy : x ≤ y) : x < y := by
      refine lt_of_le_of_ne hxy fun heq => ?_
      rw [heq] at hx
      grind
    simp only [Le] at hab hbc hac
    cases hra : rank a <;> cases hrb : rank b <;> cases hrc : rank c <;>
      simp only [hra, hrb, hrc, not_le] at hab hbc hac
    -- only two ranks and an element without one are compared by both orders
    case none.some.some j k =>
      exact hbet ⟨c, b, a, k, j, hc, hb, ha, hrc, hrb, hra, hac, hlt (.inl ⟨hra, hrb⟩) hab, hbc⟩
    case some.none.some i k =>
      exact hbet ⟨a, c, b, i, k, ha, hc, hb, hra, hrc, hrb, hlt (.inr ⟨hra, hrb⟩) hab,
        hlt (.inl ⟨hrb, hrc⟩) hbc, hac.le⟩
    case some.some.none i j =>
      exact hbet ⟨b, a, c, j, i, hb, ha, hc, hrb, hra, hrc, hlt (.inr ⟨hrb, hrc⟩) hbc, hac, hab⟩
    all_goals exact absurd (hab.trans hbc) hac.not_ge

end

theorem pairwise_mergeSort_of_mem {l : List α} {le : α → α → Bool}
    (htot : ∀ a ∈ l, ∀ b ∈ l, le a b ∨ le b a)
    (htra : ∀ a ∈ l, ∀ b ∈ l, ∀ c ∈ l, le a b → le b c → le a c) :
    (l.mergeSort le).Pairwise (le · ·) := by
  have hmap := List.map_mergeSort (r := fun a b => le a.1 b.1) (s := le) (f := Subtype.val)
    (l := l.attach) fun _ _ _ _ => rfl
  rw [List.attach_map_subtype_val] at hmap
  rw [← hmap, List.pairwise_map]
  apply List.pairwise_mergeSort
  · exact fun a b c => htra _ a.2 _ b.2 _ c.2
  · intro a b
    rw [Bool.or_eq_true]
    exact htot _ a.2 _ b.2

end VngDatabase.MixedOrder
