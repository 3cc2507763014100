import Mathlib

/-!
# Walks along a functional relation

Where every point has at most one successor, the walk from a point either ends or runs into a
cycle (`Closes`).
-/

namespace VngDatabase.Walks

open Relation

variable {α : Type*} {R S : α → α → Prop} {a b c : α}

/-- **The walk from a point runs into a cycle.** -/
def Closes (R : α → α → Prop) (a : α) : Prop := ∃ b, ReflTransGen R a b ∧ TransGen R b b

theorem Closes.head (hab : R a b) : Closes R b → Closes R a
  | ⟨c, hbc, hcc⟩ => ⟨c, .head hab hbc, hcc⟩

theorem Closes.mono (hsub : ∀ a b, S a b → R a b) : Closes S a → Closes R a
  | ⟨b, hab, hbb⟩ => ⟨b, .mono hsub _ _ hab, .mono hsub _ _ hbb⟩

theorem Closes.exists_step (h : Closes R a) : ∃ b, R a b := by
  obtain ⟨b, hab, hbb⟩ := h
  obtain ⟨c, hac, -⟩ := TransGen.head'_iff.mp (.trans_right hab hbb)
  exact ⟨c, hac⟩

variable (hR : Relator.RightUnique R)
include hR

theorem Closes.of_step (hab : R a b) (h : Closes R a) : Closes R b := by
  obtain ⟨c, hac, hcc⟩ := h
  rcases hac.cases_head with rfl | ⟨d, had, hdc⟩
  · obtain ⟨d, had, hda⟩ := TransGen.head'_iff.mp hcc
    obtain rfl := hR hab had
    exact ⟨a, hda, hcc⟩
  · obtain rfl := hR hab had
    exact ⟨c, hdc, hcc⟩

/-- **A part of the relation closes the same walks** iff it has their steps. -/
theorem closes_iff_closes_iff (hsub : ∀ a b, S a b → R a b) :
    (Closes R a ↔ Closes S a) ↔
      (Closes R a → ∀ b c, ReflTransGen R a b → R b c → S b c) := by
  constructor
  · intro hiff hclo b c hab hbc
    have hstay : Closes S b := by
      clear hbc
      induction hab with
      | refl => exact hiff.mp hclo
      | tail _ hxy ih =>
        obtain ⟨z, hxz⟩ := ih.exists_step
        obtain rfl := hR hxy (hsub _ _ hxz)
        exact ih.of_step (fun _ _ _ h h' => hR (hsub _ _ h) (hsub _ _ h')) hxz
    obtain ⟨d, hbd⟩ := hstay.exists_step
    obtain rfl := hR hbc (hsub _ _ hbd)
    exact hbd
  · intro hlive
    refine ⟨fun hclo => ?_, Closes.mono hsub⟩
    obtain ⟨b, hab, hbb⟩ := hclo
    have hwalk {x y : α} (hax : ReflTransGen R a x) (hxy : ReflTransGen R x y) :
        ReflTransGen S x y := by
      induction hxy with
      | refl => exact .refl
      | tail hxy hyz ih => exact ih.tail (hlive ⟨b, hab, hbb⟩ _ _ (hax.trans hxy) hyz)
    obtain ⟨c, hbc, hcb⟩ := TransGen.head'_iff.mp hbb
    exact ⟨b, hwalk .refl hab, .head' (hlive ⟨b, hab, hbb⟩ _ _ hab hbc) (hwalk (hab.tail hbc) hcb)⟩

end VngDatabase.Walks
