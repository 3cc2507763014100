import Mathlib

/-!
# Answers that show nothing of what is hidden

Two lists of records agree if what may be seen of them is the same (`AgreeOn`), and an answer is
safe if it is the same for lists that agree.
-/

namespace VngDatabase.Noninterference

open List

variable {α β κ : Type*} {visible q : α → Bool} {l₁ l₂ : List α}

/-- **What may be seen of the two lists is the same.** -/
def AgreeOn (visible : α → Bool) (l₁ l₂ : List α) : Prop :=
  l₁.filter visible = l₂.filter visible

namespace AgreeOn

theorem filter (h : AgreeOn visible l₁ l₂) (q : α → Bool) :
    AgreeOn visible (l₁.filter q) (l₂.filter q) := by
  rw [AgreeOn, filter_comm, h, filter_comm]

theorem filter_eq (h : AgreeOn visible l₁ l₂) (hq : ∀ x, q x → visible x) :
    l₁.filter q = l₂.filter q := by
  have hand : ∀ l : List α, l.filter q = (l.filter visible).filter q := by
    intro l
    rw [filter_filter]
    refine filter_congr fun x _ => ?_
    cases hx : q x
    · rfl
    · rw [hq x hx, Bool.and_true]
  rw [hand, h, ← hand]

theorem eq (h : AgreeOn visible l₁ l₂) (h₁ : ∀ x ∈ l₁, visible x) (h₂ : ∀ x ∈ l₂, visible x) :
    l₁ = l₂ := by
  rw [AgreeOn, filter_eq_self.mpr h₁, filter_eq_self.mpr h₂] at h
  exact h

theorem length_le (h : AgreeOn visible l₁ l₂) (h₂ : ∀ x ∈ l₂, visible x) :
    l₂.length ≤ l₁.length := by
  rw [AgreeOn, filter_eq_self.mpr h₂] at h
  rw [← h]
  exact length_filter_le _ _

end AgreeOn

section

variable {key : α → κ} {page : List α → List β} {offset limit : ℕ}

theorem length_le_of_hidden {l : List α} {x : α}
    (hsafe : ∀ l : List α, (l.map key).Nodup → (∀ x ∈ l, q x) → l.length = offset + 1 →
      ∀ x ∈ l, visible x) (hl : (l.map key).Nodup) (hq : ∀ x ∈ l, q x) (hx : x ∈ l)
    (hhid : ¬visible x) : l.length ≤ offset := by
  by_contra hlt
  obtain ⟨s, t, rfl⟩ := append_of_mem hx
  have hperm : (s ++ x :: t).Perm (x :: (s ++ t)) := perm_middle
  -- the hidden record and `offset` others
  have hsub : (x :: (s ++ t).take offset).Sublist (x :: (s ++ t)) :=
    (take_sublist offset (s ++ t)).cons_cons x
  refine hhid (hsafe (x :: (s ++ t).take offset) ?_ ?_ ?_ x mem_cons_self)
  · exact ((hperm.map key).nodup_iff.mp hl).sublist (hsub.map key)
  · exact fun y hy => hq y (hperm.mem_iff.mpr (hsub.subset hy))
  · have hlen := hperm.length_eq
    rw [length_cons] at hlen
    rw [length_cons, length_take, min_eq_left]
    omega

theorem page_safe_iff (key : α → κ) (hlen : ∀ l, (page l).length = min limit (l.length - offset)) :
    (∀ l₁ l₂ : List α, (l₁.map key).Nodup → (l₂.map key).Nodup → AgreeOn visible l₁ l₂ →
      page (l₁.filter q) = page (l₂.filter q)) ↔
    limit = 0 ∨ ∀ l : List α, (l.map key).Nodup → (∀ x ∈ l, q x) → l.length = offset + 1 →
      ∀ x ∈ l, visible x := by
  have hemp : ∀ l : List α, limit = 0 ∨ l.length ≤ offset → page l = [] := by
    intro l hl
    rw [← length_eq_zero_iff, hlen]
    omega
  constructor
  · intro h
    by_contra! hno
    obtain ⟨hlim, l, hl, hq, hleng, x, hx, hhid⟩ := hno
    -- without the hidden record the page is empty, with it there is one row on it
    obtain ⟨s, t, rfl⟩ := append_of_mem hx
    have hst : ∀ y ∈ s ++ t, q y := fun y hy => hq y (by simp_all [or_left_comm])
    have hpage := h (s ++ t) (s ++ x :: t)
      (hl.sublist (((sublist_cons_self x t).append_left s).map key)) hl
      (by simp [AgreeOn, hhid])
    rw [filter_eq_self.mpr hst, filter_eq_self.mpr hq] at hpage
    have hpage := congrArg length hpage
    rw [hlen, hlen, hleng] at hpage
    rw [length_append, length_cons] at hleng
    rw [length_append] at hpage
    omega
  · rintro (hlim | hsafe) l₁ l₂ hl₁ hl₂ hagr
    · rw [hemp _ (Or.inl hlim), hemp _ (Or.inl hlim)]
    · have hsho : ∀ l : List α, (l.map key).Nodup → (∃ x ∈ l.filter q, ¬visible x) →
          (l.filter q).length ≤ offset := by
        rintro l hl ⟨x, hx, hhid⟩
        exact length_le_of_hidden hsafe (hl.sublist (filter_sublist.map key))
          (fun y hy => (mem_filter.mp hy).2) hx hhid
      -- a hidden record that matches leaves both pages empty
      have hboth : ∀ l₁ l₂ : List α, (l₁.map key).Nodup → (l₂.map key).Nodup →
          AgreeOn visible l₁ l₂ → (∃ x ∈ l₁.filter q, ¬visible x) →
          page (l₁.filter q) = page (l₂.filter q) := by
        intro l₁ l₂ hl₁ hl₂ hagr h₁
        rw [hemp _ (Or.inr (hsho l₁ hl₁ h₁)), hemp _ (Or.inr ?_)]
        by_cases h₂ : ∃ x ∈ l₂.filter q, ¬visible x
        · exact hsho l₂ hl₂ h₂
        · push Not at h₂
          exact ((hagr.filter q).length_le h₂).trans (hsho l₁ hl₁ h₁)
      by_cases h₁ : ∃ x ∈ l₁.filter q, ¬visible x
      · exact hboth l₁ l₂ hl₁ hl₂ hagr h₁
      by_cases h₂ : ∃ x ∈ l₂.filter q, ¬visible x
      · exact (hboth l₂ l₁ hl₂ hl₁ hagr.symm h₂).symm
      · push Not at h₁ h₂
        rw [(hagr.filter q).eq h₁ h₂]

end

end VngDatabase.Noninterference
