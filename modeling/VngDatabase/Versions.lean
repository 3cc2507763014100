import Mathlib

/-!
# Chains of stamped versions

A chain is a list of versions in the order in which they were added, each with a stamp.
-/

namespace VngDatabase.Versions

open List

variable {α τ : Type*} [LinearOrder τ] (stamp : α → τ) (s : τ)

def lastAtMost (l : List α) : Option α := l.reverse.find? fun v => stamp v ≤ s

/-- **The greatest stamp at most `s`**, the last one of several. -/
def latestAt (l : List α) : Option α :=
  l.foldl (fun best v => if stamp v ≤ s ∧ ∀ w ∈ best, stamp w ≤ stamp v then some v else best) none

variable {stamp s} {l : List α} {v : α}

theorem lastAtMost_concat :
    lastAtMost stamp s (l ++ [v]) = if stamp v ≤ s then some v else lastAtMost stamp s l := by
  rw [lastAtMost, reverse_append, reverse_singleton, singleton_append, find?_cons]
  split_ifs with h <;> simp [h, lastAtMost]

theorem latestAt_concat :
    latestAt stamp s (l ++ [v]) =
      if stamp v ≤ s ∧ ∀ w ∈ latestAt stamp s l, stamp w ≤ stamp v then some v
      else latestAt stamp s l := by
  rw [latestAt, foldl_append]
  rfl

theorem lastAtMost_congr {s' : τ} (h : ∀ v ∈ l, stamp v ≤ s ↔ stamp v ≤ s') :
    lastAtMost stamp s l = lastAtMost stamp s' l := by
  induction l using reverseRecOn with
  | nil => rfl
  | append_singleton l v ih =>
    rw [lastAtMost_concat, lastAtMost_concat, ih fun w hw => h w (mem_append_left _ hw)]
    exact if_congr (h v (by simp)) rfl rfl

theorem lastAtMost_concat_of_lt (h : s < stamp v) :
    lastAtMost stamp s (l ++ [v]) = lastAtMost stamp s l := by
  rw [lastAtMost_concat, if_neg (not_le.mpr h)]

theorem mem_of_latestAt (h : latestAt stamp s l = some v) : v ∈ l ∧ stamp v ≤ s := by
  induction l using reverseRecOn with
  | nil => simp [latestAt] at h
  | append_singleton l w ih =>
    rw [latestAt_concat] at h
    split_ifs at h with hw
    · obtain rfl := Option.some.inj h
      exact ⟨mem_append_right _ (mem_singleton_self w), hw.1⟩
    · exact ⟨mem_append_left _ (ih h).1, (ih h).2⟩

theorem lastAtMost_eq_latestAt (h : l.Pairwise fun v w => stamp v ≤ stamp w) :
    lastAtMost stamp s l = latestAt stamp s l := by
  induction l using reverseRecOn with
  | nil => rfl
  | append_singleton l v ih =>
    obtain ⟨hl, -, hv⟩ := pairwise_append.mp h
    have hle : ∀ w ∈ latestAt stamp s l, stamp w ≤ stamp v := fun w hw =>
      hv w (mem_of_latestAt hw).1 v (mem_singleton_self v)
    rw [lastAtMost_concat, latestAt_concat, ih hl]
    exact if_congr (and_iff_left hle).symm rfl rfl

theorem pairwise_concat (h : l.Pairwise fun v w => stamp v ≤ stamp w)
    (hlast : ∀ w ∈ l.getLast?, stamp w ≤ stamp v) :
    (l ++ [v]).Pairwise fun v w => stamp v ≤ stamp w := by
  refine pairwise_append.mpr ⟨h, pairwise_singleton _ _, fun x hx y hy => ?_⟩
  obtain rfl := mem_singleton.mp hy
  rcases eq_nil_or_concat l with rfl | ⟨l, w, rfl⟩
  · simp at hx
  · rw [concat_eq_append] at h hx hlast
    have hw := hlast w (by simp)
    rcases mem_append.mp hx with hx | hx
    · exact ((pairwise_append.mp h).2.2 x hx w (mem_singleton_self w)).trans hw
    · exact (mem_singleton.mp hx) ▸ hw

end VngDatabase.Versions
