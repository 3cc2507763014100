import Mathlib

/-!
# One winner per term

The voting half of a leader-based protocol: voters have a term that only grows, each casts at most
one vote per term, and a candidate **wins** a term when a quorum has voted for it there
(`Ballots.Won`).
-/

namespace VngDatabase.Consensus

open Function Finset

variable {ι : Type*} [DecidableEq ι]

/-! ### Quorums -/

structure IsQuorum (members : Finset ι) (q : ℕ) (Q : Finset ι) : Prop where
  subset : Q ⊆ members
  le_card : q ≤ Q.card

variable {members Q Q' : Finset ι} {q : ℕ}

/-- **Two quorums meet.** -/
theorem IsQuorum.exists_mem_inter (hq : members.card < 2 * q) (h : IsQuorum members q Q)
    (h' : IsQuorum members q Q') : ∃ p ∈ Q, p ∈ Q' := by
  by_contra hne
  have hdisj : Disjoint Q Q' := by
    rw [disjoint_left]
    exact fun p hp hp' => hne ⟨p, hp, hp'⟩
  have hcard : Q.card + Q'.card ≤ members.card := by
    rw [← card_union_of_disjoint hdisj]
    exact card_le_card (union_subset h.subset h'.subset)
  have := h.le_card
  have := h'.le_card
  omega

structure Ballots (ι : Type*) where
  term : ι → ℕ
  vote : ι → ℕ → Option ι

namespace Ballots

variable (b : Ballots ι)

def init : Ballots ι where
  term := fun _ => 0
  vote := fun _ _ => none

def observe (p : ι) (t : ℕ) : Ballots ι :=
  { b with term := Function.update b.term p (max (b.term p) t) }

def cast (p c : ι) (t : ℕ) : Ballots ι where
  term := Function.update b.term p t
  vote := Function.update b.vote p (Function.update (b.vote p) t (some c))

@[simp] theorem observe_vote (p : ι) (t : ℕ) : (b.observe p t).vote = b.vote := rfl

@[simp] theorem observe_term_self (p : ι) (t : ℕ) :
    (b.observe p t).term p = max (b.term p) t := update_self ..

theorem observe_term_of_ne {p r : ι} (t : ℕ) (h : r ≠ p) :
    (b.observe p t).term r = b.term r := update_of_ne h ..

@[simp] theorem cast_term_self (p c : ι) (t : ℕ) : (b.cast p c t).term p = t := update_self ..

theorem cast_term_of_ne {p r : ι} (c : ι) (t : ℕ) (h : r ≠ p) :
    (b.cast p c t).term r = b.term r := update_of_ne h ..

@[simp] theorem cast_vote_self (p c : ι) (t : ℕ) : (b.cast p c t).vote p t = some c := by
  simp [cast]

theorem cast_vote_of_ne {p r : ι} (c : ι) {t u : ℕ} (h : r ≠ p ∨ u ≠ t) :
    (b.cast p c t).vote r u = b.vote r u := by
  rcases eq_or_ne r p with rfl | hr
  · have hu : u ≠ t := h.resolve_left (fun hc => hc rfl)
    simp [cast, update_of_ne hu]
  · simp [cast, update_of_ne hr]

/-! ### What a voter may do -/

inductive Step : Ballots ι → Ballots ι → Prop
  | observe {b : Ballots ι} (p : ι) (t : ℕ) : Step b (b.observe p t)
  | cast {b : Ballots ι} (p c : ι) (t : ℕ) : b.term p ≤ t →
      (b.vote p t = none ∨ b.vote p t = some c) → Step b (b.cast p c t)

structure Le (b b' : Ballots ι) : Prop where
  term : ∀ p, b.term p ≤ b'.term p
  vote : ∀ {p t c}, b.vote p t = some c → b'.vote p t = some c

omit [DecidableEq ι] in
theorem Le.refl : Le b b := ⟨fun _ => le_rfl, id⟩

omit [DecidableEq ι] in
theorem Le.trans {b b' b'' : Ballots ι} (h : Le b b') (h' : Le b' b'') : Le b b'' :=
  ⟨fun p => (h.term p).trans (h'.term p), fun hv => h'.vote (h.vote hv)⟩

theorem Step.le {b b' : Ballots ι} (h : Step b b') : Le b b' := by
  cases h with
  | observe p t =>
    refine ⟨fun r => ?_, id⟩
    rcases eq_or_ne r p with rfl | hr
    · simp
    · rw [observe_term_of_ne b t hr]
  | cast p c t hterm hvote =>
    constructor
    · intro r
      rcases eq_or_ne r p with rfl | hr
      · simpa using hterm
      · rw [cast_term_of_ne b c t hr]
    · intro r u d hv
      by_cases h : r = p ∧ u = t
      · obtain ⟨rfl, rfl⟩ := h
        obtain rfl : c = d := by
          rcases hvote with h0 | h0 <;> rw [h0] at hv
          · exact absurd hv (by simp)
          · exact Option.some.inj hv
        exact cast_vote_self ..
      · rw [cast_vote_of_ne b c (by tauto)]
        exact hv

/-- **No vote lies ahead of its voter's term.** -/
def VotesPast : Prop := ∀ p t, b.term p < t → b.vote p t = none

omit [DecidableEq ι] in
theorem votesPast_init : VotesPast (init : Ballots ι) := fun _ _ _ => rfl

theorem Step.votesPast {b b' : Ballots ι} (h : Step b b') (hb : VotesPast b) : VotesPast b' := by
  cases h with
  | observe p t =>
    intro r u hu
    refine hb r u ?_
    rcases eq_or_ne r p with rfl | hr
    · exact (le_max_left _ _).trans_lt (by simpa using hu)
    · rwa [observe_term_of_ne b t hr] at hu
  | cast p c t hterm _ =>
    intro r u hu
    rcases eq_or_ne r p with rfl | hr
    · rw [cast_term_self] at hu
      rw [cast_vote_of_ne b c (Or.inr hu.ne')]
      exact hb r u (hterm.trans_lt hu)
    · rw [cast_term_of_ne b c t hr] at hu
      rw [cast_vote_of_ne b c (Or.inl hr)]
      exact hb r u hu

def Won (members : Finset ι) (q : ℕ) (b : Ballots ι) (c : ι) (t : ℕ) : Prop :=
  ∃ Q, IsQuorum members q Q ∧ ∀ p ∈ Q, b.vote p t = some c

omit [DecidableEq ι] in
theorem Won.mono {b b' : Ballots ι} {c : ι} {t : ℕ} (h : Won members q b c t) (hb : Le b b') :
    Won members q b' c t := by
  obtain ⟨Q, hQ, hv⟩ := h
  exact ⟨Q, hQ, fun p hp => hb.vote (hv p hp)⟩

theorem won_unique (hq : members.card < 2 * q) {b : Ballots ι} {c c' : ι} {t : ℕ}
    (h : Won members q b c t) (h' : Won members q b c' t) : c = c' := by
  obtain ⟨Q, hQ, hv⟩ := h
  obtain ⟨Q', hQ', hv'⟩ := h'
  obtain ⟨p, hp, hp'⟩ := hQ.exists_mem_inter hq hQ'
  exact Option.some.inj ((hv p hp).symm.trans (hv' p hp'))

omit [DecidableEq ι] in
theorem Won.exists_quorum_term_le {b : Ballots ι} (hb : VotesPast b) {c : ι} {t : ℕ}
    (h : Won members q b c t) : ∃ Q, IsQuorum members q Q ∧ ∀ p ∈ Q, t ≤ b.term p := by
  obtain ⟨Q, hQ, hv⟩ := h
  refine ⟨Q, hQ, fun p hp => ?_⟩
  by_contra hlt
  have hvote := hv p hp
  rw [hb p t (not_le.mp hlt)] at hvote
  exact absurd hvote (by simp)

end Ballots

end VngDatabase.Consensus
