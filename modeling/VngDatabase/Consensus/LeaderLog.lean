import VngDatabase.Consensus.Voting

/-!
# Logs that follow a leader

The replication half of a leader-based protocol. Every term with a winner has **one** log, the log
of its leader, which starts as the log the winner stood with and from then on only grows; the state
keeps these logs for all terms.
-/

namespace VngDatabase.Consensus

open List Function

variable {ι E : Type*}

/-! ### Adopting a beginning of another log -/

theorem getElem?_of_isPrefix {x y : List E} (h : x <+: y) {k : ℕ} (hk : k < x.length) :
    y[k]? = x[k]? := by
  obtain ⟨s, rfl⟩ := h
  exact getElem?_append_left hk

section

variable [DecidableEq E] {old lead x : List E} {n : ℕ}

/-- **Adopt the first `n` entries of `lead`**, unless they are there. -/
def adopt (old lead : List E) (n : ℕ) : List E :=
  if lead.take n <+: old then old else lead.take n

theorem take_prefix_adopt (old lead : List E) (n : ℕ) : lead.take n <+: adopt old lead n := by
  unfold adopt
  split_ifs with h
  · exact h
  · exact prefix_rfl

theorem prefix_adopt (hold : x <+: old) (hlead : x <+: lead) : x <+: adopt old lead n := by
  unfold adopt
  split_ifs with h
  · exact hold
  · refine prefix_of_prefix_length_le hlead ( take_prefix n lead) ?_
    by_contra hlen
    refine h ((prefix_of_prefix_length_le ( take_prefix n lead) hlead ?_).trans hold)
    omega

theorem adopt_cases (old lead : List E) (n : ℕ) :
    adopt old lead n = old ∨ adopt old lead n = lead.take n := by
  unfold adopt
  split_ifs
  · exact Or.inl rfl
  · exact Or.inr rfl

end

theorem update_update_of_ne {α β γ : Type*} [DecidableEq α] [DecidableEq β] (f : α → β → γ)
    {a a' : α} {b b' : β} (v : γ) (h : a' ≠ a ∨ b' ≠ b) :
    Function.update f a (Function.update (f a) b v) a' b' = f a' b' := by
  rcases eq_or_ne a' a with rfl | ha
  · rw [update_self, update_of_ne (h.resolve_left fun hc => hc rfl)]
  · rw [update_of_ne ha]

variable (tm : E → ℕ)

/-- **Cut after any entry, it is the beginning of its leader's log.** -/
def Traced (lead : ℕ → List E) (l : List E) : Prop :=
  ∀ k e, l[k]? = some e → l.take (k + 1) <+: lead (tm e)

variable {tm} {lead lead' : ℕ → List E} {l l' : List E}

theorem traced_nil : Traced tm lead [] := by
  intro k e h
  simp at h

theorem Traced.take (h : Traced tm lead l) (n : ℕ) : Traced tm lead (l.take n) := by
  intro k e hk
  rw [getElem?_take] at hk
  split_ifs at hk with hlt
  rw [take_take, min_eq_left (by omega)]
  exact h k e hk

theorem Traced.mono (h : Traced tm lead l) (hle : ∀ t, lead t <+: lead' t) : Traced tm lead' l :=
  fun k e hk => (h k e hk).trans (hle _)

theorem Traced.prefix_of_getLast? (h : Traced tm lead l) {e : E} (he : l.getLast? = some e) :
    l <+: lead (tm e) := by
  rw [getLast?_eq_getElem?] at he
  have := h _ e he
  rwa [take_of_length_le (by omega)] at this

theorem Traced.take_eq (h : Traced tm lead l) (h' : Traced tm lead l') {k : ℕ} {e e' : E}
    (hk : l[k]? = some e) (hk' : l'[k]? = some e') (ht : tm e = tm e') :
    l.take (k + 1) = l'.take (k + 1) := by
  have hp := h k e hk
  have hp' := h' k e' hk'
  rw [← ht] at hp'
  have hlen : (l.take (k + 1)).length = (l'.take (k + 1)).length := by
    have h1 := (List.getElem?_eq_some_iff.mp hk).1
    have h2 := (List.getElem?_eq_some_iff.mp hk').1
    simp only [length_take]
    omega
  exact (prefix_of_prefix_length_le hp hp' hlen.le).eq_of_length hlen

/-! ### The state of the replicas -/

/-- Ballots, winners, the log of each term, and those of each replica. -/
structure Replicas (ι E : Type*) extends Ballots ι where
  leader : ℕ → Option ι
  lead : ℕ → List E
  log : ι → List E
  cand : ι → ℕ → List E
  acked : ι → ℕ → ℕ

namespace Replicas

def init : Replicas ι E where
  toBallots := Ballots.init
  leader := fun _ => none
  lead := fun _ => []
  log := fun _ => []
  cand := fun _ _ => []
  acked := fun _ _ => 0

variable [DecidableEq ι] {t : ℕ}

def observe (a : Replicas ι E) (p : ι) (t : ℕ) : Replicas ι E :=
  { a with toBallots := a.toBallots.observe p t }

def stand (a : Replicas ι E) (p : ι) : Replicas ι E :=
  { a with
    toBallots := a.toBallots.cast p p (a.term p + 1)
    cand := Function.update a.cand p (Function.update (a.cand p) (a.term p + 1) (a.log p)) }

def cast (a : Replicas ι E) (p c : ι) (t : ℕ) : Replicas ι E :=
  { a with toBallots := a.toBallots.cast p c t }

def elect (a : Replicas ι E) (c : ι) : Replicas ι E :=
  { a with
    leader := Function.update a.leader (a.term c) (some c)
    lead := Function.update a.lead (a.term c) (a.log c) }

def append (a : Replicas ι E) (p : ι) (e : E) : Replicas ι E :=
  { a with
    lead := Function.update a.lead (a.term p) (a.lead (a.term p) ++ [e])
    log := Function.update a.log p (a.log p ++ [e]) }

def accept [DecidableEq E] (a : Replicas ι E) (p : ι) (n : ℕ) : Replicas ι E :=
  { a with
    log := Function.update a.log p (adopt (a.log p) (a.lead (a.term p)) n)
    acked := Function.update a.acked p
      (Function.update (a.acked p) (a.term p) (max (a.acked p (a.term p)) n)) }

/-! What each operation does to the field it changes. -/

section

variable (a : Replicas ι E)

@[simp] theorem stand_cand_self (p : ι) : (a.stand p).cand p (a.term p + 1) = a.log p := by
  simp [stand]

theorem stand_cand_of_ne {p c : ι} (h : c ≠ p ∨ t ≠ a.term p + 1) :
    (a.stand p).cand c t = a.cand c t := update_update_of_ne _ _ h

section

omit [DecidableEq ι]

@[simp] theorem elect_leader_self (c : ι) : (a.elect c).leader (a.term c) = some c :=
  update_self ..

theorem elect_leader_of_ne {c : ι} (h : t ≠ a.term c) :
    (a.elect c).leader t = a.leader t := update_of_ne h ..

@[simp] theorem elect_lead_self (c : ι) : (a.elect c).lead (a.term c) = a.log c :=
  update_self ..

theorem elect_lead_of_ne {c : ι} (h : t ≠ a.term c) :
    (a.elect c).lead t = a.lead t := update_of_ne h ..

end

@[simp] theorem append_lead_self (p : ι) (e : E) :
    (a.append p e).lead (a.term p) = a.lead (a.term p) ++ [e] := update_self ..

theorem append_lead_of_ne {p : ι} (e : E) (h : t ≠ a.term p) :
    (a.append p e).lead t = a.lead t := update_of_ne h ..

@[simp] theorem append_log_self (p : ι) (e : E) : (a.append p e).log p = a.log p ++ [e] :=
  update_self ..

theorem append_log_of_ne {p r : ι} (e : E) (h : r ≠ p) : (a.append p e).log r = a.log r :=
  update_of_ne h ..

variable [DecidableEq E]

@[simp] theorem accept_log_self (p : ι) (n : ℕ) :
    (a.accept p n).log p = adopt (a.log p) (a.lead (a.term p)) n := update_self ..

theorem accept_log_of_ne {p r : ι} (n : ℕ) (h : r ≠ p) : (a.accept p n).log r = a.log r :=
  update_of_ne h ..

@[simp] theorem accept_acked_self (p : ι) (n : ℕ) :
    (a.accept p n).acked p (a.term p) = max (a.acked p (a.term p)) n := by
  simp [accept]

theorem accept_acked_of_ne {p r : ι} (n : ℕ) (h : r ≠ p ∨ t ≠ a.term p) :
    (a.accept p n).acked r t = a.acked r t := update_update_of_ne _ _ h

end

inductive Step [DecidableEq E] (members : Finset ι) (q : ℕ) (tm : E → ℕ)
    (ok : List E → List E → Prop) : Replicas ι E → Replicas ι E → Prop
  | observe {a : Replicas ι E} (p : ι) (t : ℕ) : Step members q tm ok a (a.observe p t)
  | stand {a : Replicas ι E} (p : ι) : Step members q tm ok a (a.stand p)
  | cast {a : Replicas ι E} (p c : ι) (t : ℕ) : a.term p ≤ t →
      (a.vote p t = none ∨ a.vote p t = some c) → a.vote c t = some c →
      ok (a.cand c t) (a.log p) → Step members q tm ok a (a.cast p c t)
  | elect {a : Replicas ι E} (c : ι) : a.toBallots.Won members q c (a.term c) →
      a.leader (a.term c) = none → a.log c = a.cand c (a.term c) →
      Step members q tm ok a (a.elect c)
  | append {a : Replicas ι E} (p : ι) (e : E) : a.leader (a.term p) = some p →
      a.lead (a.term p) = a.log p → tm e = a.term p → Step members q tm ok a (a.append p e)
  | accept {a : Replicas ι E} (p : ι) (n : ℕ) : a.leader (a.term p) ≠ none →
      n ≤ (a.lead (a.term p)).length → Step members q tm ok a (a.accept p n)

/-! ### The invariant -/

variable {members : Finset ι} {q : ℕ} {a : Replicas ι E} {a' : Replicas ι E}
  {ok : List E → List E → Prop}

structure LogInv (members : Finset ι) (q : ℕ) (tm : E → ℕ) (a : Replicas ι E) : Prop where
  votesPast : a.toBallots.VotesPast
  self : ∀ {p t c}, a.vote p t = some c → a.vote c t = some c
  won : ∀ {t c}, a.leader t = some c → a.toBallots.Won members q c t
  lead_nil : ∀ {t}, a.leader t = none → a.lead t = []
  traced_log : ∀ p, Traced tm a.lead (a.log p)
  traced_lead : ∀ t, Traced tm a.lead (a.lead t)
  traced_cand : ∀ c t, Traced tm a.lead (a.cand c t)
  lead_le : ∀ {t e}, e ∈ a.lead t → tm e ≤ t
  log_le : ∀ {p e}, e ∈ a.log p → tm e ≤ a.term p
  cand_lt : ∀ {c t e}, e ∈ a.cand c t → tm e < t

omit [DecidableEq ι] in
theorem logInv_init : LogInv members q tm (init : Replicas ι E) where
  votesPast := Ballots.votesPast_init
  self h := by simp [init, Ballots.init] at h
  won h := by simp [init] at h
  lead_nil _ := rfl
  traced_log _ := traced_nil
  traced_lead _ := traced_nil
  traced_cand _ _ := traced_nil
  lead_le h := by simp [init] at h
  log_le h := by simp [init] at h
  cand_lt h := by simp [init] at h

/-! Each kind of step keeps the invariant. -/

theorem LogInv.observe (h : LogInv members q tm a) (p : ι) (t : ℕ) :
    LogInv members q tm (a.observe p t) where
  votesPast := (Ballots.Step.observe p t).votesPast h.votesPast
  self := h.self
  won := h.won
  lead_nil := h.lead_nil
  traced_log := h.traced_log
  traced_lead := h.traced_lead
  traced_cand := h.traced_cand
  lead_le := h.lead_le
  log_le he := (h.log_le he).trans ((Ballots.Step.observe p t).le.term _)
  cand_lt := h.cand_lt

omit [DecidableEq ι] in
theorem LogInv.vote_succ (h : LogInv members q tm a) (p : ι) : a.vote p (a.term p + 1) = none :=
  h.votesPast p _ (Nat.lt_succ_self _)

theorem LogInv.stand_step (h : LogInv members q tm a) (p : ι) :
    Ballots.Step a.toBallots (a.stand p).toBallots :=
  .cast p p _ (Nat.le_succ _) (Or.inl (h.vote_succ p))

theorem LogInv.stand (h : LogInv members q tm a) (p : ι) : LogInv members q tm (a.stand p) where
  votesPast := (h.stand_step p).votesPast h.votesPast
  self := by
    intro r t c hv
    by_cases hrt : r = p ∧ t = a.term p + 1
    · obtain ⟨rfl, rfl⟩ := hrt
      obtain rfl : r = c := Option.some.inj
        ((Ballots.cast_vote_self a.toBallots r r _).symm.trans hv)
      exact hv
    · refine (h.stand_step p).le.vote (h.self (p := r) ?_)
      rwa [← Ballots.cast_vote_of_ne a.toBallots p (by tauto)]
  won hl := (h.won hl).mono (h.stand_step p).le
  lead_nil := h.lead_nil
  traced_log := h.traced_log
  traced_lead := h.traced_lead
  traced_cand := by
    intro c t
    by_cases hct : c = p ∧ t = a.term p + 1
    · obtain ⟨rfl, rfl⟩ := hct
      rw [stand_cand_self]
      exact h.traced_log c
    · rw [a.stand_cand_of_ne (by tauto)]
      exact h.traced_cand c t
  lead_le := h.lead_le
  log_le he := (h.log_le he).trans ((h.stand_step p).le.term _)
  cand_lt := by
    intro c t e he
    by_cases hct : c = p ∧ t = a.term p + 1
    · obtain ⟨rfl, rfl⟩ := hct
      have he' : e ∈ a.log c := by simpa using he
      exact Nat.lt_succ_of_le (h.log_le he')
    · rw [a.stand_cand_of_ne (by tauto)] at he
      exact h.cand_lt he

theorem LogInv.cast (h : LogInv members q tm a) {p c : ι} (ht : a.term p ≤ t)
    (hv : a.vote p t = none ∨ a.vote p t = some c) (hc : a.vote c t = some c) :
    LogInv members q tm (a.cast p c t) where
  votesPast := (Ballots.Step.cast p c t ht hv).votesPast h.votesPast
  self := by
    have hle := (Ballots.Step.cast p c t ht hv).le
    intro r u d hd
    by_cases hrt : r = p ∧ u = t
    · obtain ⟨rfl, rfl⟩ := hrt
      obtain rfl : c = d := Option.some.inj
        ((Ballots.cast_vote_self a.toBallots r c _).symm.trans hd)
      exact hle.vote hc
    · refine hle.vote (h.self (p := r) ?_)
      rwa [← Ballots.cast_vote_of_ne a.toBallots c (by tauto)]
  won hl := (h.won hl).mono (Ballots.Step.cast p c t ht hv).le
  lead_nil := h.lead_nil
  traced_log := h.traced_log
  traced_lead := h.traced_lead
  traced_cand := h.traced_cand
  lead_le := h.lead_le
  log_le he := (h.log_le he).trans ((Ballots.Step.cast p c t ht hv).le.term _)
  cand_lt := h.cand_lt

omit [DecidableEq ι] in
theorem LogInv.lead_prefix_elect (h : LogInv members q tm a) {c : ι}
    (hl : a.leader (a.term c) = none) (t : ℕ) : a.lead t <+: (a.elect c).lead t := by
  rcases eq_or_ne t (a.term c) with rfl | ht
  · rw [h.lead_nil hl]
    exact nil_prefix
  · rw [a.elect_lead_of_ne ht]

omit [DecidableEq ι] in
theorem LogInv.elect (h : LogInv members q tm a) {c : ι}
    (hwon : a.toBallots.Won members q c (a.term c)) (hl : a.leader (a.term c) = none) :
    LogInv members q tm (a.elect c) where
  votesPast := h.votesPast
  self := h.self
  won := by
    intro t d hd
    rcases eq_or_ne t (a.term c) with rfl | ht
    · obtain rfl : c = d := by simpa using hd
      exact hwon
    · exact h.won (by rwa [a.elect_leader_of_ne ht] at hd)
  lead_nil := by
    intro t ht
    have hne : t ≠ a.term c := by
      rintro rfl
      simp at ht
    rw [a.elect_lead_of_ne hne]
    exact h.lead_nil (by rwa [a.elect_leader_of_ne hne] at ht)
  traced_log p := (h.traced_log p).mono (h.lead_prefix_elect hl)
  traced_lead t := by
    rcases eq_or_ne t (a.term c) with rfl | ht
    · rw [elect_lead_self]
      exact (h.traced_log c).mono (h.lead_prefix_elect hl)
    · rw [a.elect_lead_of_ne ht]
      exact (h.traced_lead t).mono (h.lead_prefix_elect hl)
  traced_cand d t := (h.traced_cand d t).mono (h.lead_prefix_elect hl)
  lead_le := by
    intro t e he
    rcases eq_or_ne t (a.term c) with rfl | ht
    · rw [elect_lead_self] at he
      exact h.log_le he
    · rw [a.elect_lead_of_ne ht] at he
      exact h.lead_le he
  log_le := h.log_le
  cand_lt := h.cand_lt

theorem lead_prefix_append (a : Replicas ι E) (p : ι) (e : E) (t : ℕ) :
    a.lead t <+: (a.append p e).lead t := by
  rcases eq_or_ne t (a.term p) with rfl | ht
  · rw [append_lead_self]
    exact prefix_append _ _
  · rw [a.append_lead_of_ne e ht]

theorem LogInv.traced_append (h : LogInv members q tm a) {p : ι} {e : E} (he : tm e = a.term p) :
    Traced tm (a.append p e).lead (a.lead (a.term p) ++ [e]) := by
  intro k x hk
  rcases Nat.lt_or_ge k (a.lead (a.term p)).length with hlt | hge
  · rw [getElem?_append_left hlt] at hk
    rw [take_append_of_le_length (by omega)]
    exact (h.traced_lead _ k x hk).trans (lead_prefix_append ..)
  · obtain rfl : e = x := by
      rw [getElem?_append_right hge] at hk
      rcases hk' : k - (a.lead (a.term p)).length with _ | j <;> simp_all
    rw [he, append_lead_self]
    exact take_prefix _ _

theorem LogInv.append (h : LogInv members q tm a) {p : ι} {e : E}
    (hl : a.leader (a.term p) = some p) (hlog : a.lead (a.term p) = a.log p)
    (he : tm e = a.term p) : LogInv members q tm (a.append p e) where
  votesPast := h.votesPast
  self := h.self
  won := h.won
  lead_nil := by
    intro t ht
    have hne : t ≠ a.term p := by
      rintro rfl
      rw [show (a.append p e).leader = a.leader from rfl, hl] at ht
      exact absurd ht (by simp)
    rw [a.append_lead_of_ne e hne]
    exact h.lead_nil ht
  traced_log r := by
    rcases eq_or_ne r p with rfl | hr
    · rw [append_log_self, ← hlog]
      exact h.traced_append he
    · rw [a.append_log_of_ne e hr]
      exact (h.traced_log r).mono (lead_prefix_append a p e)
  traced_lead t := by
    rcases eq_or_ne t (a.term p) with rfl | ht
    · rw [append_lead_self]
      exact h.traced_append he
    · rw [a.append_lead_of_ne e ht]
      exact (h.traced_lead t).mono (lead_prefix_append a p e)
  traced_cand c t := (h.traced_cand c t).mono (lead_prefix_append a p e)
  lead_le := by
    intro t x hx
    rcases eq_or_ne t (a.term p) with rfl | ht
    · rw [append_lead_self] at hx
      rcases mem_append.mp hx with hx | hx
      · exact h.lead_le hx
      · rw [mem_singleton.mp hx, he]
    · rw [a.append_lead_of_ne e ht] at hx
      exact h.lead_le hx
  log_le := by
    intro r x hx
    rcases eq_or_ne r p with rfl | hr
    · rw [append_log_self] at hx
      rcases mem_append.mp hx with hx | hx
      · exact h.log_le hx
      · rw [mem_singleton.mp hx, he]
        exact le_rfl
    · rw [a.append_log_of_ne e hr] at hx
      exact h.log_le hx
  cand_lt := h.cand_lt

theorem LogInv.accept [DecidableEq E] (h : LogInv members q tm a) (p : ι) (n : ℕ) :
    LogInv members q tm (a.accept p n) where
  votesPast := h.votesPast
  self := h.self
  won := h.won
  lead_nil := h.lead_nil
  traced_log r := by
    rcases eq_or_ne r p with rfl | hr
    · rw [accept_log_self]
      rcases adopt_cases (a.log r) (a.lead (a.term r)) n with hc | hc
      · rw [hc]
        exact h.traced_log r
      · rw [hc]
        exact (h.traced_lead _).take n
    · rw [a.accept_log_of_ne n hr]
      exact h.traced_log r
  traced_lead := h.traced_lead
  traced_cand := h.traced_cand
  lead_le := h.lead_le
  log_le := by
    intro r x hx
    rcases eq_or_ne r p with rfl | hr
    · rw [accept_log_self] at hx
      rcases adopt_cases (a.log r) (a.lead (a.term r)) n with hc | hc
      · rw [hc] at hx
        exact h.log_le hx
      · rw [hc] at hx
        exact h.lead_le (mem_of_mem_take hx)
    · rw [a.accept_log_of_ne n hr] at hx
      exact h.log_le hx
  cand_lt := h.cand_lt

theorem LogInv.step [DecidableEq E]
    (h : LogInv members q tm a) (hs : Step members q tm ok a a') : LogInv members q tm a' := by
  cases hs with
  | observe p t => exact h.observe p t
  | stand p => exact h.stand p
  | cast p c t ht hv hc _ => exact h.cast ht hv hc
  | elect c hwon hl _ => exact h.elect hwon hl
  | append p e hl hlog he => exact h.append hl hlog he
  | accept p n _ _ => exact h.accept p n

/-- **What the replicas never take back.** -/
structure Later (a a' : Replicas ι E) : Prop where
  vote : ∀ {p t c}, a.vote p t = some c → a'.vote p t = some c
  lead : ∀ t, a.lead t <+: a'.lead t
  acked : ∀ p t, a.acked p t ≤ a'.acked p t
  cand : ∀ {c t}, a.vote c t = some c → a'.cand c t = a.cand c t

omit [DecidableEq ι] in
theorem Later.refl (a : Replicas ι E) : Later a a where
  vote := id
  lead _ := prefix_rfl
  acked _ _ := le_rfl
  cand _ := rfl

omit [DecidableEq ι] in
theorem Later.trans {a'' : Replicas ι E} (h : Later a a') (h' : Later a' a'') : Later a a'' where
  vote hv := h'.vote (h.vote hv)
  lead t := (h.lead t).trans (h'.lead t)
  acked p t := (h.acked p t).trans (h'.acked p t)
  cand hv := (h'.cand (h.vote hv)).trans (h.cand hv)

theorem LogInv.later_stand (h : LogInv members q tm a) (p : ι) : Later a (a.stand p) where
  vote := (h.stand_step p).le.vote
  lead _ := prefix_rfl
  acked _ _ := le_rfl
  cand {c t} hv := by
    refine a.stand_cand_of_ne ?_
    by_contra hct
    obtain ⟨rfl, rfl⟩ : c = p ∧ t = a.term p + 1 := by tauto
    rw [h.vote_succ] at hv
    exact absurd hv (by simp)

theorem later_accept [DecidableEq E] (a : Replicas ι E) (p : ι) (n : ℕ) :
    Later a (a.accept p n) where
  vote := id
  lead _ := prefix_rfl
  acked r t := by
    by_cases hrt : r = p ∧ t = a.term p
    · obtain ⟨rfl, rfl⟩ := hrt
      rw [accept_acked_self]
      exact le_max_left _ _
    · rw [a.accept_acked_of_ne n (by tauto)]
  cand _ := rfl

theorem LogInv.later_of_step [DecidableEq E]
    (h : LogInv members q tm a) (hs : Step members q tm ok a a') : Later a a' := by
  have hrefl := Later.refl a
  cases hs with
  | observe => exact ⟨id, hrefl.lead, hrefl.acked, fun _ => rfl⟩
  | stand p => exact h.later_stand p
  | cast p c t ht hv =>
    exact ⟨(Ballots.Step.cast p c t ht hv).le.vote, hrefl.lead, hrefl.acked, fun _ => rfl⟩
  | elect c _ hl => exact ⟨id, h.lead_prefix_elect hl, hrefl.acked, fun _ => rfl⟩
  | append p e => exact ⟨id, lead_prefix_append a p e, hrefl.acked, fun _ => rfl⟩
  | accept p n => exact later_accept a p n

theorem LogInv.run [DecidableEq E]
    (h : LogInv members q tm a) (hs : Relation.ReflTransGen (Step members q tm ok) a a') :
    LogInv members q tm a' ∧ Later a a' := by
  induction hs with
  | refl => exact ⟨h, .refl a⟩
  | tail _ hstep ih => exact ⟨ih.1.step hstep, ih.2.trans (ih.1.later_of_step hstep)⟩

end Replicas

end VngDatabase.Consensus
