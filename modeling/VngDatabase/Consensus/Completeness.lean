import VngDatabase.Consensus.LeaderLog

/-!
# Committed entries are never lost

The safety half of a leader-based protocol: what a quorum has acknowledged in one term, the leader
of every later term holds.
-/

namespace VngDatabase.Consensus

open List Option

variable {ι E : Type*}

/-! ### Comparing logs -/

section

variable (tm : E → ℕ)

def lastTerm (l : List E) : ℕ := (l.getLast?.map tm).getD 0

/-- **The check of a voter** with the log `l`. -/
def UpToDate (c l : List E) : Prop :=
  lastTerm tm l < lastTerm tm c ∨ (lastTerm tm c = lastTerm tm l ∧ l.length ≤ c.length)

variable {tm}

theorem lastTerm_of_getLast? {l : List E} {e : E} (h : l.getLast? = some e) :
    lastTerm tm l = tm e := by
  rw [lastTerm, h]
  rfl

theorem exists_getLast? {l : List E} (h : l ≠ []) : ∃ e, l.getLast? = some e :=
  ⟨l.getLast h, getLast?_eq_some_getLast h⟩

end

namespace Replicas

variable (members : Finset ι) (q : ℕ) (tm : E → ℕ)

/-! ### Chosen and choosable entries -/

def OwnEntry (a : Replicas ι E) (t j : ℕ) : Prop :=
  ∃ e, (a.lead t)[j]? = some e ∧ tm e = t

def Chosen (a : Replicas ι E) (t j : ℕ) : Prop :=
  ∃ Q, IsQuorum members q Q ∧ ∀ p ∈ Q, j < a.acked p t

def Choosable (a : Replicas ι E) (t j : ℕ) : Prop :=
  ∃ Q, IsQuorum members q Q ∧ ∀ p ∈ Q, j < a.acked p t ∨ a.term p ≤ t

variable {members q tm} {a a' : Replicas ι E} {t u j : ℕ}

theorem Chosen.choosable (h : Chosen members q a t j) : Choosable members q a t j := by
  obtain ⟨Q, hQ, hack⟩ := h
  exact ⟨Q, hQ, fun p hp => Or.inl (hack p hp)⟩

theorem Choosable.anti (h : Choosable members q a' t j) (hterm : ∀ p, a.term p ≤ a'.term p)
    (hack : ∀ p, j < a'.acked p t → j < a.acked p t ∨ a.term p ≤ t) :
    Choosable members q a t j := by
  obtain ⟨Q, hQ, hp⟩ := h
  refine ⟨Q, hQ, fun p hpQ => ?_⟩
  rcases hp p hpQ with h1 | h1
  · exact hack p h1
  · exact Or.inr ((hterm p).trans h1)

theorem OwnEntry.lt_length (h : OwnEntry tm a t j) : j < (a.lead t).length := by
  obtain ⟨e, he, -⟩ := h
  exact (List.getElem?_eq_some_iff.mp he).1

theorem OwnEntry.length_take (h : OwnEntry tm a t j) :
    ((a.lead t).take (j + 1)).length = j + 1 := by
  have := h.lt_length
  rw [List.length_take]
  omega

structure Complete (members : Finset ι) (q : ℕ) (tm : E → ℕ) (a : Replicas ι E) : Prop where
  logInv : LogInv members q tm a
  acked_le : ∀ p t, a.acked p t ≤ (a.lead t).length
  acked_term : ∀ {p t}, 0 < a.acked p t → t ≤ a.term p
  complete : ∀ {t u j}, t < u → a.leader u ≠ none → OwnEntry tm a t j →
    Choosable members q a t j → (a.lead t).take (j + 1) <+: a.lead u
  kept : ∀ {p t j}, j < a.acked p t → OwnEntry tm a t j → Choosable members q a t j →
    (a.lead t).take (j + 1) <+: a.log p
  voted : ∀ {p c t u j}, a.vote p u = some c → t < u → j < a.acked p t → OwnEntry tm a t j →
    Choosable members q a t j → (a.lead t).take (j + 1) <+: a.cand c u

theorem complete_init : Complete members q tm (init : Replicas ι E) where
  logInv := logInv_init
  acked_le _ _ := le_rfl
  acked_term h := by simp [init] at h
  complete _ h _ _ := by simp [init] at h
  kept h _ _ := by simp [init] at h
  voted _ _ h _ _ := by simp [init] at h

/-- **An up-to-date log holds what can still be chosen** if the other one does. -/
theorem Complete.prefix_of_upToDate (h : Complete members q tm a) {l c : List E}
    (hown : OwnEntry tm a t j) (hch : Choosable members q a t j) (hl : Traced tm a.lead l)
    (hc : Traced tm a.lead c) (hx : (a.lead t).take (j + 1) <+: l) (hup : UpToDate tm c l) :
    (a.lead t).take (j + 1) <+: c := by
  have hlen := hown.length_take
  have hjl : j + 1 ≤ l.length := hlen ▸ hx.length_le
  obtain ⟨e, he⟩ := exists_getLast? (l := l) (by rintro rfl; simp at hjl)
  have hle := hl.prefix_of_getLast? he
  -- the last entry of `l` is of term `t` at least
  have hte : t ≤ tm e := by
    obtain ⟨x, hxj, hxt⟩ := hown
    have hmem : x ∈ (a.lead t).take (j + 1) :=
      mem_of_getElem? (i := j) (by rw [getElem?_take_of_succ]; exact hxj)
    rw [← hxt]
    exact h.logInv.lead_le ((hx.trans hle).subset hmem)
  rw [UpToDate, lastTerm_of_getLast? he] at hup
  rcases hup with hlt | ⟨heq, hlc⟩
  · obtain ⟨d, hd⟩ := exists_getLast? (l := c) (by
      rintro rfl
      simp [lastTerm] at hlt)
    rw [lastTerm_of_getLast? hd] at hlt
    have hcd := hc.prefix_of_getLast? hd
    have hdmem : d ∈ c := mem_of_getLast? hd
    have hlead : a.leader (tm d) ≠ none := by
      intro hnone
      have hmem := hcd.subset hdmem
      rw [h.logInv.lead_nil hnone] at hmem
      exact absurd hmem (by simp)
    have hxd := h.complete (hte.trans_lt hlt) hlead hown hch
    rcases le_or_gt ((a.lead t).take (j + 1)).length c.length with hle' | hgt
    · exact prefix_of_prefix_length_le hxd hcd hle'
    · have hcx := prefix_of_prefix_length_le hcd hxd hgt.le
      have := h.logInv.lead_le (mem_of_mem_take (hcx.subset hdmem))
      omega
  · obtain ⟨d, hd⟩ := exists_getLast? (l := c) (by
      rintro rfl
      rw [length_nil] at hlc
      omega)
    rw [lastTerm_of_getLast? hd] at heq
    have hcd := hc.prefix_of_getLast? hd
    rw [heq] at hcd
    exact prefix_of_prefix_length_le (hx.trans hle) hcd (by omega)

section

variable [DecidableEq ι]

theorem Choosable.exists_acked (hq : members.card < 2 * q) (h : Choosable members q a t j)
    (htu : t < u) {Q : Finset ι} (hQ : IsQuorum members q Q) (hu : ∀ p ∈ Q, u ≤ a.term p) :
    ∃ p ∈ Q, j < a.acked p t := by
  obtain ⟨Q', hQ', hp'⟩ := h
  obtain ⟨p, hp, hpQ'⟩ := hQ.exists_mem_inter hq hQ'
  refine ⟨p, hp, (hp' p hpQ').resolve_right fun hle => ?_⟩
  have := hu p hp
  omega

theorem Complete.observe (h : Complete members q tm a) (p : ι) (t : ℕ) :
    Complete members q tm (a.observe p t) := by
  have hle := (Ballots.Step.observe (b := a.toBallots) p t).le
  have hanti : ∀ {t' j}, Choosable members q (a.observe p t) t' j → Choosable members q a t' j :=
    fun hc => hc.anti hle.term fun _ => Or.inl
  exact {
    logInv := h.logInv.observe p t
    acked_le := h.acked_le
    acked_term := fun hpos => (h.acked_term hpos).trans (hle.term _)
    complete := fun htu hl hown hch => h.complete htu hl hown (hanti hch)
    kept := fun hj hown hch => h.kept hj hown (hanti hch)
    voted := fun hv htu hj hown hch => h.voted hv htu hj hown (hanti hch) }

theorem Complete.stand (h : Complete members q tm a) (p : ι) :
    Complete members q tm (a.stand p) := by
  have hle := (h.logInv.stand_step p).le
  have hanti : ∀ {t' j}, Choosable members q (a.stand p) t' j → Choosable members q a t' j :=
    fun hc => hc.anti hle.term fun _ => Or.inl
  refine {
    logInv := h.logInv.stand p
    acked_le := h.acked_le
    acked_term := fun hpos => (h.acked_term hpos).trans (hle.term _)
    complete := fun htu hl hown hch => h.complete htu hl hown (hanti hch)
    kept := fun hj hown hch => h.kept hj hown (hanti hch)
    voted := ?_ }
  intro r c t u j hv htu hj hown hch
  by_cases hru : r = p ∧ u = a.term p + 1
  · -- the candidate's own vote: it stands with the log it holds
    obtain ⟨rfl, rfl⟩ := hru
    obtain rfl : r = c := some.inj
      ((Ballots.cast_vote_self a.toBallots r r _).symm.trans hv)
    rw [stand_cand_self]
    exact h.kept hj hown (hanti hch)
  · rw [show (a.stand p).vote r u = a.vote r u from
      Ballots.cast_vote_of_ne a.toBallots p (by tauto)] at hv
    rw [a.stand_cand_of_ne]
    · exact h.voted hv htu hj hown (hanti hch)
    · -- nobody can have voted for `p` in a term it had not stood in
      by_contra hcu
      obtain ⟨rfl, rfl⟩ : c = p ∧ u = a.term p + 1 := by tauto
      have hself := h.logInv.self hv
      rw [h.logInv.vote_succ] at hself
      exact absurd hself (by simp)

theorem Complete.cast (h : Complete members q tm a) {p c : ι} {t : ℕ} (ht : a.term p ≤ t)
    (hv : a.vote p t = none ∨ a.vote p t = some c) (hc : a.vote c t = some c)
    (hup : UpToDate tm (a.cand c t) (a.log p)) : Complete members q tm (a.cast p c t) := by
  have hle := (Ballots.Step.cast p c t ht hv).le
  have hanti : ∀ {t' j}, Choosable members q (a.cast p c t) t' j → Choosable members q a t' j :=
    fun hc => hc.anti hle.term fun _ => Or.inl
  refine {
    logInv := h.logInv.cast ht hv hc
    acked_le := h.acked_le
    acked_term := fun hpos => (h.acked_term hpos).trans (hle.term _)
    complete := fun htu hl hown hch => h.complete htu hl hown (hanti hch)
    kept := fun hj hown hch => h.kept hj hown (hanti hch)
    voted := ?_ }
  intro r d t' u j hv' htu hj hown hch
  by_cases hru : r = p ∧ u = t
  · obtain ⟨rfl, rfl⟩ := hru
    obtain rfl : c = d := some.inj
      ((Ballots.cast_vote_self a.toBallots r c _).symm.trans hv')
    exact h.prefix_of_upToDate hown (hanti hch) (h.logInv.traced_log r)
      (h.logInv.traced_cand c u) (h.kept hj hown (hanti hch)) hup
  · rw [show (a.cast p c t).vote r u = a.vote r u from
      Ballots.cast_vote_of_ne a.toBallots c (by tauto)] at hv'
    exact h.voted hv' htu hj hown (hanti hch)

theorem Complete.elect (hq : members.card < 2 * q) (h : Complete members q tm a) {c : ι}
    (hwon : a.toBallots.Won members q c (a.term c)) (hl : a.leader (a.term c) = none)
    (hlog : a.log c = a.cand c (a.term c)) : Complete members q tm (a.elect c) := by
  -- the new log holds no entry of its own term yet
  have hown' : ∀ {t j}, OwnEntry tm (a.elect c) t j → t ≠ a.term c ∧ OwnEntry tm a t j := by
    intro t j hown
    have hne : t ≠ a.term c := by
      rintro rfl
      obtain ⟨e, he, het⟩ := hown
      rw [elect_lead_self, hlog] at he
      have := h.logInv.cand_lt (mem_of_getElem? he)
      omega
    obtain ⟨e, he, het⟩ := hown
    rw [a.elect_lead_of_ne hne] at he
    exact ⟨hne, e, he, het⟩
  refine {
    logInv := h.logInv.elect hwon hl
    acked_le := fun p t => (h.acked_le p t).trans (h.logInv.lead_prefix_elect hl t).length_le
    acked_term := h.acked_term
    complete := ?_
    kept := ?_
    voted := ?_ }
  · intro t u j htu hu hown hch
    obtain ⟨hne, hown⟩ := hown' hown
    rw [a.elect_lead_of_ne hne]
    rcases eq_or_ne u (a.term c) with rfl | hne'
    · rw [elect_lead_self, hlog]
      obtain ⟨Q, hQ, hvote⟩ := hwon
      have hterm : ∀ p ∈ Q, a.term c ≤ a.term p := fun p hp => by
        by_contra hlt
        have := hvote p hp
        rw [h.logInv.votesPast p _ (not_le.mp hlt)] at this
        exact absurd this (by simp)
      obtain ⟨p, hp, hj⟩ := hch.exists_acked hq htu hQ hterm
      exact h.voted (hvote p hp) htu hj hown hch
    · rw [a.elect_lead_of_ne hne']
      rw [a.elect_leader_of_ne hne'] at hu
      exact h.complete htu hu hown hch
  · intro p t j hj hown hch
    obtain ⟨hne, hown⟩ := hown' hown
    rw [a.elect_lead_of_ne hne]
    exact h.kept hj hown hch
  · intro p d t u j hv htu hj hown hch
    obtain ⟨hne, hown⟩ := hown' hown
    rw [a.elect_lead_of_ne hne]
    exact h.voted hv htu hj hown hch

theorem Complete.append (hq : members.card < 2 * q) (h : Complete members q tm a) {p : ι} {e : E}
    (hl : a.leader (a.term p) = some p) (hlog : a.lead (a.term p) = a.log p)
    (he : tm e = a.term p) : Complete members q tm (a.append p e) := by
  -- an entry of its own term is an old one or the one just appended
  have hown' : ∀ {t j}, OwnEntry tm (a.append p e) t j →
      (OwnEntry tm a t j ∧ ((a.append p e).lead t).take (j + 1) = (a.lead t).take (j + 1)) ∨
      (t = a.term p ∧ j = (a.lead t).length) := by
    intro t j hown
    rcases Nat.lt_or_ge j (a.lead t).length with hlt | hge
    · left
      obtain ⟨s, hs⟩ := lead_prefix_append a p e t
      obtain ⟨x, hx, hxt⟩ := hown
      rw [← hs, getElem?_append_left hlt] at hx
      exact ⟨⟨x, hx, hxt⟩, by rw [← hs, take_append_of_le_length (by omega)]⟩
    · right
      have hlt := hown.lt_length
      rcases eq_or_ne t (a.term p) with rfl | hne
      · rw [append_lead_self, length_append, length_singleton] at hlt
        exact ⟨rfl, by omega⟩
      · rw [a.append_lead_of_ne e hne] at hlt
        omega
  have hack : ∀ {r j t}, j < a.acked r t → j ≠ (a.lead t).length := by
    intro r j t hj
    have := h.acked_le r t
    omega
  refine {
    logInv := h.logInv.append hl hlog he
    acked_le := fun r t => (h.acked_le r t).trans (lead_prefix_append a p e t).length_le
    acked_term := h.acked_term
    complete := ?_
    kept := ?_
    voted := ?_ }
  · intro t u j htu hu hown hch
    rcases hown' hown with ⟨hown, htake⟩ | ⟨-, hj⟩
    · rw [htake]
      exact (h.complete htu hu hown hch).trans (lead_prefix_append a p e u)
    · -- too late: a later leader exists, and nobody has acknowledged the new entry
      obtain ⟨c, hc⟩ := ne_none_iff_exists'.mp hu
      obtain ⟨Q, hQ, hterm⟩ := (h.logInv.won hc).exists_quorum_term_le h.logInv.votesPast
      obtain ⟨r, -, hr⟩ := hch.exists_acked hq htu hQ hterm
      exact absurd hj (hack hr)
  · intro r t j hj hown hch
    rcases hown' hown with ⟨hown, htake⟩ | ⟨-, hj'⟩
    · rw [htake]
      refine (h.kept hj hown hch).trans ?_
      rcases eq_or_ne r p with rfl | hr
      · rw [append_log_self]
        exact prefix_append _ _
      · rw [a.append_log_of_ne e hr]
    · exact absurd hj' (hack hj)
  · intro r c t u j hv htu hj hown hch
    rcases hown' hown with ⟨hown, htake⟩ | ⟨-, hj'⟩
    · rw [htake]
      exact h.voted hv htu hj hown hch
    · exact absurd hj' (hack hj)

theorem Complete.accept [DecidableEq E] (h : Complete members q tm a) {p : ι} {n : ℕ}
    (hl : a.leader (a.term p) ≠ none) (hn : n ≤ (a.lead (a.term p)).length) :
    Complete members q tm (a.accept p n) := by
  have hanti : ∀ {t j}, Choosable members q (a.accept p n) t j → Choosable members q a t j := by
    intro t j hch
    refine hch.anti (fun _ => le_rfl) ?_
    intro r hj
    by_cases hrt : r = p ∧ t = a.term p
    · exact Or.inr (by rw [hrt.1, hrt.2])
    · rw [a.accept_acked_of_ne n (by tauto)] at hj
      exact Or.inl hj
  refine {
    logInv := h.logInv.accept p n
    acked_le := ?_
    acked_term := ?_
    complete := fun htu hu hown hch => h.complete htu hu hown (hanti hch)
    kept := ?_
    voted := ?_ }
  · intro r t
    by_cases hrt : r = p ∧ t = a.term p
    · obtain ⟨rfl, rfl⟩ := hrt
      rw [accept_acked_self]
      exact max_le (h.acked_le _ _) hn
    · rw [a.accept_acked_of_ne n (by tauto)]
      exact h.acked_le r t
  · intro r t hpos
    by_cases hrt : r = p ∧ t = a.term p
    · obtain ⟨rfl, rfl⟩ := hrt
      exact le_rfl
    · rw [a.accept_acked_of_ne n (by tauto)] at hpos
      exact h.acked_term hpos
  · intro r t j hj hown hch
    rcases eq_or_ne r p with rfl | hr
    · rw [accept_log_self]
      rcases eq_or_ne t (a.term r) with rfl | ht
      · rw [accept_acked_self] at hj
        rcases lt_max_iff.mp hj with hj | hj
        · exact prefix_adopt (h.kept hj hown (hanti hch)) ( take_prefix _ _)
        · refine List.IsPrefix.trans ?_ (take_prefix_adopt _ _ _)
          exact take_prefix_take_left hj
      · rw [a.accept_acked_of_ne n (Or.inr ht)] at hj
        have htlt : t < a.term r := lt_of_le_of_ne (h.acked_term (by omega)) ht
        exact prefix_adopt (h.kept hj hown (hanti hch)) (h.complete htlt hl hown (hanti hch))
    · rw [a.accept_acked_of_ne n (Or.inl hr)] at hj
      rw [a.accept_log_of_ne n hr]
      exact h.kept hj hown (hanti hch)
  · intro r c t u j hv htu hj hown hch
    by_cases hrt : r = p ∧ t = a.term p
    · obtain ⟨rfl, rfl⟩ := hrt
      have hnone := h.logInv.votesPast r u htu
      rw [show (a.accept r n).vote r u = a.vote r u from rfl, hnone] at hv
      exact absurd hv (by simp)
    · rw [a.accept_acked_of_ne n (by tauto)] at hj
      exact h.voted hv htu hj hown (hanti hch)

theorem Complete.step [DecidableEq E] (hq : members.card < 2 * q) (h : Complete members q tm a)
    (hs : Step members q tm (UpToDate tm) a a') : Complete members q tm a' := by
  cases hs with
  | observe p t => exact h.observe p t
  | stand p => exact h.stand p
  | cast p c t ht hv hc hup => exact h.cast ht hv hc hup
  | elect c hwon hl hlog => exact h.elect hq hwon hl hlog
  | append p e hl hlog he => exact h.append hq hl hlog he
  | accept p n hl hn => exact h.accept hl hn

theorem Complete.run [DecidableEq E] (hq : members.card < 2 * q) (h : Complete members q tm a)
    (hs : Relation.ReflTransGen (Step members q tm (UpToDate tm)) a a') :
    Complete members q tm a' := by
  induction hs with
  | refl => exact h
  | tail _ hstep ih => exact ih.step hq hstep

end

/-- **The first `i` entries of `l` are committed by term `T`.** -/
def Committed (members : Finset ι) (q : ℕ) (tm : E → ℕ) (a : Replicas ι E) (T : ℕ) (l : List E)
    (i : ℕ) : Prop :=
  i = 0 ∨ ∃ t ≤ T, ∃ j, OwnEntry tm a t j ∧ Chosen members q a t j ∧ i ≤ j + 1 ∧
    (a.lead t).take i <+: l

variable {l l' : List E} {i i' n T T' : ℕ}

theorem Committed.mono (h : Committed members q tm a T l i) (hT : T ≤ T') (hltr : Later a a')
    (hl : ∀ x, x.length = i → x <+: l → x <+: l') : Committed members q tm a' T' l' i := by
  rcases h with h0 | ⟨t, ht, j, hown, ⟨Q, hQ, hch⟩, hij, hpre⟩
  · exact Or.inl h0
  have hj := hown.lt_length
  obtain ⟨e, he, het⟩ := hown
  obtain ⟨s, hs⟩ := hltr.lead t
  refine Or.inr ⟨t, ht.trans hT, j, ⟨e, ?_, het⟩,
    ⟨Q, hQ, fun p hp => (hch p hp).trans_le (hltr.acked p t)⟩, hij, ?_⟩
  · rw [← hs, getElem?_append_left hj]
    exact he
  · rw [← hs, take_append_of_le_length (by omega)]
    refine hl _ ?_ hpre
    rw [length_take]
    omega

theorem Committed.le_length (h : Committed members q tm a T l i) : i ≤ l.length := by
  rcases h with rfl | ⟨t, -, j, hown, -, hij, hpre⟩
  · exact Nat.zero_le _
  · have := hown.lt_length
    have := hpre.length_le
    rw [length_take] at this
    omega

theorem Complete.take_prefix_lead (h : Complete members q tm a) (htu : t ≤ u)
    (hown : OwnEntry tm a t j) (hch : Chosen members q a t j) (hu : a.leader u ≠ none) :
    (a.lead t).take (j + 1) <+: a.lead u := by
  rcases htu.eq_or_lt with rfl | hlt
  · exact take_prefix _ _
  · exact h.complete hlt hu hown hch.choosable

theorem Complete.leader_ne_none (h : Complete members q tm a) (hown : OwnEntry tm a t j) :
    a.leader t ≠ none := by
  intro hnone
  have := hown.lt_length
  rw [h.logInv.lead_nil hnone] at this
  exact absurd this (by simp)

theorem Complete.committed_lead (h : Complete members q tm a) (hl : Committed members q tm a T l i)
    (hT : a.leader T ≠ none) {x : List E} (hx : x.length = i) (hpre : x <+: l) :
    x <+: a.lead T := by
  rcases hl with rfl | ⟨t, ht, j, hown, hch, hij, hlead⟩
  · rw [length_eq_zero_iff.mp hx]
    exact nil_prefix
  · have hlen := hown.lt_length
    have hxt : x <+: (a.lead t).take i :=
      prefix_of_prefix_length_le hpre hlead (by rw [length_take]; omega)
    exact (hxt.trans (take_prefix_take_left hij)).trans (h.take_prefix_lead ht hown hch hT)

theorem Complete.committed_adopt [DecidableEq E] (h : Complete members q tm a)
    (hl : Committed members q tm a T l i) (hT : a.leader T ≠ none) :
    Committed members q tm a T (adopt l (a.lead T) n) i :=
  hl.mono le_rfl (.refl a)
    fun _ hx hpre => prefix_adopt hpre (h.committed_lead hl hT hx hpre)

theorem Committed.adopt [DecidableEq E] (hl : Committed members q tm a T (a.lead T) i)
    (hi : i ≤ n) : Committed members q tm a T (adopt l (a.lead T) n) i := by
  refine hl.mono le_rfl (.refl a) ?_
  intro x hx hpre
  refine List.IsPrefix.trans ?_ (take_prefix_adopt _ _ _)
  refine prefix_of_prefix_length_le hpre ( take_prefix _ _) ?_
  have := hpre.length_le
  rw [length_take]
  omega

theorem Complete.committed_agree (h : Complete members q tm a)
    (hl : Committed members q tm a T l i) (hl' : Committed members q tm a T' l' i') {k : ℕ}
    (hk : k < i) (hk' : k < i') : l[k]? = l'[k]? := by
  obtain ⟨t, -, j, hown, hch, hij, hpre⟩ := hl.resolve_left (by omega)
  obtain ⟨t', -, j', hown', hch', hij', hpre'⟩ := hl'.resolve_left (by omega)
  -- both entries are read off the log of the later of the two terms
  obtain ⟨u, hu, hu'⟩ : ∃ u, (a.lead t).take (j + 1) <+: a.lead u ∧
      (a.lead t').take (j' + 1) <+: a.lead u := by
    rcases le_total t t' with htt | htt
    · exact ⟨t', h.take_prefix_lead htt hown hch (h.leader_ne_none hown'), take_prefix _ _⟩
    · exact ⟨t, take_prefix _ _, h.take_prefix_lead htt hown' hch' (h.leader_ne_none hown)⟩
  have read : ∀ {m : List E} {t j i : ℕ}, OwnEntry tm a t j → i ≤ j + 1 → k < i →
      (a.lead t).take i <+: m → (a.lead t).take (j + 1) <+: a.lead u → m[k]? = (a.lead u)[k]? := by
    intro m t j i hown hij hk hm hlead
    have hlen := hown.lt_length
    rw [getElem?_of_isPrefix hm (by rw [length_take]; omega), getElem?_take_of_lt hk,
      getElem?_of_isPrefix hlead (by rw [hown.length_take]; omega),
      getElem?_take_of_lt (by omega)]
  rw [read hown hij hk hpre hu, read hown' hij' hk' hpre' hu']

end Replicas

end VngDatabase.Consensus
