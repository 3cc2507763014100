import VngDatabase.Raft.Election
import VngDatabase.Raft.FullLog

/-!
# Logs that match

Two nodes that hold an entry of one term at one index should hold the same log up to there.
-/

namespace VngDatabase.Raft.Cluster

open Consensus RaftNode List

variable {members : List String} {c c' : Cluster} {a a' : Replicas String RaftLogEntry}
  {i j peer : String} {node : RaftNode} {ms : List Message} {t : ℕ} {req : RaftAppendRequest}
  {m : Member} {node' : RaftNode}

/-! ### What the replicas know of a node and of a message -/

/-- It keeps a part of its full log. -/
structure NodeHeld (a : Replicas String RaftLogEntry) (i : String) (node : RaftNode) : Prop where
  views : node.Views (a.log i)
  leads : node.role = .leader → a.leader (a.term i) = some i ∧ a.lead (a.term i) = a.log i
  stands : node.role = .candidate →
    a.leader (a.term i) ≠ some i ∧ a.cand i (a.term i) = a.log i

/-- **An append call describes a piece of the log of its term.** -/
def Offers (lead : List RaftLogEntry) (req : RaftAppendRequest) : Prop :=
  (req.prevLogIndex + req.entries.length ≤ lead.length ∧
    req.entries =
      (lead.take (req.prevLogIndex + req.entries.length)).drop req.prevLogIndex ∧
    req.prevLogTerm = termOf lead req.prevLogIndex) ∨
  (0 < req.prevLogIndex ∧ req.prevLogTerm = 0)

def MessageHeld (a : Replicas String RaftLogEntry) : Message → Prop
  | .voteRequest _ req => a.vote req.candidateId req.term = some req.candidateId
  | .appendRequest _ req => a.leader req.term ≠ none ∧ Offers (a.lead req.term) req
  | .snapshotRequest _ req => a.leader req.term ≠ none ∧
      req.snapshotIndex ≤ (a.lead req.term).length ∧
      req.snapshotTerm = termOf (a.lead req.term) req.snapshotIndex
  | _ => True

variable (members) in
structure Holds (c : Cluster) (a : Replicas String RaftLogEntry) : Prop where
  records : Records members c a.toBallots
  inv : a.LogInv members.toFinset ((members.length + 1) / 2) RaftLogEntry.term
  vote_pos : ∀ {p t d}, a.vote p t = some d → 0 < t
  contiguous : ∀ t, Contiguous 0 (a.lead t)
  node : ∀ i, NodeHeld a i (c.member i).raft
  message : ∀ {m}, m ∈ c.net → MessageHeld a m

variable (members) in
theorem holds_init : Holds members init Replicas.init where
  records := records_init members
  inv := Replicas.logInv_init
  vote_pos h := by simp [Replicas.init, Ballots.init] at h
  contiguous _ := contiguous_nil 0
  node i := ⟨views_new i, fun h => by simp [init, new] at h,
    fun h => by simp [init, new] at h⟩
  message h := by simp [init] at h

/-! ### Replicas that have moved on -/

structure Grows (a a' : Replicas String RaftLogEntry) (i : String) : Prop where
  vote : ∀ {p t d}, a.vote p t = some d → a'.vote p t = some d
  leader : ∀ {t}, a.leader t ≠ none → a'.leader t ≠ none
  lead : ∀ t, a.lead t <+: a'.lead t
  term_eq : ∀ j ≠ i, a'.term j = a.term j
  log_eq : ∀ j ≠ i, a'.log j = a.log j
  cand_eq : ∀ j ≠ i, a'.cand j = a.cand j
  leader_iff : ∀ j ≠ i, ∀ t, a'.leader t = some j ↔ a.leader t = some j
  lead_eq : ∀ j ≠ i, ∀ t, a.leader t = some j → a'.lead t = a.lead t

theorem Grows.refl (a : Replicas String RaftLogEntry) (i : String) : Grows a a i where
  vote := id
  leader := id
  lead _ := prefix_rfl
  term_eq _ _ := rfl
  log_eq _ _ := rfl
  cand_eq _ _ := rfl
  leader_iff _ _ _ := Iff.rfl
  lead_eq _ _ _ _ := rfl

theorem NodeHeld.mono (h : NodeHeld a j node) (hg : Grows a a' i) (hj : j ≠ i) :
    NodeHeld a' j node where
  views := by
    rw [hg.log_eq j hj]
    exact h.views
  leads hl := by
    obtain ⟨h1, h2⟩ := h.leads hl
    rw [hg.term_eq j hj, hg.log_eq j hj, hg.lead_eq j hj _ h1]
    exact ⟨(hg.leader_iff j hj _).mpr h1, h2⟩
  stands hc := by
    obtain ⟨h1, h2⟩ := h.stands hc
    rw [hg.term_eq j hj, hg.log_eq j hj, hg.cand_eq j hj]
    exact ⟨fun h' => h1 ((hg.leader_iff j hj _).mp h'), h2⟩

theorem Offers.mono {lead lead' : List RaftLogEntry}
    (h : Offers lead req) (hle : lead <+: lead') : Offers lead' req := by
  rcases h with ⟨hlen, hent, hterm⟩ | h
  · refine Or.inl ⟨hlen.trans hle.length_le, ?_, ?_⟩
    · obtain ⟨s, rfl⟩ := hle
      rwa [take_append_of_le_length hlen]
    · rw [hterm, termOf_of_isPrefix hle (by omega)]
  · exact Or.inr h

theorem MessageHeld.mono {m : Message} (h : MessageHeld a m) (hg : Grows a a' i) :
    MessageHeld a' m := by
  cases m with
  | voteRequest peer req => exact hg.vote h
  | appendRequest peer req => exact ⟨hg.leader h.1, h.2.mono (hg.lead _)⟩
  | snapshotRequest peer req =>
    obtain ⟨h1, h2, h3⟩ := h
    refine ⟨hg.leader h1, h2.trans (hg.lead _).length_le, ?_⟩
    rw [h3, termOf_of_isPrefix (hg.lead _) h2]
  | _ => trivial

theorem Holds.update (h : Holds members c a)
    (hrec : Records members ((c.setMember i m).send ms) a'.toBallots)
    (hinv : a'.LogInv members.toFinset ((members.length + 1) / 2) RaftLogEntry.term)
    (hpos : ∀ {p t d}, a'.vote p t = some d → 0 < t) (hcont : ∀ t, Contiguous 0 (a'.lead t))
    (hg : Grows a a' i) (hnode : NodeHeld a' i m.raft) (hms : ∀ x ∈ ms, MessageHeld a' x) :
    Holds members ((c.setMember i m).send ms) a' where
  records := hrec
  inv := hinv
  vote_pos := hpos
  contiguous := hcont
  node j := by
    rcases eq_or_ne j i with rfl | hj
    · simpa using hnode
    · rw [send_member, setMember_of_ne c m hj]
      exact (h.node j).mono hg hj
  message {x} hx := by
    rcases mem_append.mp hx with hx | hx
    · exact (h.message hx).mono hg
    · exact hms x hx

theorem Holds.keep (h : Holds members c a)
    (hrec : Records members ((c.setMember i m).send ms) a.toBallots) (hnode : NodeHeld a i m.raft)
    (hms : ∀ x ∈ ms, MessageHeld a x) : Holds members ((c.setMember i m).send ms) a :=
  h.update hrec h.inv h.vote_pos h.contiguous (.refl a i) hnode hms

theorem NodeHeld.congr (h : NodeHeld a i node) (hl : node.SameLog node')
    (hr : node'.role = node.role) : NodeHeld a i node' where
  views := h.views.congr hl
  leads hlead := h.leads (hr ▸ hlead)
  stands hc := h.stands (hr ▸ hc)

theorem NodeHeld.quiet (h : NodeHeld a i node) (hq : Quiet node node') : NodeHeld a i node' := by
  obtain ⟨_, _, _, rfl⟩ := hq
  exact h.congr ⟨rfl, rfl, rfl⟩ rfl

theorem NodeHeld.of_follower (hv : node.Views (a.log i))
    (hr : node.role = .follower) : NodeHeld a i node where
  views := hv
  leads hl := by simp [hr] at hl
  stands hc := by simp [hr] at hc

theorem NodeHeld.observeTerm {b : Ballots String} (h : NodeHeld a i node)
    (hterm : ¬ node.currentTerm < t → b.term i = a.term i) :
    NodeHeld { a with toBallots := b } i (node.observeTerm t) := by
  rw [RaftNode.observeTerm]
  split_ifs with hlt
  · exact .of_follower (h.views.congr ⟨by simp, by simp, by simp⟩) (by simp)
  · refine ⟨h.views, ?_, ?_⟩ <;> dsimp only <;> rw [hterm hlt]
    exacts [h.leads, h.stands]

theorem quorum_pos (hodd : Odd members.length) : 0 < (members.length + 1) / 2 := by
  obtain ⟨m, hm⟩ := hodd
  omega

theorem Holds.leader_vote (h : Holds members c a) (hodd : Odd members.length) {d : String}
    (hl : a.leader t = some d) : a.vote d t = some d := by
  obtain ⟨Q, hQ, hv⟩ := h.inv.won hl
  obtain ⟨p, hp⟩ := Finset.card_pos.mp ((quorum_pos hodd).trans_le hQ.le_card)
  exact h.inv.self (hv p hp)

theorem Holds.entry_term_pos (h : Holds members c a) (hodd : Odd members.length)
    {e : RaftLogEntry} {k : ℕ} (he : (a.log i)[k]? = some e) : 0 < e.term := by
  suffices hl : a.leader e.term ≠ none by
    obtain ⟨d, hd⟩ := Option.ne_none_iff_exists'.mp hl
    exact h.vote_pos (h.leader_vote hodd hd)
  intro hnone
  have hk := (List.getElem?_eq_some_iff.mp he).1
  have hlen := (h.inv.traced_log i k e he).length_le
  rw [h.inv.lead_nil hnone, List.length_take, List.length_nil] at hlen
  omega

theorem Holds.matching (h : Holds members c a) (i : String) (t : ℕ) :
    Matching (a.log i) (a.lead t) :=
  fun _ _ _ hx hy hxy => (h.inv.traced_log i).take_eq (h.inv.traced_lead t) hx hy hxy

theorem Grows.trans {a'' : Replicas String RaftLogEntry} (h : Grows a a' i)
    (h' : Grows a' a'' i) : Grows a a'' i where
  vote hv := h'.vote (h.vote hv)
  leader hl := h'.leader (h.leader hl)
  lead t := (h.lead t).trans (h'.lead t)
  term_eq j hj := (h'.term_eq j hj).trans (h.term_eq j hj)
  log_eq j hj := (h'.log_eq j hj).trans (h.log_eq j hj)
  cand_eq j hj := (h'.cand_eq j hj).trans (h.cand_eq j hj)
  leader_iff j hj t := (h'.leader_iff j hj t).trans (h.leader_iff j hj t)
  lead_eq j hj t hl :=
    (h'.lead_eq j hj t ((h.leader_iff j hj t).mpr hl)).trans (h.lead_eq j hj t hl)

theorem grows_observe (a : Replicas String RaftLogEntry) (i : String) (t : ℕ) :
    Grows a (a.observe i t) i :=
  { Grows.refl a i with term_eq := fun _ hj => a.toBallots.observe_term_of_ne t hj }

theorem grows_accept (a : Replicas String RaftLogEntry) (i : String) (n : ℕ) :
    Grows a (a.accept i n) i :=
  { Grows.refl a i with log_eq := fun _ hj => a.accept_log_of_ne n hj }

theorem grows_cast {d : String} (hterm : a.term i ≤ t)
    (hfree : a.vote i t = none ∨ a.vote i t = some d) : Grows a (a.cast i d t) i :=
  { Grows.refl a i with
    vote := (Ballots.Step.cast i d t hterm hfree).le.vote
    term_eq := fun _ hj => a.toBallots.cast_term_of_ne d t hj }

theorem Holds.grows_stand (h : Holds members c a) (i : String) : Grows a (a.stand i) i :=
  { Grows.refl a i with
    vote := (h.inv.stand_step i).le.vote
    term_eq := fun _ hj => a.toBallots.cast_term_of_ne i _ hj
    cand_eq := fun _ hj => funext fun _ => a.stand_cand_of_ne (Or.inl hj) }

theorem Holds.grows_elect (h : Holds members c a) (hl : a.leader (a.term i) = none) :
    Grows a (a.elect i) i := by
  -- the term that gets a leader had none, so it is nobody else's
  have hne : ∀ {t j}, a.leader t = some j → t ≠ a.term i := by
    rintro t j ht rfl
    rw [hl] at ht
    exact absurd ht (by simp)
  refine { Grows.refl a i with
    leader := ?_, lead := h.inv.lead_prefix_elect hl, leader_iff := ?_, lead_eq := ?_ }
  · intro t ht
    obtain ⟨d, hd⟩ := Option.ne_none_iff_exists'.mp ht
    rwa [a.elect_leader_of_ne (hne hd)]
  · intro j hj t
    rcases eq_or_ne t (a.term i) with rfl | ht
    · rw [a.elect_leader_self, hl]
      simpa using hj.symm
    · rw [a.elect_leader_of_ne ht]
  · intro j _ t ht
    exact a.elect_lead_of_ne (hne ht)

theorem grows_append (hl : a.leader (a.term i) = some i) (e : RaftLogEntry) :
    Grows a (a.append i e) i := by
  refine { Grows.refl a i with
    lead := a.lead_prefix_append i e
    log_eq := fun _ hj => a.append_log_of_ne e hj
    lead_eq := ?_ }
  rintro j hj t ht
  refine a.append_lead_of_ne e ?_
  rintro rfl
  exact hj (Option.some.inj (ht.symm.trans hl))

theorem Holds.calm (h : Holds members c a) (i : String)
    (hb : (c.member i).raft.SameBallot node) (hl : (c.member i).raft.SameLog node)
    (hrec : ∀ x ∈ ms, MessageRecorded a.toBallots x) (hms : ∀ x ∈ ms, MessageHeld a x) :
    Holds members ((c.setRaft i node).send ms) a :=
  h.keep (h.records.calm i hb hrec) ((h.node i).congr hl hb.role) hms

theorem Holds.still (h : Holds members c a) (i : String)
    (hb : (c.member i).raft.SameBallot node) (hl : (c.member i).raft.SameLog node) :
    Holds members (c.setRaft i node) a := by
  rw [← send_nil (c.setRaft i node)]
  exact h.calm i hb hl (by simp) (by simp)

theorem Holds.stand (h : Holds members c a) (hodd : Odd members.length) (i : String) {ticks : ℕ}
    (hm : m.raft = { (c.member i).raft.becomeCandidate with ticksSinceHeartbeat := ticks })
    (hrec : Records members ((c.setMember i m).send ms) (a.stand i).toBallots)
    (hms : ∀ x ∈ ms, MessageHeld (a.stand i) x) :
    Holds members ((c.setMember i m).send ms) (a.stand i) := by
  have hterm : (a.stand i).term i = a.term i + 1 := Ballots.cast_term_self ..
  refine h.update hrec (h.inv.stand i) ?_ h.contiguous (h.grows_stand i) ?_ hms
  · intro p t d hv
    by_cases hpt : p = i ∧ t = a.term i + 1
    · omega
    · rw [show (a.stand i).vote p t = a.vote p t from
        Ballots.cast_vote_of_ne a.toBallots i (by tauto)] at hv
      exact h.vote_pos hv
  · rw [hm]
    refine ⟨(h.node i).views.congr ⟨rfl, rfl, rfl⟩, fun hl => ?_, fun _ => ?_⟩
    · simp [becomeCandidate] at hl
    · rw [hterm]
      refine ⟨fun hl => ?_, a.stand_cand_self i⟩
      have hvote := h.leader_vote hodd hl
      rw [h.inv.vote_succ] at hvote
      cases hvote

theorem Holds.refuse (h : Holds members c a) (peer : String) (t : ℕ)
    (hrec : ∀ x ∈ ms, MessageRecorded a.toBallots x) (hms : ∀ x ∈ ms, MessageHeld a x) :
    Holds members ((c.setRaft peer ((c.member peer).raft.observeTerm t)).send ms)
      (a.observe peer t) :=
  h.update (h.records.refuse peer t hrec) (h.inv.observe peer t) h.vote_pos h.contiguous
    (grows_observe a peer t) ((h.node peer).observeTerm (h.records.node peer).observe_term)
    fun x hx => (hms x hx).mono (grows_observe a peer t)

theorem Holds.grant (h : Holds members c a) (peer : String) {req : RaftVoteRequest}
    (resp : RaftVoteResponse) (hle : (c.member peer).raft.currentTerm ≤ req.term)
    (hfree : a.vote peer req.term = none ∨ a.vote peer req.term = some req.candidateId)
    (hself : a.vote req.candidateId req.term = some req.candidateId) :
    Holds members
      ((c.setRaft peer { (c.member peer).raft.observeTerm req.term with
        votedFor := some req.candidateId }).send [.voteResponse peer req resp])
      (a.cast peer req.candidateId req.term) := by
  have hle' : a.term peer ≤ req.term := (h.records.node peer).term ▸ hle
  refine h.update (h.records.grant peer resp hle hfree) (h.inv.cast hle' hfree hself) ?_
    h.contiguous (grows_cast hle' hfree) ?_ (by simp [MessageHeld])
  · intro p t d hv
    by_cases hpt : p = peer ∧ t = req.term
    · rw [hpt.2]
      exact h.vote_pos hself
    · rw [show (a.cast peer req.candidateId req.term).vote p t = a.vote p t from
        Ballots.cast_vote_of_ne a.toBallots _ (by tauto)] at hv
      exact h.vote_pos hv
  · have hnode : NodeHeld (a.cast peer req.candidateId req.term) peer _ :=
      (h.node peer).observeTerm ((h.records.node peer).cast_term _ hle)
    exact hnode.congr ⟨rfl, rfl, rfl⟩ rfl

theorem Holds.lead (h : Holds members c a) (hnd : members.Nodup) (hodd : Odd members.length)
    {e : Election} (he : (c.member i).election = some e)
    (hq : (members.length + 1) / 2 ≤ e.votesGranted) (hrole : (c.member i).raft.role = .candidate)
    (hterm : (c.member i).raft.currentTerm = e.term) :
    a.Won members.toFinset ((members.length + 1) / 2) i (a.term i) ∧
    a.leader (a.term i) = none ∧ a.log i = a.cand i (a.term i) ∧
    Holds members (c.setMember i { c.member i with
      raft := (c.member i).raft.becomeLeader.initLeaderIndices (peers members i)
      election := none }) (a.elect i) := by
  have hrec := h.records.lead he hq hterm
  obtain ⟨next, mtch, hinit⟩ :=
    (c.member i).raft.becomeLeader.initLeaderIndices_frame (peers members i)
  obtain ⟨hsta, hcand⟩ := (h.node i).stands hrole
  have hwon : a.Won members.toFinset ((members.length + 1) / 2) i (a.term i) := by
    have := (hrec.node i).won
    rw [setMember_self, hinit] at this
    exact this rfl
  have hnone : a.leader (a.term i) = none := by
    by_contra hl
    obtain ⟨d, hd⟩ := Option.ne_none_iff_exists'.mp hl
    obtain rfl := Ballots.won_unique (card_lt_two_mul_quorum hnd hodd) hwon (h.inv.won hd)
    exact hsta hd
  refine ⟨hwon, hnone, hcand.symm, ?_⟩
  rw [← send_nil (c.setMember i _)] at hrec ⊢
  refine h.update hrec (h.inv.elect hwon hnone) h.vote_pos ?_ (h.grows_elect hnone) ?_ (by simp)
  · intro t
    rcases eq_or_ne t (a.term i) with rfl | ht
    · rw [a.elect_lead_self]
      exact (h.node i).views.contiguous
    · rw [a.elect_lead_of_ne ht]
      exact h.contiguous t
  · dsimp only
    rw [hinit]
    refine ⟨(h.node i).views.congr ⟨rfl, rfl, rfl⟩, fun _ => ?_, fun hc => ?_⟩
    · exact ⟨a.elect_leader_self i, a.elect_lead_self i⟩
    · simp [becomeLeader] at hc

theorem heartbeatTo_cases {l : List RaftLogEntry} (hv : node.Views l)
    (rows : Finmap fun _ : String => RowData) (peer : String) :
    (0 < node.snapshotIndex ∧ node.heartbeatTo rows peer = .snapshotRequest peer
        ⟨node.currentTerm, node.nodeId, node.snapshotIndex, node.snapshotTerm, rows⟩) ∨
    ∃ req, node.heartbeatTo rows peer = .appendRequest peer req ∧
      req.term = node.currentTerm ∧ req.leaderId = node.nodeId ∧
      req.leaderCommit = node.commitIndex ∧
      ((req.prevLogIndex + req.entries.length = l.length ∧ req.entries = l.drop req.prevLogIndex ∧
        req.prevLogTerm = termOf l req.prevLogIndex) ∨
      (0 < req.prevLogIndex ∧ req.prevLogTerm = 0)) := by
  rw [heartbeatTo]
  obtain ⟨ni, hni⟩ : ∃ ni, ni = (node.nextIndex.lookup peer).getD (node.commitIndex + 1) := ⟨_, rfl⟩
  rw [← hni]
  have hslen := hv.snapshotIndex_le
  split_ifs with hsnap
  · exact Or.inl ⟨hsnap.2, rfl⟩
  refine Or.inr ⟨_, rfl, rfl, rfl, rfl, ?_⟩
  dsimp only
  rcases Nat.lt_or_ge l.length (ni - 1) with hlt | hge
  · refine Or.inr ⟨by omega, ?_⟩
    rw [hv.termAt (by omega), termOf, if_neg (by omega), getElem?_eq_none (by omega)]
    rfl
  · have hs : node.snapshotIndex ≤ ni - 1 := by omega
    have hent : (node.log.filter fun e => ni ≤ e.index) = l.drop (ni - 1) := by
      rw [← hv.filter hs]
      refine filter_congr ?_
      intro e he
      obtain ⟨k, hk⟩ := mem_iff_getElem?.mp he
      have := hv.logIndexed k e hk
      simp only [decide_eq_decide]
      omega
    refine Or.inl ⟨?_, hent, hv.termAt hs⟩
    rw [hent, length_drop]
    omega

theorem Holds.heartbeatTo (h : Holds members c a) (hq : Quiet (c.member i).raft node)
    (hrole : node.role = .leader) (rows : Finmap fun _ : String => RowData) (peer : String) :
    MessageHeld a (node.heartbeatTo rows peer) := by
  have hnode := (h.node i).quiet hq
  have hterm : node.currentTerm = a.term i := ((h.records.node i).quiet hq).term
  obtain ⟨hl, hlead⟩ := hnode.leads hrole
  have hne : a.leader (a.term i) ≠ none := by
    rw [hl]
    exact Option.some_ne_none i
  rcases heartbeatTo_cases hnode.views rows peer with ⟨-, heq⟩ | ⟨req, heq, ht, -, -, hoff⟩
  · rw [heq]
    dsimp only [MessageHeld]
    rw [hterm, hlead]
    exact ⟨hne, hnode.views.snapshotIndex_le, hnode.views.snapshotTerm⟩
  · rw [heq]
    dsimp only [MessageHeld]
    rw [ht, hterm, hlead]
    refine ⟨hne, hoff.imp_left ?_⟩
    rintro ⟨hlen, hent, hpt⟩
    refine ⟨hlen.le, ?_, hpt⟩
    rw [hlen, take_length, hent]

theorem Holds.heartbeat (h : Holds members c a) (hq : Quiet (c.member i).raft node)
    (hrole : node.role = .leader) (rows : Finmap fun _ : String => RowData) :
    Holds members ((c.setRaft i node).send ((peers members i).map (node.heartbeatTo rows))) a := by
  refine h.keep (h.records.heartbeat hq rows) ((h.node i).quiet hq) ?_
  intro x hx
  obtain ⟨p, -, rfl⟩ := mem_map.mp hx
  exact h.heartbeatTo hq hrole rows p

theorem Holds.voteRequest_held (h : Holds members c a)
    (hn : node = { (c.member i).raft.becomeCandidate with ticksSinceHeartbeat := 0 }) (p : String) :
    MessageHeld (a.stand i) (.voteRequest p node.voteRequestOf) := by
  have hid : node.voteRequestOf.candidateId = i := by
    rw [hn]
    exact (h.records.node i).nodeId
  have hterm : node.voteRequestOf.term = a.term i + 1 := by
    rw [hn]
    exact congrArg (· + 1) (h.records.node i).term
  dsimp only [MessageHeld]
  rw [hid, hterm]
  exact Ballots.cast_vote_self ..

theorem Holds.campaign (h : Holds members c a) (hnd : members.Nodup) (hodd : Odd members.length)
    (hi : i ∈ members)
    (hn : node = { (c.member i).raft.becomeCandidate with ticksSinceHeartbeat := 0 }) :
    Holds members
      ((c.setMember i { c.member i with
        raft := node
        election := some ⟨node.currentTerm, 1, peers members i⟩ }).send
          ((peers members i).map fun peer => .voteRequest peer node.voteRequestOf))
      (a.stand i) := by
  refine h.stand hodd i hn (h.records.campaign hnd hi hn) ?_
  intro x hx
  obtain ⟨p, -, rfl⟩ := mem_map.mp hx
  exact h.voteRequest_held hn p

theorem Holds.append (h : Holds members c a) (command : String)
    (hrole : (c.member i).raft.role = .leader) (hb : (c.member i).raft.SameBallot node)
    (hlog : node.log = (c.member i).raft.log ++
      [⟨(c.member i).raft.lastLogPosition.1 + 1, (c.member i).raft.currentTerm, command⟩])
    (hs : node.snapshotIndex = (c.member i).raft.snapshotIndex)
    (hst : node.snapshotTerm = (c.member i).raft.snapshotTerm) :
    Holds members (c.setRaft i node)
      (a.append i ⟨(a.log i).length + 1, a.term i, command⟩) := by
  have hnode := h.node i
  have hterm := (h.records.node i).term
  obtain ⟨hl, hlead⟩ := hnode.leads hrole
  rw [hnode.views.lastLogPosition_fst, hterm] at hlog
  rw [← send_nil (c.setRaft i node)]
  refine h.update (h.records.calm i hb (by simp)) (h.inv.append hl hlead rfl) h.vote_pos ?_
    (grows_append hl _) ?_ (by simp)
  · intro t
    rcases eq_or_ne t (a.term i) with rfl | hne
    · rw [a.append_lead_self, hlead]
      exact hnode.views.contiguous.concat (by simp; omega)
    · rw [a.append_lead_of_ne _ hne]
      exact h.contiguous t
  · refine ⟨?_, fun _ => ⟨hl, ?_⟩, fun hc => ?_⟩
    · rw [a.append_log_self]
      exact hnode.views.concat rfl hlog hs hst
    · rw [show (a.append i _).term i = a.term i from rfl, a.append_lead_self, a.append_log_self,
        hlead]
    · rw [hb.role, hrole] at hc
      exact absurd hc (by simp)

theorem Holds.hear (h : Holds members c a) (peer : String) (t : ℕ)
    (hb : ((c.member peer).raft.hearLeader t).SameBallot node)
    (hl : (c.member peer).raft.SameLog node)
    (hrec : ∀ x ∈ ms, MessageRecorded a.toBallots x) (hms : ∀ x ∈ ms, MessageHeld a x) :
    Holds members ((c.setRaft peer node).send ms) (a.observe peer t) :=
  h.update (h.records.hear peer t hb hrec) (h.inv.observe peer t) h.vote_pos h.contiguous
    (grows_observe a peer t) (.of_follower ((h.node peer).views.congr hl) (by simp [hb.role]))
    fun x hx => (hms x hx).mono (grows_observe a peer t)

theorem Holds.accept (h : Holds members c a) (peer : String) {n : ℕ}
    (hle : (c.member peer).raft.currentTerm ≤ t)
    (hb : ((c.member peer).raft.hearLeader t).SameBallot node)
    (hvw : node.Views (adopt (a.log peer) (a.lead t) n))
    (hrec : ∀ x ∈ ms, MessageRecorded a.toBallots x) (hms : ∀ x ∈ ms, MessageHeld a x) :
    Holds members ((c.setRaft peer node).send ms) ((a.observe peer t).accept peer n) := by
  have hg := (grows_observe a peer t).trans (grows_accept (a.observe peer t) peer n)
  have hterm : (a.observe peer t).term peer = t := by
    rw [show (a.observe peer t).term peer = _ from Ballots.observe_term_self ..]
    exact max_eq_right ((h.records.node peer).term ▸ hle)
  refine h.update (h.records.hear peer t hb hrec) ((h.inv.observe peer t).accept peer n)
    h.vote_pos h.contiguous hg (.of_follower ?_ (by simp [hb.role])) fun x hx => (hms x hx).mono hg
  rw [Replicas.accept_log_self, hterm]
  exact hvw

/-! ### The comparisons the source leaves out -/

/-- A call that covers the snapshot index has the snapshot's term there. -/
def AppendKeeps (node : RaftNode) (req : RaftAppendRequest) : Prop :=
  req.prevLogIndex = 0 → (∃ e ∈ req.entries, node.snapshotIndex < e.index) →
    ∀ e ∈ req.entries, e.index = node.snapshotIndex → e.term = node.snapshotTerm

def SnapshotKeeps (node : RaftNode) (req : RaftInstallSnapshotRequest) : Prop :=
  node.snapshotIndex + node.log.length ≤ req.snapshotIndex ∨
    (node.logEntryAt req.snapshotIndex).map RaftLogEntry.term = some req.snapshotTerm

def DeliveryKeeps (c : Cluster) : Message → Prop
  | .appendRequest peer req => (c.member peer).raft.currentTerm ≤ req.term →
      AppendKeeps (c.member peer).raft req
  | .snapshotRequest peer req => (c.member peer).raft.currentTerm ≤ req.term →
      (c.member peer).raft.snapshotIndex < req.snapshotIndex →
      SnapshotKeeps (c.member peer).raft req
  | _ => True

/-- **What is delivered keeps logs**, and compactions stay inside. -/
def KeepsLogs (c : Cluster) : Action → Prop
  | .deliver k => ∀ m ∈ c.net[k]?, DeliveryKeeps c m
  | .compactIfNeeded i =>
    (c.member i).raft.lastApplied ≤
      (c.member i).raft.snapshotIndex + (c.member i).raft.log.length
  | _ => True

instance (c : Cluster) : DecidablePred (DeliveryKeeps c)
  | .appendRequest .. => inferInstanceAs (Decidable (_ → _ → _ → _))
  | .snapshotRequest .. => inferInstanceAs (Decidable (_ → _ → (_ ∨ _)))
  | .voteRequest .. | .voteResponse .. | .appendResponse .. | .snapshotResponse .. =>
    inferInstanceAs (Decidable True)

instance (c : Cluster) : DecidablePred (KeepsLogs c)
  | .deliver k => inferInstanceAs (Decidable (∀ m ∈ c.net[k]?, DeliveryKeeps c m))
  | .compactIfNeeded _ => inferInstanceAs (Decidable (_ ≤ _))
  | .tick .. | .raftTick _ | .raftHeartbeat _ | .leaderPromotion _ | .voteLost .. |
    .finishElection _ | .appendCommand .. | .appendCommandPending .. | .collectCommitted _ |
    .finishApply _ => inferInstanceAs (Decidable True)

theorem Holds.take_snapshot_eq (h : Holds members c a) {es : List RaftLogEntry} {n : ℕ}
    (hent : es = ((a.lead t).take n).drop 0)
    (hlt : (c.member peer).raft.snapshotIndex < n) (hlen : n ≤ (a.lead t).length)
    (hkeep : (∃ e ∈ es, (c.member peer).raft.snapshotIndex < e.index) →
      ∀ e ∈ es, e.index = (c.member peer).raft.snapshotIndex →
        e.term = (c.member peer).raft.snapshotTerm) :
    (a.log peer).take (c.member peer).raft.snapshotIndex =
      (a.lead t).take (c.member peer).raft.snapshotIndex := by
  have hvw := (h.node peer).views
  rcases Nat.eq_zero_or_pos (c.member peer).raft.snapshotIndex with hs0 | hpos
  · rw [hs0, take_zero, take_zero]
  -- the call carries an entry of every index up to `n`
  have hmem : ∀ k, k < n → ∃ y ∈ es, (a.lead t)[k]? = some y ∧ y.index = k + 1 := by
    intro k hk
    have hget : (a.lead t)[k]? = some (a.lead t)[k] := getElem?_eq_getElem (by omega)
    refine ⟨(a.lead t)[k], ?_, hget, ?_⟩
    · rw [hent, drop_zero]
      exact mem_of_getElem? ((getElem?_take_of_lt hk).trans hget)
    · have := h.contiguous t k _ hget
      omega
  obtain ⟨z, hz, -, hzi⟩ := hmem (n - 1) (by omega)
  obtain ⟨y, hy, hget, hyi⟩ := hmem ((c.member peer).raft.snapshotIndex - 1) (by omega)
  have hyt := hkeep ⟨z, hz, by omega⟩ y hy (by omega)
  obtain ⟨x, hx, hxt⟩ := exists_termOf hpos hvw.snapshotIndex_le
  have heq := h.matching peer t _ x y hx hget (by rw [← hxt, hyt, hvw.snapshotTerm])
  rwa [show (c.member peer).raft.snapshotIndex - 1 + 1 = (c.member peer).raft.snapshotIndex by
    omega] at heq

theorem Holds.accepted (h : Holds members c a) (hodd : Odd members.length)
    (hheld : Offers (a.lead req.term) req) (hm : (c.member peer).raft.prevMatches req = true)
    (hkeep : AppendKeeps (c.member peer).raft req) :
    (0 < (c.member peer).raft.snapshotIndex ∧
      (c.member peer).raft.pushEntries req.entries = (c.member peer).raft.log) ∨
    (req.prevLogIndex + req.entries.length ≤ (a.lead req.term).length ∧
      RaftNode.Views { (c.member peer).raft with
          log := (c.member peer).raft.pushEntries req.entries }
        (adopt (a.log peer) (a.lead req.term) (req.prevLogIndex + req.entries.length))) := by
  have hvw := (h.node peer).views
  have hmt := h.matching peer req.term
  have hcont := h.contiguous req.term
  rcases hheld with ⟨hlen, hent, hterm⟩ | ⟨hpos, hterm⟩
  · generalize hn : req.prevLogIndex + req.entries.length = n at hlen hent ⊢
    rcases Nat.eq_zero_or_pos req.prevLogIndex with h0 | hpos
    · -- a call that builds on nothing is read from the snapshot on
      rw [h0] at hent
      rcases Nat.lt_or_ge (c.member peer).raft.snapshotIndex n with hlt | hge
      · refine .inr ⟨hlen, hvw.pushEntries hcont hlt.le (Nat.zero_le n) hlen hmt
          (Nat.zero_le _) ?_ (congrArg _ hent) rfl rfl⟩
        rw [Nat.zero_max]
        exact h.take_snapshot_eq hent hlt hlen (hkeep h0)
      · rcases Nat.eq_zero_or_pos (c.member peer).raft.snapshotIndex with hs0 | hspos
        · refine .inr ⟨hlen, hvw.pushEntries hcont (by omega) (Nat.zero_le n) hlen hmt
            (Nat.zero_le _) ?_ (congrArg _ hent) rfl rfl⟩
          rw [hs0]
          rfl
        · refine Or.inl ⟨hspos, ?_⟩
          rw [hent]
          exact foldl_pushEntry_of_le fun _ he =>
            (hcont.index_le_of_mem_take (mem_of_mem_drop he)).trans hge
    · obtain ⟨hs, hle, heq⟩ := hvw.take_eq_of_prevMatches hm hpos (by omega) hterm hmt
      refine .inr ⟨hlen, hvw.pushEntries hcont (by omega) (by omega) hlen hmt hle ?_
        (congrArg _ hent) rfl rfl⟩
      rwa [max_eq_left hs]
  · -- no entry has the term of a call that starts past the end of its leader's log
    obtain ⟨-, e, he, het⟩ := hvw.exists_of_prevMatches hm hpos
    have := h.entry_term_pos hodd he
    omega

theorem Holds.appendCall (h : Holds members c a) (hodd : Odd members.length)
    (hheld : MessageHeld a (.appendRequest peer req))
    (hkeep : (c.member peer).raft.currentTerm ≤ req.term → AppendKeeps (c.member peer).raft req) :
    ∃ a', Holds members
      ((c.setRaft peer ((c.member peer).raft.handleAppendEntries req).1).send
        [.appendResponse peer req ((c.member peer).raft.handleAppendEntries req).2]) a' := by
  rcases (c.member peer).raft.handleAppendEntries_cases req with
    ⟨-, hn, -⟩ | ⟨-, -, hn, -⟩ | ⟨hle, hprev, last, -, hn, -, -⟩
  · rw [hn]
    exact ⟨a, h.calm peer .rfl .rfl (by simp [MessageRecorded]) (by simp [MessageHeld])⟩
  · rw [hn]
    exact ⟨_, h.hear peer req.term .rfl (sameLog_hearLeader _ _) (by simp [MessageRecorded])
      (by simp [MessageHeld])⟩
  · rw [hn]
    rcases h.accepted hodd hheld.2 hprev (hkeep hle) with ⟨-, hlog⟩ | ⟨-, hvw⟩
    · exact ⟨_, h.hear peer req.term ⟨rfl, rfl, rfl, rfl⟩ ⟨hlog, by simp, by simp⟩
        (by simp [MessageRecorded]) (by simp [MessageHeld])⟩
    · exact ⟨_, h.accept peer hle ⟨rfl, rfl, rfl, rfl⟩ (hvw.congr ⟨rfl, by simp, by simp⟩)
        (by simp [MessageRecorded]) (by simp [MessageHeld])⟩

theorem Holds.snapshotCall (h : Holds members c a) {req : RaftInstallSnapshotRequest}
    (hheld : MessageHeld a (.snapshotRequest peer req))
    (hkeep : (c.member peer).raft.currentTerm ≤ req.term →
      (c.member peer).raft.snapshotIndex < req.snapshotIndex →
      SnapshotKeeps (c.member peer).raft req) :
    ∃ a', Holds members
      ((c.setRaft peer ((c.member peer).raft.handleInstallSnapshot req).1).send
        [.snapshotResponse peer req ((c.member peer).raft.handleInstallSnapshot req).2]) a' := by
  obtain ⟨-, hlen, hterm⟩ := hheld
  rcases (c.member peer).raft.handleInstallSnapshot_cases req with
    ⟨-, hn, -⟩ | ⟨-, -, hn, -⟩ | ⟨hle, hlt, hn, -⟩
  · rw [hn]
    exact ⟨a, h.calm peer .rfl .rfl (by simp [MessageRecorded]) (by simp [MessageHeld])⟩
  · rw [hn]
    exact ⟨_, h.hear peer req.term .rfl (sameLog_hearLeader _ _) (by simp [MessageRecorded])
      (by simp [MessageHeld])⟩
  · rw [hn]
    have hsafe := hkeep hle hlt
    rw [SnapshotKeeps, hterm] at hsafe
    exact ⟨_, h.accept peer hle ⟨rfl, rfl, rfl, rfl⟩
      ((h.node peer).views.install (h.contiguous req.term) hlt hlen (h.matching peer req.term)
        hsafe rfl rfl hterm) (by simp [MessageRecorded]) (by simp [MessageHeld])⟩

theorem Holds.step (hnd : members.Nodup) (hodd : Odd members.length) {x : Action}
    (h : Holds members c a) (hs : c.step members x = some c') (hkeep : KeepsLogs c x) :
    ∃ a', Holds members c' a' := by
  cases effect_of_step hs with
  | quiet i m hq he _ =>
    refine ⟨a, ?_⟩
    rw [← send_nil (c.setMember i m)]
    exact h.keep (h.records.keep ((h.records.node i).quiet hq)
      (fun e hm => h.records.round (he ▸ hm)) (by simp)) ((h.node i).quiet hq) (by simp)
  | heartbeat i node rows hq hrole => exact ⟨a, h.heartbeat hq hrole rows⟩
  | stand i ticks _ =>
    refine ⟨a.stand i, ?_⟩
    rw [← send_nil (c.setRaft i _)]
    exact h.stand hodd i rfl (h.records.stand i rfl (fun e he => Or.inl he) (by simp)) (by simp)
  | campaign i node hi _ hn => exact ⟨a.stand i, h.campaign hnd hodd hi hn⟩
  | vote peer req hk =>
    rcases (c.member peer).raft.handleVoteRequest_cases req with
      ⟨hn, hg⟩ | ⟨hn, -, hterm, hfree, -⟩
    · refine ⟨a.observe peer req.term, ?_⟩
      rw [hn]
      exact h.refuse peer req.term (by simp [MessageRecorded, hg]) (by simp [MessageHeld])
    · refine ⟨a.cast peer req.candidateId req.term, ?_⟩
      rw [hn]
      exact h.grant peer _ hterm ((h.records.node peer).free h.records.votesPast hterm hfree)
        (h.message (mem_of_getElem? hk))
  | join i peer granted e he hwait hgra =>
    refine ⟨a, ?_⟩
    have hrec := h.records.join he hwait hgra
    rw [← send_nil (c.joinVote i peer granted e)] at hrec ⊢
    exact h.keep hrec (h.node i) (by simp)
  | lead i e he hq hrole hterm => exact ⟨_, (h.lead hnd hodd he hq hrole hterm).2.2.2⟩
  | abandon i =>
    refine ⟨a, ?_⟩
    rw [← send_nil (c.setMember i _)]
    exact h.keep (h.records.keep (h.records.node i) (by simp) (by simp)) (h.node i) (by simp)
  | append peer req hk =>
    exact h.appendCall hodd (h.message (mem_of_getElem? hk)) (hkeep _ hk)
  | appended => exact ⟨a, h.still _ ⟨rfl, rfl, rfl, rfl⟩ ⟨rfl, rfl, rfl⟩⟩
  | snapshot peer req hk =>
    exact h.snapshotCall (h.message (mem_of_getElem? hk)) (hkeep _ hk)
  | snapshotted => exact ⟨a, h.still _ ⟨rfl, rfl, rfl, rfl⟩ ⟨rfl, rfl, rfl⟩⟩
  | command i command hrole =>
    rw [appendCommand_eq]
    exact ⟨_, h.append command hrole ⟨rfl, rfl, rfl, rfl⟩ rfl rfl rfl⟩
  | pending i command hrole =>
    rw [appendCommandPending_eq]
    exact ⟨_, h.append command hrole ⟨rfl, rfl, rfl, rfl⟩ rfl rfl rfl⟩
  | compact i _ _ =>
    refine ⟨a, ?_⟩
    rw [← send_nil (c.setRaft _ _)]
    have hvw := (h.node i).views
    have hc : (c.member i).raft.lastApplied ≤ (a.log i).length := by
      rw [← hvw.length]
      exact hkeep
    have hb := (c.member i).raft.sameBallot_compactLog (c.member i).raft.lastApplied
    refine h.keep (h.records.calm i hb (by simp)) ?_ (by simp)
    exact ⟨hvw.compactLog hc, fun hl => (h.node i).leads (hb.role ▸ hl),
      fun hl => (h.node i).stands (hb.role ▸ hl)⟩

/-- **One entry of one term at one index**: the same entries before it. -/
def LogMatching (c : Cluster) : Prop :=
  ∀ i j k e e', (c.member i).raft.logEntryAt k = some e →
    (c.member j).raft.logEntryAt k = some e' → e.term = e'.term →
    ∀ m < k, (c.member i).raft.snapshotIndex < m → (c.member j).raft.snapshotIndex < m →
      ∃ x, (c.member i).raft.logEntryAt m = some x ∧ (c.member j).raft.logEntryAt m = some x

theorem Holds.logMatching (h : Holds members c a) : c.LogMatching := by
  intro i j k e e' hi hj ht m hmk hsi hsj
  have hvi := (h.node i).views
  have hvj := (h.node j).views
  rw [hvi.logEntryAt (hsi.trans hmk)] at hi
  rw [hvj.logEntryAt (hsj.trans hmk)] at hj
  have heq := (h.inv.traced_log i).take_eq (h.inv.traced_log j) hi hj ht
  have hlt := (List.getElem?_eq_some_iff.mp hi).1
  rw [hvi.logEntryAt hsi, hvj.logEntryAt hsj]
  have hget : (a.log i)[m - 1]? = some (a.log i)[m - 1] := List.getElem?_eq_getElem (by omega)
  refine ⟨_, hget, ?_⟩
  rw [← hget, ← List.getElem?_take_of_lt (show m - 1 < k - 1 + 1 by omega), ← heq,
    List.getElem?_take_of_lt (by omega)]

/-- **Logs match in every run whose steps keep logs.** -/
theorem logMatching_of_keepsLogs (hnd : members.Nodup) (hodd : Odd members.length)
    (h : ReachableIf members KeepsLogs c) : c.LogMatching := by
  obtain ⟨a, ha⟩ : ∃ a, Holds members c a := by
    refine h.invariant (P := fun c => ∃ a, Holds members c a) ⟨_, holds_init members⟩ ?_
    rintro c c' x ⟨a, ha⟩ hkeep hx
    exact ha.step hnd hodd hx hkeep
  exact ha.logMatching

def replicateOne : List Action :=
  ticks "node-1" 15 ++
  [.deliver 0, .deliver 2, .voteLost "node-1" "node-3", .finishElection "node-1",
    .appendCommandPending "node-1" "INSERT", heartbeat "node-1", .deliver 3]

theorem logMatching_replicateOne :
    ∃ c, ReachableIf threeNodes KeepsLogs c ∧
      (c.member "node-2").raft.log = [⟨1, 1, "INSERT"⟩] ∧ c.LogMatching := by
  obtain ⟨c, hc, hlog⟩ := Transition.exists_of_runIf (step threeNodes) KeepsLogs init
    replicateOne (fun c => (c.member "node-2").raft.log = [⟨1, 1, "INSERT"⟩]) (by decide)
  exact ⟨c, hc, hlog, logMatching_of_keepsLogs (by decide) (by decide) hc⟩

def fiveNodes : List String := ["node-1", "node-2", "node-3", "node-4", "node-5"]

def firstTerm : List Action :=
  ticks "node-4" 10 ++
  [.deliver 2, .deliver 3, .deliver 0, .deliver 4, .deliver 5, .voteLost "node-4" "node-1",
    .voteLost "node-4" "node-2", .finishElection "node-4",
    .appendCommandPending "node-4" "x", heartbeat "node-4", .deliver 10]

def secondTerm : List Action :=
  ticks "node-1" 15 ++
  [.deliver 12, .deliver 13, .deliver 14, .deliver 16, .deliver 17, .voteLost "node-1" "node-4",
    .voteLost "node-1" "node-5", .finishElection "node-1",
    .appendCommandPending "node-1" "b", .appendCommandPending "node-1" "c", heartbeat "node-1",
    .deliver 19, .appendCommandPending "node-1" "d"]

def thirdTerm : List Action :=
  ticks "node-4" 9 ++
  [.deliver 26, .deliver 27, .deliver 28, .deliver 29, .voteLost "node-4" "node-1",
    .voteLost "node-4" "node-2", .finishElection "node-4",
    heartbeat "node-4", .deliver 32, .deliver 33, .deliver 34, .deliver 35,
    heartbeat "node-4", .deliver 38, .deliver 40,
    .collectCommitted "node-4", .finishApply "node-4"] ++
  List.replicate 499 (.appendCommandPending "node-4" "y") ++
  [.compactIfNeeded "node-4", heartbeat "node-4", .deliver 41, .deliver 45,
    heartbeat "node-4", .deliver 46]

def fourthTerm : List Action :=
  ticks "node-1" 15 ++
  [.deliver 51, .deliver 54, .deliver 55, .deliver 56, .voteLost "node-1" "node-3",
    .voteLost "node-1" "node-4", .finishElection "node-1",
    heartbeat "node-1", .deliver 60, .deliver 61, heartbeat "node-1", .deliver 65, .deliver 66,
    heartbeat "node-1", .deliver 70]

/-- **A snapshot breaks log matching**: it leaves entries `c` and `d` behind. -/
theorem snapshot_keeps_stale_suffix :
    ∃ c, init.run fiveNodes (firstTerm ++ secondTerm ++ thirdTerm ++ fourthTerm) = some c ∧
      (c.member "node-2").raft.log = [⟨1, 2, "b"⟩, ⟨2, 2, "c"⟩] ∧
      (c.member "node-2").raft.snapshotIndex = 0 ∧
      (c.member "node-5").raft.log = [⟨1, 1, "x"⟩, ⟨2, 2, "c"⟩, ⟨3, 2, "d"⟩] ∧
      (c.member "node-5").raft.snapshotIndex = 0 ∧ ¬ c.LogMatching := by
  obtain ⟨c, hrun, h2, hs2, h5, hs5⟩ := Transition.exists_of_run (step fiveNodes) init
    (firstTerm ++ secondTerm ++ thirdTerm ++ fourthTerm)
    (fun c => (c.member "node-2").raft.log = [⟨1, 2, "b"⟩, ⟨2, 2, "c"⟩] ∧
      (c.member "node-2").raft.snapshotIndex = 0 ∧
      (c.member "node-5").raft.log = [⟨1, 1, "x"⟩, ⟨2, 2, "c"⟩, ⟨3, 2, "d"⟩] ∧
      (c.member "node-5").raft.snapshotIndex = 0) (by decide +kernel)
  refine ⟨c, hrun, h2, hs2, h5, hs5, fun hmt => ?_⟩
  obtain ⟨x, hx2, hx5⟩ := hmt "node-2" "node-5" 2 ⟨2, 2, "c"⟩ ⟨2, 2, "c"⟩
    (by simp [logEntryAt, h2, hs2]) (by simp [logEntryAt, h5, hs5]) rfl 1
    (by omega) (by omega) (by omega)
  simp [logEntryAt, h2, hs2] at hx2
  simp [logEntryAt, h5, hs5, ← hx2] at hx5

end VngDatabase.Raft.Cluster
