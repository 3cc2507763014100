import VngDatabase.Consensus.Voting
import VngDatabase.Raft.Cluster

/-!
# One leader per term

The elections of a cluster, read as ballots (`Consensus.Ballots`), which remember the vote of every
node in every term.
-/

namespace VngDatabase.Raft.Cluster

open Consensus List Relation

variable {members : List String} {c c' : Cluster} {b b' : Ballots String} {i j : String}
  {node : RaftNode} {ms : List Message} {e : Election} {m : Member} {node' : RaftNode}

/-! ### What the ballots know of a node, of a round and of a message -/

variable (members) in
structure NodeRecorded (b : Ballots String) (i : String) (node : RaftNode) : Prop where
  nodeId : node.nodeId = i
  term : node.currentTerm = b.term i
  voted : node.votedFor = b.vote i (b.term i)
  mem : node.role = .leader → i ∈ members
  won : node.role = .leader →
    b.Won members.toFinset ((members.length + 1) / 2) i (b.term i)

variable (members) in
/-- The round counts those known to have voted for `i`. -/
structure RoundRecorded (b : Ballots String) (i : String) (e : Election) : Prop where
  mem : i ∈ members
  waiting_subset : e.waiting ⊆ members
  nodup : e.waiting.Nodup
  counted : ∃ V : Finset String, V ⊆ members.toFinset ∧ (∀ p ∈ V, p ∉ e.waiting) ∧
    V.card = e.votesGranted ∧ ∀ p ∈ V, b.vote p e.term = some i

def MessageRecorded (b : Ballots String) : Message → Prop
  | .voteResponse peer req resp =>
    resp.voteGranted = true → b.vote peer req.term = some req.candidateId
  | _ => True

variable (members) in
structure Records (c : Cluster) (b : Ballots String) : Prop where
  votesPast : b.VotesPast
  node : ∀ i, NodeRecorded members b i (c.member i).raft
  round : ∀ {i e}, (c.member i).election = some e → RoundRecorded members b i e
  message : ∀ {m}, m ∈ c.net → MessageRecorded b m

variable (members) in
theorem records_init : Records members init Ballots.init where
  votesPast := Ballots.votesPast_init
  node i := ⟨rfl, rfl, rfl, fun h => by simp [init, RaftNode.new] at h,
    fun h => by simp [init, RaftNode.new] at h⟩
  round h := by simp [init] at h
  message h := by simp [init] at h

theorem NodeRecorded.mono (h : NodeRecorded members b i node)
    (hle : b.Le b') (hterm : b'.term i = b.term i) (hvote : b'.vote i = b.vote i) :
    NodeRecorded members b' i node where
  nodeId := h.nodeId
  term := h.term.trans hterm.symm
  voted := by rw [hvote, hterm, h.voted]
  mem := h.mem
  won hl := by
    rw [hterm]
    exact (h.won hl).mono hle

theorem RoundRecorded.mono (h : RoundRecorded members b i e) (hle : b.Le b') :
    RoundRecorded members b' i e where
  mem := h.mem
  waiting_subset := h.waiting_subset
  nodup := h.nodup
  counted := by
    obtain ⟨V, hsub, hwait, hcard, hvote⟩ := h.counted
    exact ⟨V, hsub, hwait, hcard, fun p hp => hle.vote (hvote p hp)⟩

theorem MessageRecorded.mono {m : Message} (h : MessageRecorded b m) (hle : b.Le b') :
    MessageRecorded b' m := by
  cases m with
  | voteResponse peer req resp => exact fun hg => hle.vote (h hg)
  | _ => trivial

def OnlyMoves (b b' : Ballots String) (i : String) : Prop :=
  ∀ j ≠ i, b'.term j = b.term j ∧ b'.vote j = b.vote j

theorem onlyMoves_observe (b : Ballots String) (i : String) (t : ℕ) :
    OnlyMoves b (b.observe i t) i :=
  fun _ hj => ⟨b.observe_term_of_ne t hj, rfl⟩

theorem onlyMoves_cast (b : Ballots String) (i d : String) (t : ℕ) : OnlyMoves b (b.cast i d t) i :=
  fun _ hj => ⟨b.cast_term_of_ne d t hj, funext fun _ => b.cast_vote_of_ne d (Or.inl hj)⟩

theorem Records.update (h : Records members c b) (hle : b.Le b') (hpast : b'.VotesPast)
    (hoth : OnlyMoves b b' i) (hnode : NodeRecorded members b' i m.raft)
    (hrou : ∀ e, m.election = some e → RoundRecorded members b' i e)
    (hms : ∀ x ∈ ms, MessageRecorded b' x) :
    Records members ((c.setMember i m).send ms) b' where
  votesPast := hpast
  node j := by
    rcases eq_or_ne j i with rfl | hj
    · simpa using hnode
    · rw [send_member, setMember_of_ne c m hj]
      exact (h.node j).mono hle (hoth j hj).1 (hoth j hj).2
  round {j e} he := by
    rcases eq_or_ne j i with rfl | hj
    · exact hrou e (by simpa using he)
    · rw [send_member, setMember_of_ne c m hj] at he
      exact (h.round he).mono hle
  message {x} hx := by
    rcases mem_append.mp hx with hx | hx
    · exact (h.message hx).mono hle
    · exact hms x hx

theorem Records.updateRaft (h : Records members c b) (hle : b.Le b') (hpast : b'.VotesPast)
    (hoth : OnlyMoves b b' i) (hnode : NodeRecorded members b' i node)
    (hms : ∀ x ∈ ms, MessageRecorded b' x) : Records members ((c.setRaft i node).send ms) b' :=
  h.update hle hpast hoth hnode (fun _ he => (h.round he).mono hle) hms

theorem Records.keep (h : Records members c b) (hnode : NodeRecorded members b i m.raft)
    (hrou : ∀ e, m.election = some e → RoundRecorded members b i e)
    (hms : ∀ x ∈ ms, MessageRecorded b x) : Records members ((c.setMember i m).send ms) b :=
  h.update (Ballots.Le.refl b) h.votesPast (fun _ _ => ⟨rfl, rfl⟩) hnode hrou hms

theorem NodeRecorded.congr (h : NodeRecorded members b i node)
    (hb : node.SameBallot node') : NodeRecorded members b i node' where
  nodeId := hb.nodeId.trans h.nodeId
  term := hb.currentTerm.trans h.term
  voted := hb.votedFor.trans h.voted
  mem hl := h.mem (hb.role.symm.trans hl)
  won hl := h.won (hb.role.symm.trans hl)

theorem NodeRecorded.quiet (h : NodeRecorded members b i node)
    (hq : Quiet node node') : NodeRecorded members b i node' := by
  obtain ⟨_, _, _, rfl⟩ := hq
  exact h.congr ⟨rfl, rfl, rfl, rfl⟩

theorem NodeRecorded.becomeCandidate (h : NodeRecorded members b i node)
    (ticks : ℕ) : NodeRecorded members (b.cast i i (b.term i + 1)) i
      { node.becomeCandidate with ticksSinceHeartbeat := ticks } where
  nodeId := h.nodeId
  term := by
    rw [Ballots.cast_term_self]
    exact congrArg (· + 1) h.term
  voted := by
    rw [Ballots.cast_term_self, Ballots.cast_vote_self]
    exact congrArg some h.nodeId
  mem hl := by simp [RaftNode.becomeCandidate] at hl
  won hl := by simp [RaftNode.becomeCandidate] at hl

theorem NodeRecorded.hearLeader (h : NodeRecorded members b i node) (hpast : b.VotesPast) (t : ℕ) :
    NodeRecorded members (b.observe i t) i (node.hearLeader t) where
  nodeId := by simpa using h.nodeId
  term := by simp [h.term]
  voted := by
    rw [RaftNode.hearLeader_votedFor, Ballots.observe_term_self, Ballots.observe_vote, h.term]
    split_ifs with hlt
    · rw [max_eq_right hlt.le, hpast i t hlt]
    · rw [max_eq_left (not_lt.mp hlt), h.voted]
  mem hl := by simp at hl
  won hl := by simp at hl

theorem NodeRecorded.observe_term (h : NodeRecorded members b i node) {t : ℕ}
    (hlt : ¬ node.currentTerm < t) : (b.observe i t).term i = b.term i := by
  rw [Ballots.observe_term_self, max_eq_left (h.term ▸ not_lt.mp hlt)]

theorem NodeRecorded.cast_term (h : NodeRecorded members b i node) {t : ℕ} (d : String)
    (hle : node.currentTerm ≤ t) (hlt : ¬ node.currentTerm < t) :
    (b.cast i d t).term i = b.term i := by
  rw [Ballots.cast_term_self, ← h.term]
  omega

theorem NodeRecorded.observeTerm (h : NodeRecorded members b i node) (hpast : b.VotesPast) (t : ℕ) :
    NodeRecorded members (b.observe i t) i (node.observeTerm t) := by
  unfold RaftNode.observeTerm
  split_ifs with hlt
  · exact (h.hearLeader hpast t).congr ⟨by simp, by simp,
      by rw [RaftNode.becomeFollower_votedFor, RaftNode.hearLeader_votedFor], rfl⟩
  · exact h.mono (Ballots.Step.observe i t).le (h.observe_term hlt) rfl

theorem NodeRecorded.free (h : NodeRecorded members b i node)
    (hpast : b.VotesPast) {d : String} {t : ℕ} (hle : node.currentTerm ≤ t)
    (hfree : (node.observeTerm t).votedFor = none ∨ (node.observeTerm t).votedFor = some d) :
    b.vote i t = none ∨ b.vote i t = some d := by
  rcases hle.lt_or_eq with hlt | heq
  · exact Or.inl (hpast i t (h.term ▸ hlt))
  · rw [RaftNode.observeTerm, if_neg (by omega), h.voted, ← h.term, heq] at hfree
    exact hfree

theorem NodeRecorded.grant (h : NodeRecorded members b i node) {d : String} {t : ℕ}
    (hle : node.currentTerm ≤ t) (hfree : b.vote i t = none ∨ b.vote i t = some d) :
    NodeRecorded members (b.cast i d t) i { node.observeTerm t with votedFor := some d } := by
  have hterm : (node.observeTerm t).currentTerm = t := by
    unfold RaftNode.observeTerm
    split_ifs with hlt
    · simp [hlt.le]
    · omega
  -- a node that still leads has not changed term, and keeps its quorum
  have hkept : (node.observeTerm t).role = .leader →
      node.role = .leader ∧ ¬ node.currentTerm < t := by
    unfold RaftNode.observeTerm
    split_ifs with hlt
    · simp
    · exact fun hl => ⟨hl, hlt⟩
  refine ⟨?_, ?_, ?_, fun hl => h.mem (hkept hl).1, fun hl => ?_⟩
  · unfold RaftNode.observeTerm
    split_ifs <;> simp [h.nodeId]
  · simpa using hterm
  · simp
  · obtain ⟨hl, hnot⟩ := hkept hl
    rw [h.cast_term d hle hnot]
    exact (h.won hl).mono (Ballots.Step.cast i d t (h.term ▸ hle) hfree).le

/-! ### The step -/

theorem peers_subset (members : List String) (i : String) : peers members i ⊆ members :=
  fun _ h => (mem_filter.mp h).1

theorem not_mem_peers (members : List String) (i : String) : i ∉ peers members i := by
  simp [peers]

theorem RoundRecorded.join (h : RoundRecorded members b i e) {peer : String}
    (hwait : peer ∈ e.waiting) {granted : Bool}
    (hgra : granted = true → b.vote peer e.term = some i) :
    RoundRecorded members b i
      { e with
        votesGranted := if granted then e.votesGranted + 1 else e.votesGranted
        waiting := e.waiting.erase peer } where
  mem := h.mem
  waiting_subset := fun _ hp => h.waiting_subset (mem_of_mem_erase hp)
  nodup := h.nodup.erase peer
  counted := by
    obtain ⟨V, hsub, hV, hcard, hvote⟩ := h.counted
    cases granted with
    | false => exact ⟨V, hsub, fun p hp hmem => hV p hp (mem_of_mem_erase hmem), hcard, hvote⟩
    | true =>
      refine ⟨insert peer V, ?_, ?_, ?_, ?_⟩
      · exact Finset.insert_subset (by simpa using h.waiting_subset hwait) hsub
      · intro p hp hmem
        rcases Finset.mem_insert.mp hp with rfl | hp
        · exact absurd hmem h.nodup.not_mem_erase
        · exact hV p hp (mem_of_mem_erase hmem)
      · have hnot : peer ∉ V := fun hp => hV peer hp hwait
        simp [Finset.card_insert_of_notMem hnot, hcard]
      · intro p hp
        rcases Finset.mem_insert.mp hp with rfl | hp
        · exact hgra rfl
        · exact hvote p hp

theorem Records.stand (h : Records members c b) (i : String) {ticks : ℕ}
    (hm : m.raft = { (c.member i).raft.becomeCandidate with ticksSinceHeartbeat := ticks })
    (hrou : ∀ e, m.election = some e → (c.member i).election = some e ∨
      RoundRecorded members (b.cast i i (b.term i + 1)) i e)
    (hms : ∀ x ∈ ms, MessageRecorded (b.cast i i (b.term i + 1)) x) :
    Records members ((c.setMember i m).send ms) (b.cast i i (b.term i + 1)) := by
  have hs : Ballots.Step b (b.cast i i (b.term i + 1)) :=
    .cast i i _ (Nat.le_succ _) (Or.inl (h.votesPast i _ (Nat.lt_succ_self _)))
  refine h.update hs.le (hs.votesPast h.votesPast) (onlyMoves_cast b i i _) ?_ ?_ hms
  · rw [hm]
    exact (h.node i).becomeCandidate ticks
  · intro e he
    rcases hrou e he with he | hr
    · exact (h.round he).mono hs.le
    · exact hr

theorem Records.refuse (h : Records members c b) (peer : String) (t : ℕ)
    (hms : ∀ x ∈ ms, MessageRecorded b x) :
    Records members ((c.setRaft peer ((c.member peer).raft.observeTerm t)).send ms)
      (b.observe peer t) := by
  have hs : Ballots.Step b (b.observe peer t) := .observe peer t
  exact h.updateRaft hs.le (hs.votesPast h.votesPast) (onlyMoves_observe b peer t)
    ((h.node peer).observeTerm h.votesPast t) fun x hx => (hms x hx).mono hs.le

theorem Records.grant (h : Records members c b) (peer : String) {req : RaftVoteRequest}
    (resp : RaftVoteResponse) (hle : (c.member peer).raft.currentTerm ≤ req.term)
    (hfree : b.vote peer req.term = none ∨ b.vote peer req.term = some req.candidateId) :
    Records members
      ((c.setRaft peer { (c.member peer).raft.observeTerm req.term with
        votedFor := some req.candidateId }).send [.voteResponse peer req resp])
      (b.cast peer req.candidateId req.term) := by
  have hs : Ballots.Step b (b.cast peer req.candidateId req.term) :=
    .cast peer _ _ ((h.node peer).term ▸ hle) hfree
  refine h.updateRaft hs.le (hs.votesPast h.votesPast) (onlyMoves_cast b peer _ _)
    ((h.node peer).grant hle hfree) fun x hx => ?_
  obtain rfl := mem_singleton.mp hx
  exact fun _ => Ballots.cast_vote_self ..

theorem Records.hear (h : Records members c b) (peer : String) (t : ℕ)
    (hb : ((c.member peer).raft.hearLeader t).SameBallot node)
    (hms : ∀ x ∈ ms, MessageRecorded b x) :
    Records members ((c.setRaft peer node).send ms) (b.observe peer t) := by
  have hs : Ballots.Step b (b.observe peer t) := .observe peer t
  exact h.updateRaft hs.le (hs.votesPast h.votesPast) (onlyMoves_observe b peer t)
    (((h.node peer).hearLeader h.votesPast t).congr hb) fun x hx => (hms x hx).mono hs.le

theorem Records.calm (h : Records members c b) (i : String)
    (hb : (c.member i).raft.SameBallot node) (hms : ∀ x ∈ ms, MessageRecorded b x) :
    Records members ((c.setRaft i node).send ms) b :=
  h.keep ((h.node i).congr hb) (fun _ he => h.round he) hms

theorem Records.still (h : Records members c b) (i : String)
    (hb : (c.member i).raft.SameBallot node) : Records members (c.setRaft i node) b := by
  rw [← send_nil (c.setRaft i node)]
  exact h.calm i hb (by simp)

theorem Records.lead (h : Records members c b)
    (he : (c.member i).election = some e) (hq : (members.length + 1) / 2 ≤ e.votesGranted)
    (hterm : (c.member i).raft.currentTerm = e.term) :
    Records members (c.setMember i { c.member i with
      raft := (c.member i).raft.becomeLeader.initLeaderIndices (peers members i)
      election := none }) b := by
  have hnode := h.node i
  obtain ⟨V, hsub, -, hcard, hvote⟩ := (h.round he).counted
  have hwon : b.Won members.toFinset ((members.length + 1) / 2) i (b.term i) :=
    ⟨V, ⟨hsub, hcard ▸ hq⟩, fun p hp => by rw [← hnode.term, hterm]; exact hvote p hp⟩
  obtain ⟨next, mtch, hinit⟩ :=
    (c.member i).raft.becomeLeader.initLeaderIndices_frame (peers members i)
  rw [← send_nil (c.setMember i _)]
  refine h.keep ?_ (by simp) (by simp)
  rw [hinit]
  exact ⟨hnode.nodeId, hnode.term, hnode.voted, fun _ => (h.round he).mem, fun _ => hwon⟩

theorem Records.campaign (h : Records members c b) (hnd : members.Nodup) (hi : i ∈ members)
    (hn : node = { (c.member i).raft.becomeCandidate with ticksSinceHeartbeat := 0 }) :
    Records members
      ((c.setMember i { c.member i with
        raft := node
        election := some ⟨node.currentTerm, 1, peers members i⟩ }).send
          ((peers members i).map fun peer => .voteRequest peer node.voteRequestOf))
      (b.cast i i (b.term i + 1)) := by
  refine h.stand i hn (fun e he => Or.inr ?_) fun x hx => ?_
  · obtain rfl := Option.some.inj he
    have hterm : node.currentTerm = b.term i + 1 := by
      rw [hn, ← (h.node i).term]
      rfl
    rw [hterm]
    refine ⟨hi, peers_subset members i, hnd.filter _, {i}, by simpa using hi, ?_, by simp, ?_⟩
    · simpa using not_mem_peers members i
    · simpa using Ballots.cast_vote_self ..
  · obtain ⟨p, -, rfl⟩ := mem_map.mp hx
    trivial

theorem Records.heartbeat (h : Records members c b)
    (hq : Quiet (c.member i).raft node) (rows : Finmap fun _ : String => RowData) :
    Records members ((c.setRaft i node).send ((peers members i).map (node.heartbeatTo rows)))
      b := by
  refine h.keep ((h.node i).quiet hq) (fun _ he => h.round he) ?_
  intro x hx
  obtain ⟨p, -, rfl⟩ := mem_map.mp hx
  simp only [RaftNode.heartbeatTo]
  split_ifs <;> trivial

theorem Records.join (h : Records members c b) {peer : String} {granted : Bool}
    (he : (c.member i).election = some e) (hwait : peer ∈ e.waiting)
    (hgra : granted = true → ∃ req resp, .voteResponse peer req resp ∈ c.net ∧
      resp.voteGranted = true ∧ req.candidateId = i ∧ req.term = e.term) :
    Records members (c.joinVote i peer granted e) b := by
  rw [← send_nil (c.joinVote i peer granted e)]
  refine h.keep (h.node i) (fun e' he' => ?_) (by simp)
  obtain rfl := Option.some.inj he'
  refine (h.round he).join hwait ?_
  intro hg
  obtain ⟨req, resp, hmem, hresp, rfl, ht⟩ := hgra hg
  exact ht ▸ h.message hmem hresp

theorem Records.step (hnd : members.Nodup) {a : Action} (h : Records members c b)
    (hs : c.step members a = some c') : ∃ b', b.Le b' ∧ Records members c' b' := by
  have hle := Ballots.Le.refl b
  cases effect_of_step hs with
  | quiet i m hq he _ =>
    refine ⟨b, hle, ?_⟩
    rw [← send_nil (c.setMember i m)]
    exact h.keep ((h.node i).quiet hq) (fun e hm => h.round (he ▸ hm)) (by simp)
  | heartbeat i node rows hq _ => exact ⟨b, hle, h.heartbeat hq rows⟩
  | stand i ticks _ =>
    refine ⟨_, (Ballots.Step.cast i i _ (Nat.le_succ _)
      (Or.inl (h.votesPast i _ (Nat.lt_succ_self _)))).le, ?_⟩
    rw [← send_nil (c.setRaft i _)]
    exact h.stand i rfl (fun e he => Or.inl he) (by simp)
  | campaign i node hi _ hn =>
    exact ⟨_, (Ballots.Step.cast i i _ (Nat.le_succ _)
      (Or.inl (h.votesPast i _ (Nat.lt_succ_self _)))).le, h.campaign hnd hi hn⟩
  | vote peer req _ =>
    rcases (c.member peer).raft.handleVoteRequest_cases req with
      ⟨hn, hg⟩ | ⟨hn, -, hterm, hfree, -⟩
    · refine ⟨_, (Ballots.Step.observe peer req.term).le, ?_⟩
      rw [hn]
      refine h.refuse peer req.term ?_
      intro x hx
      obtain rfl := mem_singleton.mp hx
      intro hg'
      simp [hg] at hg'
    · have hfree := (h.node peer).free h.votesPast hterm hfree
      refine ⟨_, (Ballots.Step.cast peer _ _ ((h.node peer).term ▸ hterm) hfree).le, ?_⟩
      rw [hn]
      exact h.grant peer _ hterm hfree
  | join i peer granted e he hwait hgra => exact ⟨b, hle, h.join he hwait hgra⟩
  | lead i e he hq _ hterm => exact ⟨b, hle, h.lead he hq hterm⟩
  | abandon i =>
    refine ⟨b, hle, ?_⟩
    rw [← send_nil (c.setMember i _)]
    exact h.keep (h.node i) (by simp) (by simp)
  | append peer req _ =>
    rcases (c.member peer).raft.handleAppendEntries_cases req with
      ⟨-, hn, -⟩ | ⟨-, -, hn, -⟩ | ⟨-, -, last, -, hn, -, -⟩ <;> rw [hn]
    · exact ⟨b, hle, h.calm peer ⟨rfl, rfl, rfl, rfl⟩ (by simp [MessageRecorded])⟩
    all_goals exact ⟨_, (Ballots.Step.observe peer req.term).le,
      h.hear peer req.term ⟨rfl, rfl, rfl, rfl⟩ (by simp [MessageRecorded])⟩
  | appended peer req resp _ _ _ _ => exact ⟨b, hle, h.still _ ⟨rfl, rfl, rfl, rfl⟩⟩
  | snapshot peer req _ =>
    rcases (c.member peer).raft.handleInstallSnapshot_cases req with
      ⟨-, hn, -⟩ | ⟨-, -, hn, -⟩ | ⟨-, -, hn, -⟩ <;> rw [hn]
    · exact ⟨b, hle, h.calm peer ⟨rfl, rfl, rfl, rfl⟩ (by simp [MessageRecorded])⟩
    all_goals exact ⟨_, (Ballots.Step.observe peer req.term).le,
      h.hear peer req.term ⟨rfl, rfl, rfl, rfl⟩ (by simp [MessageRecorded])⟩
  | snapshotted peer req resp _ _ _ _ => exact ⟨b, hle, h.still _ ⟨rfl, rfl, rfl, rfl⟩⟩
  | command i command _ =>
    rw [RaftNode.appendCommand_eq]
    exact ⟨b, hle, h.still i ⟨rfl, rfl, rfl, rfl⟩⟩
  | pending i command _ =>
    rw [RaftNode.appendCommandPending_eq]
    exact ⟨b, hle, h.still i ⟨rfl, rfl, rfl, rfl⟩⟩
  | compact i _ _ => exact ⟨b, hle, h.still i (RaftNode.sameBallot_compactLog _ _)⟩

/-! ### Election safety -/

def Leads (c : Cluster) (i : String) (t : ℕ) : Prop :=
  (c.member i).raft.role = .leader ∧ (c.member i).raft.currentTerm = t

instance (c : Cluster) (i : String) (t : ℕ) : Decidable (c.Leads i t) :=
  inferInstanceAs (Decidable (_ ∧ _))

variable (members) in
/-- **Election safety**: no two nodes ever lead one term. -/
def ElectionSafe : Prop :=
  ∀ c c', Reachable members c → ReflTransGen (Step members) c c' →
    ∀ i j t, c.Leads i t → c'.Leads j t → i = j

theorem Records.steps (hnd : members.Nodup) (h : Records members c b)
    (hs : ReflTransGen (Step members) c c') : ∃ b', b.Le b' ∧ Records members c' b' := by
  induction hs with
  | refl => exact ⟨b, Ballots.Le.refl b, h⟩
  | tail _ hstep ih =>
    obtain ⟨b₁, hle₁, h₁⟩ := ih
    obtain ⟨a, ha⟩ := hstep
    obtain ⟨b₂, hle₂, h₂⟩ := h₁.step hnd ha
    exact ⟨b₂, hle₁.trans hle₂, h₂⟩

theorem Records.won (h : Records members c b) {t : ℕ} (hl : c.Leads i t) :
    b.Won members.toFinset ((members.length + 1) / 2) i t := by
  have := (h.node i).won hl.1
  rwa [← (h.node i).term, hl.2] at this

theorem card_lt_two_mul_quorum (hnd : members.Nodup) (hodd : Odd members.length) :
    members.toFinset.card < 2 * ((members.length + 1) / 2) := by
  rw [toFinset_card_of_nodup hnd]
  obtain ⟨m, hm⟩ := hodd
  omega

theorem electionSafe_of_odd (hnd : members.Nodup) (hodd : Odd members.length) :
    ElectionSafe members := by
  intro c c' hc hcc' i j t hi hj
  obtain ⟨b, -, hb⟩ := (records_init members).steps hnd hc
  obtain ⟨b', hle, hb'⟩ := hb.steps hnd hcc'
  exact Ballots.won_unique (card_lt_two_mul_quorum hnd hodd) ((hb.won hi).mono hle) (hb'.won hj)

/-! ### Two leaders in an even cluster

A node that nobody has talked to can be made the leader of term `1` by the votes of any nodes nobody
has talked to, without a trace on the rest of the cluster. In an even cluster half of the nodes are
a quorum, so this can be done twice. -/

section

variable {k : ℕ} {waiting : List String}

def Fresh (c : Cluster) (i : String) : Prop := c.member i = init.member i

def idler (i : String) (k : ℕ) : RaftNode := { RaftNode.new i with ticksSinceHeartbeat := k }

def campaigner (i : String) : RaftNode :=
  { (RaftNode.new i).becomeCandidate with ticksSinceHeartbeat := 0 }

def voter (v i : String) : RaftNode :=
  { RaftNode.new v with currentTerm := 1, votedFor := some i }

theorem idler_tick (h : k + 1 < electionTimeoutFor i) : (idler i k).tick = idler i (k + 1) := by
  unfold RaftNode.tick
  exact if_neg fun hc => absurd hc.2 (not_le.mpr h)

theorem idler_tick_timeout (h : electionTimeoutFor i = k + 1) :
    (idler i k).tick = campaigner i := by
  unfold RaftNode.tick
  exact if_pos ⟨rfl, h.le⟩

def Campaigns (c : Cluster) (i : String) (k : ℕ) (waiting : List String) : Prop :=
  c.member i = ⟨campaigner i, some ⟨1, k, waiting⟩, []⟩

theorem steps_idle (hi : i ∈ members) (hf : c.Fresh i) (hk : k < electionTimeoutFor i) :
    ReflTransGen (Step members) c (c.setMember i ⟨idler i k, none, []⟩) := by
  induction k with
  | zero =>
    rw [show (⟨idler i 0, none, []⟩ : Member) = init.member i from rfl, ← hf, setMember_eq_self]
  | succ k ih =>
    refine (ih (by omega)).tail ⟨.tick i false ∅, ?_⟩
    have hrole : (idler i (k + 1)).role = .follower := rfl
    simp [step, hi, tick, setRaft, idler_tick hk, hrole]

theorem steps_campaign (hi : i ∈ members) (hf : c.Fresh i) :
    ∃ c', ReflTransGen (Step members) c c' ∧ c'.Campaigns i 1 (peers members i) ∧
      (∀ j ≠ i, c'.member j = c.member j) ∧
      ∀ p ∈ peers members i, .voteRequest p ⟨1, i, 0, 0⟩ ∈ c'.net := by
  obtain ⟨k, hk⟩ : ∃ k, electionTimeoutFor i = k + 1 :=
    Nat.exists_eq_succ_of_ne_zero (by simp [electionTimeoutFor])
  have hrole : (idler i k).role = .follower := rfl
  have hrole' : (campaigner i).role = .candidate := rfl
  have hstep : (c.setMember i ⟨idler i k, none, []⟩).step members (.tick i false ∅) =
      some ((c.setMember i ⟨campaigner i, some ⟨1, 1, peers members i⟩, []⟩).send
        ((peers members i).map fun p => .voteRequest p ⟨1, i, 0, 0⟩)) := by
    simp only [step, hi, tick, setMember_self, idler_tick_timeout hk, hrole, hrole']
    simp
    rfl
  refine ⟨_, (steps_idle hi hf (k := k) (by omega)).tail ⟨_, hstep⟩, ?_, fun j hj => ?_, ?_⟩
  · simp [Campaigns]
  · simp [setMember_of_ne c _ hj]
  · intro p hp
    simpa using Or.inr hp

theorem steps_vote {v : String} (hc : c.Campaigns i k waiting) (hv : v ∈ waiting) (hvi : v ≠ i)
    (hf : c.Fresh v) (hreq : .voteRequest v ⟨1, i, 0, 0⟩ ∈ c.net) :
    ∃ c', ReflTransGen (Step members) c c' ∧
      c'.Campaigns i (k + 1) (waiting.erase v) ∧
      (∀ j, j ≠ i → j ≠ v → c'.member j = c.member j) ∧ c.net ⊆ c'.net := by
  obtain ⟨n, hn⟩ := mem_iff_getElem?.mp hreq
  -- the peer answers
  obtain ⟨c₁, hc₁⟩ : ∃ c₁, c₁ = (c.setMember v ⟨voter v i, none, []⟩).send
      [.voteResponse v ⟨1, i, 0, 0⟩ ⟨1, true⟩] := ⟨_, rfl⟩
  have h₁ : c.step members (.deliver n) = some c₁ := by
    simp only [step, hn, hc₁, Option.bind_some, deliver, setRaft]
    rw [show c.member v = init.member v from hf]
    rfl
  have hi₁ : c₁.Campaigns i k waiting := by
    rw [hc₁, Campaigns, send_member, setMember_of_ne c _ hvi.symm]
    exact hc
  -- the campaign reads the answer
  have hnet : c₁.net[c.net.length]? = some (.voteResponse v ⟨1, i, 0, 0⟩ ⟨1, true⟩) := by
    simp [hc₁]
  have h₂ : c₁.step members (.deliver c.net.length) =
      some (c₁.joinVote i v true ⟨1, k, waiting⟩) := by
    rw [step, hnet, Option.bind_some, deliver, show c₁.member i = _ from hi₁]
    exact if_pos ⟨rfl, hv⟩
  refine ⟨_, (ReflTransGen.single ⟨_, h₁⟩).tail ⟨_, h₂⟩, ?_, fun j hji hjv => ?_, ?_⟩
  · rw [Campaigns, joinVote, setMember_self, show c₁.member i = _ from hi₁]
    rfl
  · rw [joinVote, setMember_of_ne _ _ hji, hc₁]
    exact setMember_of_ne c _ hjv
  · intro m hm
    rw [hc₁]
    exact mem_append_left _ hm

variable (members) in
theorem steps_votes {votes : List String} (hc : c.Campaigns i k waiting) (hnd : votes.Nodup)
    (hsub : votes ⊆ waiting) (hi : i ∉ votes) (hf : ∀ v ∈ votes, c.Fresh v)
    (hreq : ∀ v ∈ votes, .voteRequest v ⟨1, i, 0, 0⟩ ∈ c.net) :
    ∃ c' waiting', ReflTransGen (Step members) c c' ∧
      c'.Campaigns i (k + votes.length) waiting' ∧
      ∀ j, j ≠ i → j ∉ votes → c'.member j = c.member j := by
  induction votes generalizing c k waiting with
  | nil => exact ⟨c, waiting, .refl, hc, fun _ _ _ => rfl⟩
  | cons v votes ih =>
    simp only [mem_cons, not_or, forall_eq_or_imp, nodup_cons] at hi hf hreq hnd
    obtain ⟨c₁, hs₁, hc₁, hoth₁, hnet₁⟩ :=
      steps_vote hc (hsub mem_cons_self) (Ne.symm hi.1) hf.1 hreq.1
    have hne : ∀ w ∈ votes, w ≠ v := fun w hw hwv => hnd.1 (hwv ▸ hw)
    have hne' : ∀ w ∈ votes, w ≠ i := fun w hw hwi => hi.2 (hwi ▸ hw)
    obtain ⟨c₂, waiting', hs₂, hc₂, hoth₂⟩ := ih hc₁ hnd.2
      (fun w hw => (mem_erase_of_ne (hne w hw)).mpr (hsub (mem_cons_of_mem v hw))) hi.2
      (fun w hw => (hoth₁ w (hne' w hw) (hne w hw)).trans (hf.2 w hw))
      (fun w hw => hnet₁ (hreq.2 w hw))
    refine ⟨c₂, waiting', hs₁.trans hs₂, ?_, fun j hji hjv => ?_⟩
    · rw [length_cons, show k + (votes.length + 1) = k + 1 + votes.length by omega]
      exact hc₂
    · simp only [mem_cons, not_or] at hjv
      exact (hoth₂ j hji hjv.2).trans (hoth₁ j hji hjv.1)

variable (members) in
theorem steps_giveUp (hc : c.Campaigns i k waiting) :
    ∃ c', ReflTransGen (Step members) c c' ∧ c'.Campaigns i k [] ∧
      ∀ j ≠ i, c'.member j = c.member j := by
  induction waiting generalizing c with
  | nil => exact ⟨c, .refl, hc, fun _ _ => rfl⟩
  | cons v waiting ih =>
    have h₁ : c.step members (.voteLost i v) =
        some (c.joinVote i v false ⟨1, k, v :: waiting⟩) := by
      rw [step, show c.member i = _ from hc]
      exact if_pos mem_cons_self
    have hc₁ : (c.joinVote i v false ⟨1, k, v :: waiting⟩).Campaigns i k waiting := by
      rw [Campaigns, joinVote, setMember_self, show c.member i = _ from hc]
      simp
    obtain ⟨c₂, hs₂, hc₂, hoth₂⟩ := ih hc₁
    refine ⟨c₂, ReflTransGen.head ⟨_, h₁⟩ hs₂, hc₂, fun j hj => ?_⟩
    rw [hoth₂ j hj, joinVote, setMember_of_ne _ _ hj]

variable (members) in
theorem steps_elect (votes : List String) (hi : i ∈ members) (hnd : votes.Nodup)
    (hsub : votes ⊆ members) (hiv : i ∉ votes) (hfi : c.Fresh i) (hf : ∀ v ∈ votes, c.Fresh v)
    (hq : (members.length + 1) / 2 ≤ 1 + votes.length) :
    ∃ c', ReflTransGen (Step members) c c' ∧ c'.Leads i 1 ∧
      ∀ j, j ≠ i → j ∉ votes → c'.member j = c.member j := by
  have hne : ∀ v ∈ votes, v ≠ i := fun v hv hvi => hiv (hvi ▸ hv)
  have hpee : votes ⊆ peers members i := fun v hv => by
    simpa [peers] using ⟨hsub hv, hne v hv⟩
  obtain ⟨c₁, hs₁, hc₁, hoth₁, hreq₁⟩ := steps_campaign hi hfi
  obtain ⟨c₂, waiting, hs₂, hc₂, hoth₂⟩ := steps_votes members hc₁ hnd hpee hiv
    (fun v hv => (hoth₁ v (hne v hv)).trans (hf v hv)) (fun v hv => hreq₁ v (hpee hv))
  obtain ⟨c₃, hs₃, hc₃, hoth₃⟩ := steps_giveUp members hc₂
  have h₄ : c₃.step members (.finishElection i) = some (c₃.setMember i
      ⟨(campaigner i).becomeLeader.initLeaderIndices (peers members i), none, []⟩) := by
    rw [step, show c₃.member i = _ from hc₃]
    dsimp only
    rw [if_pos rfl, countVotes, show c₃.member i = _ from hc₃]
    exact congrArg some (if_pos ⟨hq, rfl, rfl⟩)
  refine ⟨_, ((hs₁.trans hs₂).trans hs₃).tail ⟨_, h₄⟩, ?_, fun j hji hjv => ?_⟩
  · obtain ⟨next, mtch, hinit⟩ := (campaigner i).becomeLeader.initLeaderIndices_frame
      (peers members i)
    rw [Leads, setMember_self, hinit]
    exact ⟨rfl, rfl⟩
  · rw [setMember_of_ne _ _ hji, hoth₃ j hji, hoth₂ j hji hjv, hoth₁ j hji]

theorem exists_two_leaders (hnd : members.Nodup) (hne : members ≠ [])
    (heven : ¬ Odd members.length) :
    ∃ c i j, Reachable members c ∧ i ≠ j ∧ c.Leads i 1 ∧ c.Leads j 1 := by
  obtain ⟨m, hm⟩ : ∃ m, members.length = m + m := Nat.not_odd_iff_even.mp heven
  have hpos : 0 < members.length := length_pos_iff.mpr hne
  obtain ⟨i, votes, hi⟩ : ∃ i votes, members.take m = i :: votes :=
    exists_cons_of_length_pos (by rw [length_take]; omega)
  obtain ⟨j, votes', hj⟩ : ∃ j votes', members.drop m = j :: votes' :=
    exists_cons_of_length_pos (by rw [length_drop]; omega)
  have hmem : members = i :: votes ++ j :: votes' := by
    rw [← hi, ← hj, take_append_drop]
  have hlen : votes.length + 1 = m ∧ votes'.length + 1 = m := by
    have h1 := congrArg length hi
    have h2 := congrArg length hj
    simp only [length_take, length_drop, length_cons] at h1 h2
    omega
  rw [hmem] at hnd
  obtain ⟨hnd₁, hnd₂, hdisj⟩ := nodup_append.mp hnd
  rw [nodup_cons] at hnd₁ hnd₂
  obtain ⟨c₁, hs₁, hl₁, hoth₁⟩ := steps_elect members (c := init) (i := i)
    votes (by simp [hmem]) hnd₁.2 (fun v hv => by simp [hmem, hv]) hnd₁.1 rfl
    (fun _ _ => rfl) (by omega)
  have hfr : ∀ v ∈ j :: votes', c₁.Fresh v := fun v hv => by
    refine hoth₁ v (fun h => ?_) (fun h => ?_)
    · exact hdisj i mem_cons_self v hv h.symm
    · exact hdisj v (mem_cons_of_mem i h) v hv rfl
  obtain ⟨c₂, hs₂, hl₂, hoth₂⟩ := steps_elect members (c := c₁) (i := j)
    votes' (by simp [hmem]) hnd₂.2 (fun v hv => by simp [hmem, hv]) hnd₂.1
    (hfr j mem_cons_self) (fun v hv => hfr v (mem_cons_of_mem j hv)) (by omega)
  have hij : i ≠ j := hdisj i mem_cons_self j mem_cons_self
  refine ⟨c₂, i, j, hs₁.trans hs₂, hij, ?_, hl₂⟩
  have := hoth₂ i hij fun h => hdisj i mem_cons_self i (mem_cons_of_mem j h) rfl
  rw [Leads, this]
  exact hl₁

end

/-- **Election safety holds exactly in odd clusters.** -/
theorem electionSafe_iff_odd (hnd : members.Nodup) (hne : members ≠ []) :
    ElectionSafe members ↔ Odd members.length := by
  refine ⟨fun hsafe => ?_, electionSafe_of_odd hnd⟩
  by_contra heven
  obtain ⟨c, i, j, hc, hij, hi, hj⟩ := exists_two_leaders hnd hne heven
  exact hij (hsafe c c hc .refl i j 1 hi hj)

theorem electionSafe_three_nodes : ElectionSafe threeNodes :=
  (electionSafe_iff_odd (by decide) (by decide)).mpr (by decide)

def splitVotes : List Action :=
  ticks "node-1" 15 ++ [.voteLost "node-1" "node-2", .finishElection "node-1"] ++
  ticks "node-2" 12 ++ [.voteLost "node-2" "node-1", .finishElection "node-2"]

/-- **Both nodes of a cluster of two lead term `1`.** -/
theorem two_nodes_lead_one_term : ∃ c, init.run ["node-1", "node-2"] splitVotes = some c ∧
    c.Leads "node-1" 1 ∧ c.Leads "node-2" 1 :=
  Transition.exists_of_run _ init splitVotes (fun c => c.Leads "node-1" 1 ∧ c.Leads "node-2" 1)
    (by decide)

end VngDatabase.Raft.Cluster
