import VngDatabase.Raft.LogMatching

/-!
# What a node says about the end of its log

A follower that accepts an append call answers with **the last index of its own log**, which the
leader takes for how far the logs agree.
-/

namespace VngDatabase.Raft

open Consensus List

namespace RaftNode

/-! ### What a follower acknowledges -/

section

variable {leader follower : RaftNode} {lead l : List RaftLogEntry} {req : RaftAppendRequest}

def fullLog (l : List RaftLogEntry) (node : RaftNode) : List RaftLogEntry :=
  l.take node.snapshotIndex ++ node.log

theorem Views.fullLog_eq {node : RaftNode} (h : node.Views l) : fullLog l node = l := by
  rw [fullLog, h.log, take_append_drop]

theorem call_cases (hlead : leader.Views lead) {rows : Finmap fun _ : String => RowData}
    {peer : String} (hreq : leader.heartbeatTo rows peer = .appendRequest peer req) :
    (req.prevLogIndex ≤ lead.length ∧ req.entries = lead.drop req.prevLogIndex ∧
        req.prevLogTerm = termOf lead req.prevLogIndex) ∨
      (lead.length < req.prevLogIndex ∧ req.entries = []) := by
  rw [heartbeatTo] at hreq
  generalize hni : (leader.nextIndex.lookup peer).getD (leader.commitIndex + 1) = ni at hreq
  split_ifs at hreq with hsnap
  obtain rfl := (Message.appendRequest.inj hreq).2
  have hsnapshot := hlead.snapshotIndex_le
  dsimp only
  have hents : ∀ e ∈ leader.log, (decide (ni ≤ e.index)) = decide (ni - 1 < e.index) := by
    intro e he
    obtain ⟨k, hk⟩ := mem_iff_getElem?.mp he
    have := hlead.logIndexed k e hk
    simp only [decide_eq_decide]
    omega
  have hle : leader.snapshotIndex ≤ ni - 1 := by omega
  rw [filter_congr hents, hlead.filter hle]
  rcases Nat.lt_or_ge lead.length (ni - 1) with hlt | hge
  · exact Or.inr ⟨hlt, drop_of_length_le hlt.le⟩
  · exact Or.inl ⟨hge, rfl, hlead.termAt hle⟩

/-- **The follower has nothing that the call does not describe.** -/
structure NothingBeyond (lead l : List RaftLogEntry) (follower : RaftNode)
    (req : RaftAppendRequest) : Prop where
  prev : req.prevLogIndex ≤ lead.length
  compacted : l.take follower.snapshotIndex <+: lead
  suffix : lead <+: l → l = lead

theorem forall_getElem?_eq_iff {x y : List RaftLogEntry} :
    (∀ i < x.length, x[i]? = y[i]?) ↔ x <+: y := by
  rw [prefix_iff_getElem?]
  refine forall_congr' fun i => forall_congr' fun hi => ?_
  rw [getElem?_eq_getElem hi]
  exact eq_comm

theorem adopt_prefix_iff (l lead : List RaftLogEntry) :
    adopt l lead lead.length <+: lead ↔ (lead <+: l → l = lead) := by
  rw [adopt, take_length]
  by_cases h : lead <+: l
  · rw [if_pos h]
    constructor
    · intro hl _
      exact hl.eq_of_length_le h.length_le
    · intro heq
      rw [heq h]
  · rw [if_neg h]
    exact ⟨fun _ hl => absurd hl h, fun _ => prefix_refl lead⟩

theorem fullLog_prefix_iff (hl : follower.Views l) (hlead : Contiguous 0 lead)
    (hmt : Matching l lead) (hprev : follower.prevMatches req = true)
    (hcall : (req.prevLogIndex ≤ lead.length ∧ req.entries = lead.drop req.prevLogIndex ∧
        req.prevLogTerm = termOf lead req.prevLogIndex) ∨
      (lead.length < req.prevLogIndex ∧ req.entries = [])) :
    fullLog l { follower with log := follower.pushEntries req.entries } <+: lead ↔
      NothingBeyond lead l follower req := by
  rcases hcall with ⟨hle, hents, hterm⟩ | ⟨hlt, hents⟩
  · by_cases hcpt : l.take follower.snapshotIndex <+: lead
    · have hlen : follower.snapshotIndex ≤ lead.length := by
        have := hcpt.length_le
        rwa [length_take, min_eq_left hl.snapshotIndex_le] at this
      have htake : l.take follower.snapshotIndex = lead.take follower.snapshotIndex := by
        rw [prefix_iff_eq_take.mp hcpt, length_take, min_eq_left hl.snapshotIndex_le]
      -- the logs agree up to where the follower starts to look
      have hst0 : req.prevLogIndex ≤ l.length ∧
          l.take (max req.prevLogIndex follower.snapshotIndex) =
            lead.take (max req.prevLogIndex follower.snapshotIndex) := by
        rcases Nat.eq_zero_or_pos req.prevLogIndex with h0 | hpos
        · rw [h0, Nat.zero_max]
          exact ⟨Nat.zero_le _, htake⟩
        · obtain ⟨hs, hprevLe, heq⟩ := hl.take_eq_of_prevMatches hprev hpos hle hterm hmt
          rw [max_eq_left hs]
          exact ⟨hprevLe, heq⟩
      have hvw : RaftNode.Views { follower with log := follower.pushEntries req.entries }
          (adopt l lead lead.length) :=
        hl.pushEntries hlead hlen hle le_rfl hmt hst0.1 hst0.2
          (by rw [hents, take_length]) rfl rfl
      have hfull : fullLog l { follower with log := follower.pushEntries req.entries } =
          adopt l lead lead.length := by
        have hpre : l.take follower.snapshotIndex <+: adopt l lead lead.length :=
          prefix_adopt ( take_prefix _ _) hcpt
        rw [fullLog, hvw.log]
        dsimp only
        rw [prefix_iff_eq_take.mp hpre, length_take, min_eq_left hl.snapshotIndex_le,
          take_append_drop]
      rw [hfull, adopt_prefix_iff]
      exact ⟨fun h => ⟨hle, hcpt, h⟩, fun h => h.suffix⟩
    · refine ⟨fun h => absurd ((prefix_append _ _).trans h) hcpt, fun h => ?_⟩
      exact absurd h.compacted hcpt
  · have hfull : fullLog l { follower with log := follower.pushEntries req.entries } = l := by
      rw [hents]
      exact hl.fullLog_eq
    rw [hfull]
    constructor
    · intro h
      have hlen := prevLogIndex_le_of_prevMatches hprev
      rw [hl.length] at hlen
      exact absurd h.length_le (by omega)
    · intro h
      exact absurd h.prev (by omega)

theorem recordAppendSuccess_commitIndex_le (node : RaftNode) (peer : String) (m total : ℕ) :
    (node.recordAppendSuccess peer m total).commitIndex ≤ max node.commitIndex m := by
  rcases node.recordAppendSuccess_cases peer m total with h | ⟨n, hn, h, -, -⟩
  · rw [h]
    exact le_max_left _ _
  · rw [h]
    have := mem_range'_1.mp hn
    dsimp only
    omega

/-- **An acknowledgement is sound iff** an accepting follower has nothing beyond the call. -/
theorem acknowledged_iff (hlead : leader.Views lead) (hl : follower.Views l)
    (hmatch : Matching l lead) {rows : Finmap fun _ : String => RowData} {peer : String}
    (hreq : leader.heartbeatTo rows peer = .appendRequest peer req) (total : ℕ) :
    ((follower.handleAppendEntries req).2.success = true →
        (∀ i < (follower.handleAppendEntries req).2.matchIndex,
          (fullLog l (follower.handleAppendEntries req).1)[i]? = lead[i]?) ∧
        (leader.recordAppendSuccess peer (follower.handleAppendEntries req).2.matchIndex
          total).commitIndex ≤ max leader.commitIndex leader.lastLogPosition.1) ↔
      (follower.currentTerm ≤ req.term → follower.prevMatches req = true →
        NothingBeyond lead l follower req) := by
  have hcall := call_cases hlead hreq
  rcases follower.handleAppendEntries_cases req with
    ⟨hterm, -, hsuc⟩ | ⟨-, hprev, -, hsuc⟩ | ⟨hterm, hprev, last, hlast, hnode, hsuc, hidx⟩
  · rw [hsuc]
    exact ⟨fun _ hle => absurd hle (not_le.mpr hterm), fun _ h => absurd h Bool.false_ne_true⟩
  · rw [hsuc, hprev]
    exact ⟨fun _ _ h => absurd h Bool.false_ne_true, fun _ h => absurd h Bool.false_ne_true⟩
  · have hcon : Contiguous req.prevLogIndex req.entries := by
      rcases hcall with ⟨-, hents, -⟩ | ⟨-, hents⟩
      · rw [hents]
        simpa using hlead.contiguous.drop req.prevLogIndex
      · rw [hents]
        exact contiguous_nil _
    have hind : LogIndexed { follower with log := follower.pushEntries req.entries } :=
      Contiguous.foldl_pushEntry hl.logIndexed hcon (prevLogIndex_le_of_prevMatches hprev)
    have hfull : fullLog l (follower.handleAppendEntries req).1 =
        fullLog l { follower with log := follower.pushEntries req.entries } := by
      rw [hnode, fullLog, fullLog, hearLeader_snapshotIndex]
    have hlen : (follower.handleAppendEntries req).2.matchIndex =
        (fullLog l { follower with log := follower.pushEntries req.entries }).length := by
      rw [hidx, hlast, hind.lastLogPosition_fst, fullLog, length_append,
        length_take, min_eq_left hl.snapshotIndex_le]
    rw [hsuc, hfull, hlen, forall_getElem?_eq_iff, hlead.lastLogPosition_fst,
      ← fullLog_prefix_iff hl hlead.contiguous hmatch hprev hcall]
    constructor
    · intro h _ _
      exact (h rfl).1
    · intro h _
      have hcut := h hterm hprev
      refine ⟨hcut, (recordAppendSuccess_commitIndex_le _ _ _ _).trans ?_⟩
      exact max_le_max_left _ hcut.length_le

def sendingLeader : RaftNode :=
  { new "node-1" with
    currentTerm := 2
    role := .leader
    log := [⟨1, 1, "a"⟩, ⟨2, 2, "c"⟩]
    nextIndex := Finmap.singleton "node-2" 2 }

def divergedFollower : RaftNode :=
  { new "node-2" with currentTerm := 1, log := [⟨1, 1, "a"⟩, ⟨2, 1, "b"⟩] }

theorem divergedFollower_acknowledged :
    let reply := divergedFollower.handleAppendEntries
      ⟨2, "node-1", 1, 1, [⟨2, 2, "c"⟩], 0⟩
    reply.2.success = true ∧
      (∀ i < reply.2.matchIndex,
        (fullLog divergedFollower.log reply.1)[i]? = sendingLeader.log[i]?) ∧
      (sendingLeader.recordAppendSuccess "node-2" reply.2.matchIndex 3).commitIndex ≤
        max sendingLeader.commitIndex sendingLeader.lastLogPosition.1 := by
  have hlead : sendingLeader.Views sendingLeader.log := ⟨by decide, by decide, rfl, rfl⟩
  have hl : divergedFollower.Views divergedFollower.log := ⟨by decide, by decide, rfl, rfl⟩
  have hmt : Matching divergedFollower.log sendingLeader.log := by
    rintro (_ | _ | k) x y hx hy hterm
    · rfl
    · obtain rfl := Option.some.inj hx
      obtain rfl := Option.some.inj hy
      cases hterm
    · cases hx
  have hbey : NothingBeyond sendingLeader.log divergedFollower.log divergedFollower
      ⟨2, "node-1", 1, 1, [⟨2, 2, "c"⟩], 0⟩ := by
    refine ⟨by decide, by decide, fun h => ?_⟩
    exact absurd h (by decide)
  have hreq : sendingLeader.heartbeatTo ∅ "node-2" =
      .appendRequest "node-2" ⟨2, "node-1", 1, 1, [⟨2, 2, "c"⟩], 0⟩ := rfl
  exact ⟨by decide, (acknowledged_iff hlead hl hmt hreq 3).mpr (fun _ _ => hbey)
    (by decide)⟩

end

/-- **Nobody with the same log turns the candidate away.** -/
def KeepsVoters (node : RaftNode) : Prop :=
  ∀ voter : RaftNode, voter.log = node.log → voter.snapshotIndex = node.snapshotIndex →
    voter.snapshotTerm = node.snapshotTerm → voter.currentTerm ≤ node.currentTerm →
    ((voter.observeTerm node.currentTerm).votedFor = none ∨
      (voter.observeTerm node.currentTerm).votedFor = some node.nodeId) →
    (voter.handleVoteRequest node.voteRequestOf).2.voteGranted = true

theorem voteGranted_of_position {voter : RaftNode} {req : RaftVoteRequest}
    (hterm : voter.currentTerm ≤ req.term)
    (hvote : (voter.observeTerm req.term).votedFor = none ∨
      (voter.observeTerm req.term).votedFor = some req.candidateId)
    (hpos : (req.lastLogIndex, req.lastLogTerm) = voter.lastLogPosition) :
    (voter.handleVoteRequest req).2.voteGranted = true := by
  have hcur : (voter.observeTerm req.term).currentTerm = req.term := by
    rw [observeTerm]
    split_ifs with hlt
    · simp [max_eq_right hlt.le]
    · omega
  have hlast : (voter.observeTerm req.term).lastLogPosition =
      (req.lastLogIndex, req.lastLogTerm) := by
    rw [hpos, observeTerm]
    split_ifs
    · simp
    · rfl
  have hfree : ((voter.observeTerm req.term).votedFor.map fun v => v != req.candidateId).getD
      false = false := by
    rcases hvote with h | h <;> simp [h]
  rw [handleVoteRequest]
  dsimp only
  rw [show (if voter.currentTerm < req.term then voter.becomeFollower req.term else voter) =
    voter.observeTerm req.term from rfl, if_neg (by omega), hfree, hlast]
  simp

/-- **What a candidate says of its log is right iff it has never been compacted.** -/
theorem stands_iff {node : RaftNode} (h : node.LogIndexed) :
    ((node.voteRequestOf.lastLogIndex, node.voteRequestOf.lastLogTerm) = node.lastLogPosition ∧
        node.KeepsVoters) ↔
      node.snapshotIndex = 0 := by
  have hidx := h.lastLogPosition_fst
  constructor
  · rintro ⟨hpos, -⟩
    have hfst : node.log.length = node.lastLogPosition.1 := congrArg Prod.fst hpos
    omega
  · intro hzero
    have hpos : (node.voteRequestOf.lastLogIndex, node.voteRequestOf.lastLogTerm) =
        node.lastLogPosition := by
      refine Prod.ext ?_ ?_
      · rw [hidx, hzero, Nat.zero_add]
        rfl
      · rw [lastLogPosition, hzero]
        dsimp only [voteRequestOf]
        cases node.log.getLast? <;> rfl
    refine ⟨hpos, fun voter hlog hs ht hterm hvote => ?_⟩
    exact voteGranted_of_position hterm hvote (hpos.trans (lastLogPosition_congr hlog hs ht).symm)

def freshCandidate : RaftNode := (((new "node-1").appendCommand "INSERT" 0).1).becomeCandidate

theorem freshCandidate_stands :
    freshCandidate.log = [⟨1, 0, "INSERT"⟩] ∧
      (freshCandidate.voteRequestOf.lastLogIndex, freshCandidate.voteRequestOf.lastLogTerm) =
        freshCandidate.lastLogPosition ∧ freshCandidate.KeepsVoters := by
  have h : freshCandidate.LogIndexed := by
    rw [LogIndexed]
    decide
  exact ⟨by decide, (stands_iff h).mpr (by decide)⟩

/-- **After a compaction** the candidate is turned away. -/
theorem compactedNode_turned_away :
    compactedNode.becomeCandidate.voteRequestOf.lastLogIndex = 1 ∧
      compactedNode.becomeCandidate.lastLogPosition = (2, 0) ∧
      (compactedNode.handleVoteRequest
        compactedNode.becomeCandidate.voteRequestOf).2.voteGranted = false := by
  decide

end RaftNode

namespace Cluster

def staleSuffix : List Action :=
  ticks "node-1" 15 ++
  [.deliver 0, .deliver 2, .voteLost "node-1" "node-3", .finishElection "node-1",
    .appendCommandPending "node-1" "a", heartbeat "node-1", .deliver 3, .deliver 4,
    .appendCommandPending "node-1" "b"] ++
  ticks "node-2" 12 ++
  [.deliver 8, .deliver 9, .voteLost "node-2" "node-1", .finishElection "node-2",
    heartbeat "node-2", .deliver 10]

def acknowledged : Message → Option RaftAppendResponse
  | .appendResponse _ _ resp => some resp
  | _ => none

/-- **The reply vouches for an entry that the leader does not have.** -/
theorem staleSuffix_acknowledged :
    ∃ c, init.run threeNodes staleSuffix = some c ∧
      (c.member "node-1").raft.log = [⟨1, 1, "a"⟩, ⟨2, 1, "b"⟩] ∧
      (c.member "node-2").raft.log = [⟨1, 1, "a"⟩] ∧
      c.net[12]?.bind acknowledged = some ⟨2, true, 2⟩ ∧
      (c.step threeNodes (.deliver 12)).map (fun c => (c.member "node-2").raft.commitIndex) =
        some 2 :=
  Transition.exists_of_run (step threeNodes) init staleSuffix
    (fun c => (c.member "node-1").raft.log = [⟨1, 1, "a"⟩, ⟨2, 1, "b"⟩] ∧
      (c.member "node-2").raft.log = [⟨1, 1, "a"⟩] ∧
      c.net[12]?.bind acknowledged = some ⟨2, true, 2⟩ ∧
      (c.step threeNodes (.deliver 12)).map (fun c => (c.member "node-2").raft.commitIndex) =
        some 2) (by decide +kernel)

end Cluster

end VngDatabase.Raft
