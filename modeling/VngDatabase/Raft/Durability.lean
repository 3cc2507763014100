import VngDatabase.Raft.Cluster

/-!
# Votes and crashes

The service keeps `currentTerm`, `votedFor` and the log in a file: the handlers of peer calls write
it before they answer, and the tick loop once per turn, at the end.
-/

namespace VngDatabase.Raft

open Option

inductive LoopPoint
  | waiting
  | electing (term : ℕ)
  | working
  deriving DecidableEq

/-- **A node, its tick loop and its disk**, with the votes it has cast. -/
structure Process where
  raft : RaftNode
  point : LoopPoint
  disk : Option RaftDurableState
  votes : List (ℕ × String)

/-- `ok` says whether a write succeeds. -/
inductive ProcessAction
  | tick
  | finishElection (granted : ℕ) (peers : List String)
  | recordAppendSuccess (peer : String) (peerMatchIndex totalNodes : ℕ)
  | applyCommittedEntries
  | compactIfNeeded
  | persistRaftState (ok : Bool)
  | raftVote (req : RaftVoteRequest) (ok : Bool)
  | raftAppend (req : RaftAppendRequest) (ok : Bool)
  | raftInstallSnapshot (req : RaftInstallSnapshotRequest) (ok : Bool)
  | raftTick
  | leaderPromotion
  | crash

namespace Process

def new (nodeId : String) : Process := ⟨.new nodeId, .waiting, none, []⟩

def restart (nodeId : String) : Option RaftDurableState → RaftNode
  | some durable => (RaftNode.new nodeId).restoreDurable durable
  | none => .new nodeId

/-- A write that fails leaves the old file. -/
def persist (node : RaftNode) (ok : Bool) (disk : Option RaftDurableState) :
    Option RaftDurableState :=
  if ok then some (.fromNode node) else disk

def selfVote (before after : RaftNode) : List (ℕ × String) :=
  if before.role ≠ .candidate ∧ after.role = .candidate then [(after.currentTerm, after.nodeId)]
  else []

def step (p : Process) : ProcessAction → Option Process
  | .tick =>
    if p.point = .waiting then
      let node := p.raft.tick
      some { p with
        raft := node
        point := if p.raft.role = .follower ∧ node.role = .candidate then .electing node.currentTerm
          else .working
        votes := p.votes ++ selfVote p.raft node }
    else none
  | .finishElection granted peers =>
    match p.point with
    | .electing term =>
      some { p with
        raft := if (peers.length + 1 + 1) / 2 ≤ 1 + granted ∧ p.raft.role = .candidate ∧
            p.raft.currentTerm = term then p.raft.becomeLeader.initLeaderIndices peers
          else p.raft
        point := .working }
    | _ => none
  | .recordAppendSuccess peer peerMatchIndex totalNodes =>
    if p.point = .working then
      some { p with raft := p.raft.recordAppendSuccess peer peerMatchIndex totalNodes }
    else none
  | .applyCommittedEntries =>
    if p.point = .working then
      some { p with raft := p.raft.advanceLastApplied p.raft.committedEntries }
    else none
  | .compactIfNeeded =>
    if p.point = .working then some { p with raft := p.raft.compactIfNeeded } else none
  | .persistRaftState ok =>
    if p.point = .working then
      some { p with point := .waiting, disk := persist p.raft ok p.disk }
    else none
  | .raftVote req ok =>
    let (node, resp) := p.raft.handleVoteRequest req
    some { p with
      raft := node
      disk := persist node ok p.disk
      votes := p.votes ++ if resp.voteGranted then [(req.term, req.candidateId)] else [] }
  | .raftAppend req ok =>
    let node := (p.raft.handleAppendEntries req).1
    some { p with raft := node, disk := persist node ok p.disk }
  | .raftInstallSnapshot req ok =>
    let node := (p.raft.handleInstallSnapshot req).1
    some { p with raft := node, disk := persist node ok p.disk }
  -- the endpoints for operators write nothing
  | .raftTick =>
    some { p with raft := p.raft.tick, votes := p.votes ++ selfVote p.raft p.raft.tick }
  | .leaderPromotion =>
    if p.raft.role ≠ .leader then
      some { p with
        raft := p.raft.becomeCandidate
        votes := p.votes ++ [(p.raft.currentTerm + 1, p.raft.nodeId)] }
    else none
  | .crash => some { p with raft := restart p.raft.nodeId p.disk, point := .waiting }

/-- **One candidate at most in each term**, itself included. -/
def VotesOnce (p : Process) : Prop :=
  ∀ t x y, (t, x) ∈ p.votes → (t, y) ∈ p.votes → x = y

def durableVote (disk : Option RaftDurableState) : ℕ × Option String :=
  (disk.map fun d => (d.currentTerm, d.votedFor)).getD (0, none)

/-- **A crash finds the term and the vote of the node on disk.** -/
def CrashesPersisted (p : Process) : ProcessAction → Prop
  | .crash => durableVote p.disk = (p.raft.currentTerm, p.raft.votedFor)
  | _ => True

/-! ### The node remembers its votes -/

structure Remembers (node : RaftNode) (votes : List (ℕ × String)) : Prop where
  le : ∀ {t x}, (t, x) ∈ votes → t ≤ node.currentTerm
  kept : ∀ {x}, (node.currentTerm, x) ∈ votes → node.votedFor = some x
  once : ∀ {t x y}, (t, x) ∈ votes → (t, y) ∈ votes → x = y

variable {node node' : RaftNode} {votes : List (ℕ × String)} {p p' : Process} {t : ℕ}

theorem Remembers.congr (h : Remembers node votes) (ht : node'.currentTerm = node.currentTerm)
    (hv : node'.votedFor = node.votedFor) : Remembers node' votes where
  le hm := ht ▸ h.le hm
  kept hm := hv ▸ h.kept (ht ▸ hm)
  once := h.once

theorem Remembers.becomeFollower (h : Remembers node votes) (t : ℕ) :
    Remembers (node.becomeFollower t) votes := by
  rcases Nat.lt_or_ge node.currentTerm t with hlt | hge
  · exact ⟨fun hm => (h.le hm).trans (by simp [hlt.le]),
      fun hm => absurd (h.le hm) (by simp [hlt]), h.once⟩
  · exact h.congr (by simp [hge]) (by rw [node.becomeFollower_votedFor, if_neg (by omega)])

theorem Remembers.concat (h : Remembers node votes) {x : String} (ht : node'.currentTerm = t)
    (hle : node.currentTerm ≤ t) (hv : node'.votedFor = some x)
    (hfree : ∀ y, (t, y) ∈ votes → y = x) : Remembers node' (votes ++ [(t, x)]) := by
  have hmem : ∀ {u y}, (u, y) ∈ votes ++ [(t, x)] → (u, y) ∈ votes ∨ u = t ∧ y = x := by
    intro u y hm
    simpa using hm
  refine ⟨fun hm => ?_, fun hm => ?_, fun hy hz => ?_⟩
  · rcases hmem hm with hm | ⟨rfl, -⟩
    · exact (h.le hm).trans (ht ▸ hle)
    · exact ht.ge
  · rcases hmem hm with hm | ⟨-, rfl⟩
    · rw [ht] at hm
      rw [hv, hfree _ hm]
    · exact hv
  · rcases hmem hy with hy' | ⟨hyt, hyx⟩ <;> rcases hmem hz with hz' | ⟨hzt, hzx⟩
    · exact h.once hy' hz'
    · exact (hfree _ (hzt ▸ hy')).trans hzx.symm
    · exact hyx.trans (hfree _ (hyt ▸ hz')).symm
    · exact hyx.trans hzx.symm

theorem Remembers.becomeCandidate (h : Remembers node votes) :
    Remembers node.becomeCandidate (votes ++ [(node.currentTerm + 1, node.nodeId)]) :=
  h.concat rfl (Nat.le_succ _) rfl fun _ hy => absurd (h.le hy) (Nat.not_succ_le_self _)

theorem Remembers.tick (h : Remembers node votes) :
    Remembers node.tick (votes ++ selfVote node node.tick) := by
  rcases Cluster.tick_cases node with ⟨hrole, ht⟩ | ht
  · rw [ht, selfVote, if_pos ⟨by rw [hrole]; decide, rfl⟩]
    exact h.becomeCandidate.congr rfl rfl
  · have hself : selfVote node node.tick = [] := by
      refine if_neg ?_
      rintro ⟨hne, heq⟩
      rw [ht] at heq
      exact hne heq
    rw [hself, List.append_nil, ht]
    exact h.congr rfl rfl

theorem Remembers.handleVoteRequest (h : Remembers node votes) (req : RaftVoteRequest) :
    Remembers (node.handleVoteRequest req).1
      (votes ++ if (node.handleVoteRequest req).2.voteGranted then
        [(req.term, req.candidateId)] else []) := by
  have hobs : Remembers (node.observeTerm req.term) votes := by
    rw [RaftNode.observeTerm]
    split_ifs
    · exact h.becomeFollower _
    · exact h
  rcases node.handleVoteRequest_cases req with ⟨hn, hg⟩ | ⟨hn, hg, hle, hfree, -⟩
  · rw [hn, hg, if_neg (by simp), List.append_nil]
    exact hobs
  · have hterm : (node.observeTerm req.term).currentTerm = req.term := by
      rw [RaftNode.observeTerm]
      split_ifs with hlt
      · simp [hlt.le]
      · omega
    rw [hn, hg, if_pos rfl]
    refine hobs.concat hterm hterm.le rfl ?_
    intro y hy
    -- a vote already cast in this term is the one the node keeps
    have hkept := hobs.kept (hterm.symm ▸ hy)
    rcases hfree with hnone | hsome
    · rw [hnone] at hkept
      contradiction
    · rw [hsome] at hkept
      exact (some.inj hkept).symm

theorem Remembers.handleAppendEntries (h : Remembers node votes) (req : RaftAppendRequest) :
    Remembers (node.handleAppendEntries req).1 votes := by
  have hhear := h.becomeFollower req.term
  rcases node.handleAppendEntries_cases req with ⟨-, hn, -⟩ | ⟨-, -, hn, -⟩ | ⟨-, -, _, -, hn, -⟩
  · rw [hn]
    exact h
  · rw [hn]
    exact hhear.congr rfl rfl
  · rw [hn]
    exact hhear.congr rfl rfl

theorem Remembers.handleInstallSnapshot (h : Remembers node votes)
    (req : RaftInstallSnapshotRequest) : Remembers (node.handleInstallSnapshot req).1 votes := by
  have hhear := h.becomeFollower req.term
  rcases node.handleInstallSnapshot_cases req with ⟨-, hn, -⟩ | ⟨-, -, hn, -⟩ | ⟨-, -, hn, -⟩
  · rw [hn]
    exact h
  · rw [hn]
    exact hhear.congr rfl rfl
  · rw [hn]
    exact hhear.congr rfl rfl

theorem Remembers.restart (h : Remembers node votes) (nodeId : String)
    {disk : Option RaftDurableState} (hd : durableVote disk = (node.currentTerm, node.votedFor)) :
    Remembers (restart nodeId disk) votes := by
  obtain ⟨ht, hv⟩ := Prod.mk.inj hd
  cases disk with
  | none => exact h.congr ht hv
  | some d => exact h.congr ht hv

theorem Remembers.step (h : Remembers p.raft p.votes) {a : ProcessAction}
    (hgood : CrashesPersisted p a) (hs : p.step a = some p') : Remembers p'.raft p'.votes := by
  cases a with
  | tick =>
    obtain ⟨-, hs⟩ := ite_none_right_eq_some.mp hs
    obtain rfl := some.inj hs
    exact h.tick
  | finishElection granted peers =>
    rw [Process.step] at hs
    split at hs
    · obtain rfl := some.inj hs
      dsimp only
      split_ifs
      · obtain ⟨next, mtch, hinit⟩ := p.raft.becomeLeader.initLeaderIndices_frame peers
        rw [hinit]
        exact h.congr rfl rfl
      · exact h
    · contradiction
  | recordAppendSuccess peer m total =>
    obtain ⟨-, hs⟩ := ite_none_right_eq_some.mp hs
    obtain rfl := some.inj hs
    rcases p.raft.recordAppendSuccess_cases peer m total with hn | ⟨n, -, hn, -⟩
    · exact h.congr (by rw [hn]; rfl) (by rw [hn]; rfl)
    · exact h.congr (by rw [hn]; rfl) (by rw [hn]; rfl)
  | applyCommittedEntries =>
    obtain ⟨-, hs⟩ := ite_none_right_eq_some.mp hs
    obtain rfl := some.inj hs
    obtain ⟨_, _, _, hq⟩ := Cluster.quiet_advanceLastApplied p.raft p.raft.committedEntries
    exact h.congr (by rw [hq]) (by rw [hq])
  | compactIfNeeded =>
    obtain ⟨-, hs⟩ := ite_none_right_eq_some.mp hs
    obtain rfl := some.inj hs
    dsimp only
    rw [RaftNode.compactIfNeeded]
    split_ifs
    · exact h
    · have hsame := p.raft.sameBallot_compactLog p.raft.lastApplied
      exact h.congr hsame.currentTerm hsame.votedFor
    · exact h
  | persistRaftState ok =>
    obtain ⟨-, hs⟩ := ite_none_right_eq_some.mp hs
    obtain rfl := some.inj hs
    exact h
  | raftVote req ok =>
    obtain rfl := some.inj hs
    exact h.handleVoteRequest req
  | raftAppend req ok =>
    obtain rfl := some.inj hs
    exact h.handleAppendEntries req
  | raftInstallSnapshot req ok =>
    obtain rfl := some.inj hs
    exact h.handleInstallSnapshot req
  | raftTick =>
    obtain rfl := some.inj hs
    exact h.tick
  | leaderPromotion =>
    obtain ⟨-, hs⟩ := ite_none_right_eq_some.mp hs
    obtain rfl := some.inj hs
    exact h.becomeCandidate
  | crash =>
    obtain rfl := some.inj hs
    exact h.restart _ hgood

/-- **No term gets two votes if crashes find term and vote on disk.** -/
theorem votesOnce_of_crashesPersisted {nodeId : String}
    (h : Transition.ReachableIf step CrashesPersisted (new nodeId) p) : p.VotesOnce := by
  have hp : Remembers p.raft p.votes := by
    refine h.invariant (P := fun p => Remembers p.raft p.votes) ⟨?_, ?_, ?_⟩
      fun hs hgood hstep => hs.step hgood hstep <;> simp [new]
  exact fun t x y hx hy => hp.once hx hy

instance (p : Process) : DecidablePred (CrashesPersisted p)
  | .crash => inferInstanceAs (Decidable (_ = _))
  | .tick | .finishElection .. | .recordAppendSuccess .. | .applyCommittedEntries
  | .compactIfNeeded | .persistRaftState _ | .raftVote .. | .raftAppend ..
  | .raftInstallSnapshot .. | .raftTick | .leaderPromotion => inferInstanceAs (Decidable True)

def electSelf : List ProcessAction :=
  (List.replicate 14 [.tick, .persistRaftState true]).flatten ++
  [.tick, .finishElection 1 ["node-2", "node-3"]]

theorem votesOnce_electSelf :
    ∃ p, Transition.ReachableIf step CrashesPersisted (new "node-1") p ∧
      p.votes = [(1, "node-1"), (2, "node-3")] ∧ p.VotesOnce := by
  obtain ⟨p, hp, hvot⟩ := Transition.exists_of_runIf step CrashesPersisted (new "node-1")
    (electSelf ++ [.persistRaftState true, .crash, .raftVote ⟨1, "node-2", 0, 0⟩ true,
      .raftVote ⟨2, "node-3", 0, 0⟩ true])
    (fun p => p.votes = [(1, "node-1"), (2, "node-3")]) (by decide)
  exact ⟨p, hp, hvot, votesOnce_of_crashesPersisted hp⟩

/-- **A vote is forgotten**: `node-1` crashes before its write. -/
theorem votes_twice :
    ∃ p q, Transition.run step (new "node-1") electSelf = some p ∧
      p.raft.role = .leader ∧ p.raft.currentTerm = 1 ∧
      Transition.run step p [.crash, .raftVote ⟨1, "node-2", 0, 0⟩ true] = some q ∧
      q.votes = [(1, "node-1"), (1, "node-2")] ∧ ¬ q.VotesOnce := by
  obtain ⟨p, hp, hrole, hterm, hrun⟩ := Transition.exists_of_run step (new "node-1") electSelf
    (fun p => p.raft.role = .leader ∧ p.raft.currentTerm = 1 ∧
      (Transition.run step p [.crash, .raftVote ⟨1, "node-2", 0, 0⟩ true]).map Process.votes =
        some [(1, "node-1"), (1, "node-2")]) (by decide)
  obtain ⟨q, hq, hvot⟩ := map_eq_some_iff.mp hrun
  refine ⟨p, q, hp, hrole, hterm, hq, hvot, fun hcon => ?_⟩
  exact absurd (hcon 1 "node-1" "node-2" (by simp [hvot]) (by simp [hvot])) (by decide)

end Process

end VngDatabase.Raft
