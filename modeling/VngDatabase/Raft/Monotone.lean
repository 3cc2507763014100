import VngDatabase.Raft.Node
import VngDatabase.Transition

/-!
# What only ever grows

Terms and indices of a node are meant to grow only, and all methods keep to this but one.
-/

namespace VngDatabase.Raft

open List

inductive NodeCall
  | handleVoteRequest (req : RaftVoteRequest)
  | handleAppendEntries (req : RaftAppendRequest)
  | handleInstallSnapshot (req : RaftInstallSnapshotRequest)
  | tick
  | recordAppendSuccess (peer : String) (peerMatchIndex totalNodes : ℕ)
  | appendCommand (command : String) (totalPeers : ℕ)
  | appendCommandPending (command : String) (totalPeers : ℕ)
  | compactLog (upToIndex : ℕ)

namespace RaftNode

def call (node : RaftNode) : NodeCall → RaftNode
  | .handleVoteRequest req => (node.handleVoteRequest req).1
  | .handleAppendEntries req => (node.handleAppendEntries req).1
  | .handleInstallSnapshot req => (node.handleInstallSnapshot req).1
  | .tick => node.tick
  | .recordAppendSuccess peer m total => node.recordAppendSuccess peer m total
  | .appendCommand command peers => (node.appendCommand command peers).1
  | .appendCommandPending command peers => (node.appendCommandPending command peers).1
  | .compactLog upTo => node.compactLog upTo

/-- **The node has only gone forward.** -/
structure Advances (node node' : RaftNode) : Prop where
  currentTerm : node.currentTerm ≤ node'.currentTerm
  commitIndex : node.commitIndex ≤ node'.commitIndex
  snapshotIndex : node.snapshotIndex ≤ node'.snapshotIndex
  lastApplied : node.lastApplied ≤ node'.lastApplied
  votedFor : node'.currentTerm = node.currentTerm →
    ∀ a, node.votedFor = some a → node'.votedFor = some a

/-- **An accepted call keeps the log up to the commit index.** -/
def ReachesCommit (node : RaftNode) : NodeCall → Prop
  | .handleAppendEntries req =>
    node.currentTerm ≤ req.term → node.prevMatches req → node.commitIndex < req.leaderCommit →
      node.commitIndex ≤
        (RaftNode.lastLogPosition { node with log := node.pushEntries req.entries }).1
  | _ => True

variable {node node' : RaftNode}

theorem Advances.refl (node : RaftNode) : node.Advances node :=
  ⟨le_rfl, le_rfl, le_rfl, le_rfl, fun _ _ h => h⟩

theorem Advances.trans {node'' : RaftNode} (h : node.Advances node') (h' : node'.Advances node'') :
    node.Advances node'' where
  currentTerm := h.currentTerm.trans h'.currentTerm
  commitIndex := h.commitIndex.trans h'.commitIndex
  snapshotIndex := h.snapshotIndex.trans h'.snapshotIndex
  lastApplied := h.lastApplied.trans h'.lastApplied
  votedFor := by
    intro hterm a ha
    -- the term in between is the same as well
    have hmid : node'.currentTerm = node.currentTerm :=
      le_antisymm (h'.currentTerm.trans hterm.le) h.currentTerm
    exact h'.votedFor (hterm.trans hmid.symm) a (h.votedFor hmid a ha)

/-! ### One call -/

theorem advances_of_becomeFollower {t : ℕ}
    (hterm : node'.currentTerm = (node.becomeFollower t).currentTerm)
    (hvote : node'.votedFor = (node.becomeFollower t).votedFor)
    (hcom : node.commitIndex ≤ node'.commitIndex)
    (hsnap : node.snapshotIndex ≤ node'.snapshotIndex)
    (happ : node.lastApplied ≤ node'.lastApplied) : node.Advances node' := by
  rw [becomeFollower_currentTerm] at hterm
  refine ⟨hterm ▸ le_max_left _ _, hcom, hsnap, happ, fun hsame a ha => ?_⟩
  rw [hvote, becomeFollower_votedFor, if_neg, ha]
  rw [hterm, max_eq_left_iff] at hsame
  exact not_lt.mpr hsame

theorem advances_observeTerm (node : RaftNode) (t : ℕ) : node.Advances (node.observeTerm t) := by
  rw [observeTerm]
  split_ifs
  · exact advances_of_becomeFollower rfl rfl (by simp) (by simp) (by simp)
  · exact .refl node

theorem advances_handleVoteRequest (req : RaftVoteRequest) :
    node.Advances (node.handleVoteRequest req).1 := by
  have hterm := advances_observeTerm node req.term
  rcases node.handleVoteRequest_cases req with ⟨hnode, -⟩ | ⟨hnode, -, -, hfree, -⟩
  · rwa [hnode]
  · rw [hnode]
    refine hterm.trans ⟨le_rfl, le_rfl, le_rfl, le_rfl, fun _ a ha => ?_⟩
    -- the vote is given again to the one who has it
    rcases hfree with hnone | hsome
    · cases hnone.symm.trans ha
    · exact hsome.symm.trans ha

theorem advances_handleAppendEntries_iff (req : RaftAppendRequest) :
    node.Advances (node.handleAppendEntries req).1 ↔
      node.ReachesCommit (.handleAppendEntries req) := by
  rcases node.handleAppendEntries_cases req with
    ⟨hsta, hnode, -⟩ | ⟨-, hprev, hnode, -⟩ | ⟨hterm, hprev, last, hlast, hnode, -, -⟩
  · rw [hnode]
    exact iff_of_true (.refl node) fun hterm => absurd hsta (not_lt.mpr hterm)
  · rw [hnode]
    refine iff_of_true (advances_of_becomeFollower rfl rfl ?_ ?_ ?_) fun _ hmts => ?_
    · rw [hearLeader_commitIndex]
    · rw [hearLeader_snapshotIndex]
    · rw [hearLeader_lastApplied]
    · cases hprev.symm.trans hmts
  · rw [hnode]
    constructor
    · intro hadv _ _ hcom
      have hle := hadv.commitIndex
      dsimp only at hle
      rw [if_pos hcom, hlast] at hle
      exact (le_min_iff.mp hle).2
    · intro hrea
      refine advances_of_becomeFollower rfl rfl ?_ ?_ ?_
      · dsimp only
        split_ifs with hcom
        · exact le_min hcom.le (hlast ▸ hrea hterm hprev hcom)
        · exact le_rfl
      · exact (node.hearLeader_snapshotIndex _).ge
      · exact (node.hearLeader_lastApplied _).ge

theorem advances_handleInstallSnapshot (req : RaftInstallSnapshotRequest) :
    node.Advances (node.handleInstallSnapshot req).1 := by
  rcases node.handleInstallSnapshot_cases req with
    ⟨-, hnode, -⟩ | ⟨-, -, hnode, -⟩ | ⟨-, hnew, hnode, -⟩
  · rw [hnode]
    exact .refl node
  · rw [hnode]
    exact advances_of_becomeFollower rfl rfl (node.hearLeader_commitIndex _).ge
      (node.hearLeader_snapshotIndex _).ge (node.hearLeader_lastApplied _).ge
  · rw [hnode]
    exact advances_of_becomeFollower rfl rfl (le_max_left _ _) hnew.le (le_max_left _ _)

theorem advances_tick : node.Advances node.tick := by
  rw [tick]
  split_ifs
  · exact ⟨Nat.le_succ _, le_rfl, le_rfl, le_rfl, fun hterm => absurd hterm (Nat.succ_ne_self _)⟩
  · exact ⟨le_rfl, le_rfl, le_rfl, le_rfl, fun _ _ h => h⟩

theorem advances_recordAppendSuccess (peer : String) (m total : ℕ) :
    node.Advances (node.recordAppendSuccess peer m total) := by
  have hcom := (node.recordAppendSuccess_frame peer m total).2.2.2
  rcases node.recordAppendSuccess_cases peer m total with h | ⟨n, -, h, -, -⟩
  · rw [h] at hcom ⊢
    exact ⟨le_rfl, hcom, le_rfl, le_rfl, fun _ _ h => h⟩
  · rw [h] at hcom ⊢
    exact ⟨le_rfl, hcom, le_rfl, le_rfl, fun _ _ h => h⟩

theorem advances_compactLog (upTo : ℕ) : node.Advances (node.compactLog upTo) := by
  obtain ⟨-, hterm, hvote, -⟩ := node.sameBallot_compactLog upTo
  refine ⟨hterm.ge, ?_, ?_, ?_, fun _ _ h => hvote.trans h⟩ <;>
    rcases node.compactLog_cases upTo with
      ⟨-, hn⟩ | ⟨hup, e, -, hn⟩ | ⟨hup, -, -, hn⟩ | ⟨hup, -, -, hn⟩ <;> rw [hn]
  exacts [hup.le, hup.le, hup.le]

theorem advances_call_iff (node : RaftNode) (c : NodeCall) :
    node.Advances (node.call c) ↔ node.ReachesCommit c := by
  cases c with
  | handleAppendEntries req => exact advances_handleAppendEntries_iff req
  | handleVoteRequest req => exact iff_of_true (advances_handleVoteRequest req) trivial
  | handleInstallSnapshot req => exact iff_of_true (advances_handleInstallSnapshot req) trivial
  | tick => exact iff_of_true advances_tick trivial
  | recordAppendSuccess peer m total =>
    exact iff_of_true (advances_recordAppendSuccess peer m total) trivial
  | appendCommand command peers =>
    refine iff_of_true ?_ trivial
    rw [call, appendCommand_eq]
    refine ⟨le_rfl, ?_, le_rfl, le_max_left _ _, fun _ _ h => h⟩
    dsimp only
    split_ifs
    exacts [le_max_left _ _, le_rfl]
  | appendCommandPending command peers =>
    refine iff_of_true ?_ trivial
    rw [call, appendCommandPending_eq]
    refine ⟨le_rfl, ?_, le_rfl, le_rfl, fun _ _ h => h⟩
    dsimp only
    split_ifs
    exacts [le_max_left _ _, le_rfl]
  | compactLog upTo => exact iff_of_true (advances_compactLog upTo) trivial

def cutShort : List NodeCall :=
  [.handleAppendEntries ⟨1, "node-1", 0, 0, [⟨1, 1, "a"⟩, ⟨2, 1, "b"⟩], 2⟩,
    .handleAppendEntries ⟨2, "node-3", 0, 0, [⟨1, 2, "c"⟩], 3⟩]

end RaftNode

end VngDatabase.Raft
