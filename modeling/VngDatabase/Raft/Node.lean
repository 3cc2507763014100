import VngDatabase.Store.Mvcc

/-!
# The Raft node

The record of `services/voltnuerongridd/src/raft.rs` and its methods, each a function from the node
before to the node after (and the reply, where there is one).
-/

namespace VngDatabase.Raft

open List

/-! ### Roles, entries and messages -/

inductive RaftRole where
  | follower
  | candidate
  | leader
  deriving DecidableEq

structure RaftLogEntry where
  index : ℕ
  term : ℕ
  command : String
  deriving DecidableEq

structure RaftVoteRequest where
  term : ℕ
  candidateId : String
  lastLogIndex : ℕ
  lastLogTerm : ℕ

structure RaftVoteResponse where
  term : ℕ
  voteGranted : Bool

structure RaftAppendRequest where
  term : ℕ
  leaderId : String
  prevLogIndex : ℕ
  prevLogTerm : ℕ
  entries : List RaftLogEntry
  leaderCommit : ℕ

structure RaftAppendResponse where
  term : ℕ
  success : Bool
  matchIndex : ℕ
  deriving DecidableEq

structure RaftInstallSnapshotRequest where
  term : ℕ
  leaderId : String
  snapshotIndex : ℕ
  snapshotTerm : ℕ
  rows : Finmap fun _ : String => RowData

structure RaftInstallSnapshotResponse where
  term : ℕ
  success : Bool

structure RaftNode where
  nodeId : String
  currentTerm : ℕ
  votedFor : Option String
  role : RaftRole
  log : List RaftLogEntry
  commitIndex : ℕ
  lastApplied : ℕ
  ticksSinceHeartbeat : ℕ
  electionTimeoutTicks : ℕ
  fencingToken : ℕ
  nextIndex : Finmap fun _ : String => ℕ
  matchIndex : Finmap fun _ : String => ℕ
  snapshotIndex : ℕ
  snapshotTerm : ℕ

def electionTimeoutFor (nodeId : String) : ℕ :=
  let hash := nodeId.toUTF8.data.toList.foldl
    (fun (acc : UInt64) b => (acc * 1099511628211) ^^^ b.toUInt64) 14695981039346656037
  10 + (hash % 10).toNat

namespace RaftNode

variable {s : ℕ} {log : List RaftLogEntry} {entry : RaftLogEntry}

def new (nodeId : String) : RaftNode where
  nodeId := nodeId
  currentTerm := 0
  votedFor := none
  role := .follower
  log := []
  commitIndex := 0
  lastApplied := 0
  ticksSinceHeartbeat := 0
  electionTimeoutTicks := electionTimeoutFor nodeId
  fencingToken := 0
  nextIndex := ∅
  matchIndex := ∅
  snapshotIndex := 0
  snapshotTerm := 0

def logEntryAt (node : RaftNode) (index : ℕ) : Option RaftLogEntry :=
  if index = 0 ∨ index ≤ node.snapshotIndex then none
  else node.log[index - node.snapshotIndex - 1]?

/-- The remembered term at the snapshot boundary. -/
def termAt (node : RaftNode) (index : ℕ) : ℕ :=
  if index = 0 then 0
  else if index = node.snapshotIndex then node.snapshotTerm
  else ((node.logEntryAt index).map RaftLogEntry.term).getD 0

def lastLogPosition (node : RaftNode) : ℕ × ℕ :=
  match node.log.getLast? with
  | some e => (e.index, e.term)
  | none => if 0 < node.snapshotIndex then (node.snapshotIndex, node.snapshotTerm) else (0, 0)

def becomeCandidate (node : RaftNode) : RaftNode :=
  { node with
    currentTerm := node.currentTerm + 1
    role := .candidate
    votedFor := some node.nodeId }

def becomeLeader (node : RaftNode) : RaftNode :=
  { node with
    fencingToken := node.fencingToken + 1
    role := .leader
    nextIndex := ∅
    matchIndex := ∅ }

def initLeaderIndices (node : RaftNode) (peers : List String) : RaftNode :=
  let next := node.lastLogPosition.1 + 1
  peers.foldl (fun node peer =>
    { node with
      nextIndex := node.nextIndex.insert peer next
      matchIndex := node.matchIndex.insert peer 0 }) node

def becomeFollower (node : RaftNode) (newTerm : ℕ) : RaftNode :=
  let node := if node.currentTerm < newTerm then
      { node with currentTerm := newTerm, votedFor := none }
    else node
  { node with role := .follower }

def hearLeader (node : RaftNode) (term : ℕ) : RaftNode :=
  { node.becomeFollower term with ticksSinceHeartbeat := 0 }

def tick (node : RaftNode) : RaftNode :=
  let node := { node with ticksSinceHeartbeat := node.ticksSinceHeartbeat + 1 }
  if node.role = .follower ∧ node.electionTimeoutTicks ≤ node.ticksSinceHeartbeat then
    { node.becomeCandidate with ticksSinceHeartbeat := 0 }
  else node

def replicatedOn (node : RaftNode) (n : ℕ) : ℕ :=
  node.matchIndex.entries.countP fun e => n ≤ e.2

/-- The commit index moves to the last index a quorum holds. -/
def recordAppendSuccess (node : RaftNode) (peer : String) (peerMatchIndex totalNodes : ℕ) :
    RaftNode :=
  let node :=
    { node with
      nextIndex := node.nextIndex.insert peer (peerMatchIndex + 1)
      matchIndex := node.matchIndex.insert peer peerMatchIndex }
  let quorum := (totalNodes + 1) / 2
  { node with
    commitIndex := (List.range' (node.commitIndex + 1) (peerMatchIndex - node.commitIndex)).foldl
      (fun commit n => if quorum ≤ 1 + node.replicatedOn n then n else commit) node.commitIndex }

def recordAppendFailure (node : RaftNode) (peer : String) : RaftNode :=
  let ni := (node.nextIndex.lookup peer).getD 1
  { node with nextIndex := node.nextIndex.insert peer (max (ni - 1) 1) }

def handleVoteRequest (node : RaftNode) (req : RaftVoteRequest) : RaftNode × RaftVoteResponse :=
  let node := if node.currentTerm < req.term then node.becomeFollower req.term else node
  if req.term < node.currentTerm then
    (node, ⟨node.currentTerm, false⟩)
  else if (node.votedFor.map fun v => v != req.candidateId).getD false then
    (node, ⟨node.currentTerm, false⟩)
  else
    let (ourLastIndex, ourLastTerm) := node.lastLogPosition
    let logOk := ourLastTerm < req.lastLogTerm ∨
      (req.lastLogTerm = ourLastTerm ∧ ourLastIndex ≤ req.lastLogIndex)
    if ¬logOk then
      (node, ⟨node.currentTerm, false⟩)
    else
      ({ node with votedFor := some req.candidateId }, ⟨node.currentTerm, true⟩)

/-- Skip a compacted entry, cut at a conflicting one, add a missing one. -/
def pushEntry (snapshotIndex : ℕ) (log : List RaftLogEntry) (entry : RaftLogEntry) :
    List RaftLogEntry :=
  if entry.index ≤ snapshotIndex then log
  else
    let phys := entry.index - snapshotIndex - 1
    match log[phys]? with
    | some e => if e.term ≠ entry.term then log.take phys ++ [entry] else log
    | none => log ++ [entry]

theorem pushEntry_of_le (h : entry.index ≤ s) : pushEntry s log entry = log := if_pos h

theorem pushEntry_of_none (h : s < entry.index) (hget : log[entry.index - s - 1]? = none) :
    pushEntry s log entry = log ++ [entry] := by
  simp only [pushEntry, if_neg (not_le.mpr h), hget]

theorem pushEntry_of_some {e : RaftLogEntry}
    (h : s < entry.index) (hget : log[entry.index - s - 1]? = some e) :
    pushEntry s log entry =
      if e.term ≠ entry.term then log.take (entry.index - s - 1) ++ [entry] else log := by
  simp only [pushEntry, if_neg (not_le.mpr h), hget]

def pushEntries (node : RaftNode) (entries : List RaftLogEntry) : List RaftLogEntry :=
  entries.foldl (pushEntry node.snapshotIndex) node.log

/-- An entry that builds on nothing is not checked. -/
def prevMatches (node : RaftNode) (req : RaftAppendRequest) : Bool :=
  if 0 < req.prevLogIndex then
    if req.prevLogIndex = node.snapshotIndex then
      decide (req.prevLogTerm = node.snapshotTerm)
    else
      ((node.logEntryAt req.prevLogIndex).map fun e => e.term == req.prevLogTerm).getD false
  else true

def handleAppendEntries (node : RaftNode) (req : RaftAppendRequest) :
    RaftNode × RaftAppendResponse :=
  if req.term < node.currentTerm then
    (node, ⟨node.currentTerm, false, node.lastLogPosition.1⟩)
  else
    let node := node.hearLeader req.term
    if ¬node.prevMatches req then
      (node, ⟨node.currentTerm, false, node.lastLogPosition.1⟩)
    else
      let node := { node with log := node.pushEntries req.entries }
      let node := if node.commitIndex < req.leaderCommit then
          { node with commitIndex := min req.leaderCommit node.lastLogPosition.1 }
        else node
      (node, ⟨node.currentTerm, true, node.lastLogPosition.1⟩)

def handleInstallSnapshot (node : RaftNode) (req : RaftInstallSnapshotRequest) :
    RaftNode × RaftInstallSnapshotResponse :=
  if req.term < node.currentTerm then
    (node, ⟨node.currentTerm, false⟩)
  else
    let node := node.hearLeader req.term
    if req.snapshotIndex ≤ node.snapshotIndex then
      (node, ⟨node.currentTerm, true⟩)
    else
      ({ node with
        log := node.log.filter fun e => req.snapshotIndex < e.index
        snapshotIndex := req.snapshotIndex
        snapshotTerm := req.snapshotTerm
        commitIndex := max node.commitIndex req.snapshotIndex
        lastApplied := max node.lastApplied req.snapshotIndex }, ⟨node.currentTerm, true⟩)

/-! ### Appending and compacting -/

/-- `lastApplied` jumps to it. -/
def appendCommand (node : RaftNode) (command : String) (totalPeers : ℕ) : RaftNode × ℕ :=
  let newIndex := node.lastLogPosition.1 + 1
  let node := { node with log := node.log ++ [⟨newIndex, node.currentTerm, command⟩] }
  let node := if node.lastApplied < newIndex then { node with lastApplied := newIndex } else node
  let node := if totalPeers = 0 ∧ node.commitIndex < newIndex then
      { node with commitIndex := newIndex }
    else node
  (node, newIndex)

def appendCommandPending (node : RaftNode) (command : String) (totalPeers : ℕ) : RaftNode × ℕ :=
  let newIndex := node.lastLogPosition.1 + 1
  let node := { node with log := node.log ++ [⟨newIndex, node.currentTerm, command⟩] }
  let node := if totalPeers = 0 ∧ node.commitIndex < newIndex then
      { node with commitIndex := newIndex }
    else node
  (node, newIndex)

def compactLog (node : RaftNode) (upToIndex : ℕ) : RaftNode :=
  if upToIndex ≤ node.snapshotIndex then node
  else match node.logEntryAt upToIndex with
    | some e =>
      { node with
        snapshotTerm := e.term
        log := node.log.filter fun e => upToIndex < e.index
        snapshotIndex := upToIndex }
    | none =>
      if node.lastLogPosition.1 ≤ upToIndex then
        { node with
          snapshotTerm := node.lastLogPosition.2
          log := []
          snapshotIndex := upToIndex }
      else
        { node with
          log := node.log.filter fun e => upToIndex < e.index
          snapshotIndex := upToIndex }

/-! ### What the methods leave alone

A method that only moves between roles touches neither the log nor the pointers into it; the lemmas
below say so field by field. -/

section

variable (node : RaftNode) (t : ℕ)

@[simp] theorem becomeFollower_nodeId : (node.becomeFollower t).nodeId = node.nodeId := by
  unfold becomeFollower
  split_ifs <;> rfl

@[simp] theorem becomeFollower_role : (node.becomeFollower t).role = .follower := rfl

@[simp] theorem becomeFollower_log : (node.becomeFollower t).log = node.log := by
  unfold becomeFollower
  split_ifs <;> rfl

@[simp] theorem becomeFollower_snapshotIndex :
    (node.becomeFollower t).snapshotIndex = node.snapshotIndex := by
  unfold becomeFollower
  split_ifs <;> rfl

@[simp] theorem becomeFollower_snapshotTerm :
    (node.becomeFollower t).snapshotTerm = node.snapshotTerm := by
  unfold becomeFollower
  split_ifs <;> rfl

@[simp] theorem becomeFollower_commitIndex :
    (node.becomeFollower t).commitIndex = node.commitIndex := by
  unfold becomeFollower
  split_ifs <;> rfl

@[simp] theorem becomeFollower_lastApplied :
    (node.becomeFollower t).lastApplied = node.lastApplied := by
  unfold becomeFollower
  split_ifs <;> rfl

@[simp] theorem becomeFollower_currentTerm :
    (node.becomeFollower t).currentTerm = max node.currentTerm t := by
  unfold becomeFollower
  split_ifs with h
  · exact (max_eq_right h.le).symm
  · exact (max_eq_left (not_lt.mp h)).symm

theorem becomeFollower_votedFor :
    (node.becomeFollower t).votedFor = if node.currentTerm < t then none else node.votedFor := by
  unfold becomeFollower
  split_ifs <;> rfl

@[simp] theorem hearLeader_nodeId : (node.hearLeader t).nodeId = node.nodeId :=
  node.becomeFollower_nodeId t

@[simp] theorem hearLeader_log : (node.hearLeader t).log = node.log :=
  node.becomeFollower_log t

@[simp] theorem hearLeader_snapshotIndex : (node.hearLeader t).snapshotIndex = node.snapshotIndex :=
  node.becomeFollower_snapshotIndex t

@[simp] theorem hearLeader_snapshotTerm : (node.hearLeader t).snapshotTerm = node.snapshotTerm :=
  node.becomeFollower_snapshotTerm t

@[simp] theorem hearLeader_commitIndex : (node.hearLeader t).commitIndex = node.commitIndex :=
  node.becomeFollower_commitIndex t

@[simp] theorem hearLeader_lastApplied : (node.hearLeader t).lastApplied = node.lastApplied :=
  node.becomeFollower_lastApplied t

@[simp] theorem hearLeader_role : (node.hearLeader t).role = .follower := rfl

@[simp] theorem hearLeader_currentTerm : (node.hearLeader t).currentTerm = max node.currentTerm t :=
  node.becomeFollower_currentTerm t

theorem hearLeader_votedFor :
    (node.hearLeader t).votedFor = if node.currentTerm < t then none else node.votedFor :=
  node.becomeFollower_votedFor t

theorem lastLogPosition_congr {n m : RaftNode} (hl : n.log = m.log)
    (hs : n.snapshotIndex = m.snapshotIndex) (ht : n.snapshotTerm = m.snapshotTerm) :
    n.lastLogPosition = m.lastLogPosition := by
  rw [lastLogPosition, lastLogPosition, hl, hs, ht]

@[simp] theorem becomeFollower_lastLogPosition :
    (node.becomeFollower t).lastLogPosition = node.lastLogPosition :=
  lastLogPosition_congr (by simp) (by simp) (by simp)

end

/-! ### What a call does

One lemma per call lists everything the call can do to the node, together with the guards that led
there; later proofs take a call apart with it and never open the definition again. -/

def observeTerm (node : RaftNode) (t : ℕ) : RaftNode :=
  if node.currentTerm < t then node.becomeFollower t else node

theorem handleVoteRequest_cases (node : RaftNode) (req : RaftVoteRequest) :
    ((node.handleVoteRequest req).1 = node.observeTerm req.term ∧
      (node.handleVoteRequest req).2.voteGranted = false) ∨
    ((node.handleVoteRequest req).1 =
        { node.observeTerm req.term with votedFor := some req.candidateId } ∧
      (node.handleVoteRequest req).2.voteGranted = true ∧
      node.currentTerm ≤ req.term ∧
      ((node.observeTerm req.term).votedFor = none ∨
        (node.observeTerm req.term).votedFor = some req.candidateId) ∧
      (node.lastLogPosition.2 < req.lastLogTerm ∨ (req.lastLogTerm = node.lastLogPosition.2 ∧
          node.lastLogPosition.1 ≤ req.lastLogIndex))) := by
  have hpos : (node.observeTerm req.term).lastLogPosition = node.lastLogPosition := by
    unfold observeTerm
    split_ifs
    · simp
    · rfl
  simp only [handleVoteRequest, ite_not]
  rw [show (if node.currentTerm < req.term then node.becomeFollower req.term else node) =
    node.observeTerm req.term from rfl]
  split_ifs with h1 h2 h3
  · exact Or.inl ⟨rfl, rfl⟩
  · exact Or.inl ⟨rfl, rfl⟩
  · refine Or.inr ⟨rfl, rfl, ?_, ?_, hpos ▸ h3⟩
    · by_contra hlt
      rw [observeTerm, if_neg (by omega)] at h1
      omega
    · rcases hv : (node.observeTerm req.term).votedFor with _ | v
      · exact Or.inl rfl
      · rw [hv] at h2
        exact Or.inr (by simpa using h2)
  · exact Or.inl ⟨rfl, rfl⟩

theorem handleAppendEntries_cases (node : RaftNode) (req : RaftAppendRequest) :
    (req.term < node.currentTerm ∧ (node.handleAppendEntries req).1 = node ∧
      (node.handleAppendEntries req).2.success = false) ∨
    (node.currentTerm ≤ req.term ∧ node.prevMatches req = false ∧
      (node.handleAppendEntries req).1 = node.hearLeader req.term ∧
      (node.handleAppendEntries req).2.success = false) ∨
    (node.currentTerm ≤ req.term ∧ node.prevMatches req = true ∧
      ∃ last, last = RaftNode.lastLogPosition { node with log := node.pushEntries req.entries } ∧
      (node.handleAppendEntries req).1 = { node.hearLeader req.term with
          log := node.pushEntries req.entries
          commitIndex := if node.commitIndex < req.leaderCommit then
            min req.leaderCommit last.1 else node.commitIndex } ∧
      (node.handleAppendEntries req).2.success = true ∧
      (node.handleAppendEntries req).2.matchIndex = last.1) := by
  have hprev : (node.hearLeader req.term).prevMatches req = node.prevMatches req := by
    simp [prevMatches, logEntryAt]
  rcases lt_or_ge req.term node.currentTerm with h1 | h1
  · rw [handleAppendEntries, if_pos h1]
    exact Or.inl ⟨h1, rfl, rfl⟩
  right
  rw [handleAppendEntries, if_neg (not_lt.mpr h1)]
  simp only [hprev]
  cases h2 : node.prevMatches req with
  | false => exact Or.inl ⟨h1, rfl, rfl, rfl⟩
  | true =>
    refine Or.inr ⟨h1, rfl, _, rfl, ?_⟩
    have hlog : (node.hearLeader req.term).pushEntries req.entries =
        node.pushEntries req.entries := by
      simp [pushEntries]
    simp only [not_true_eq_false, if_false, hlog, hearLeader_commitIndex]
    split_ifs <;> simp [lastLogPosition]

theorem handleInstallSnapshot_cases (node : RaftNode) (req : RaftInstallSnapshotRequest) :
    (req.term < node.currentTerm ∧ (node.handleInstallSnapshot req).1 = node ∧
      (node.handleInstallSnapshot req).2.success = false) ∨
    (node.currentTerm ≤ req.term ∧ req.snapshotIndex ≤ node.snapshotIndex ∧
      (node.handleInstallSnapshot req).1 = node.hearLeader req.term ∧
      (node.handleInstallSnapshot req).2.success = true) ∨
    (node.currentTerm ≤ req.term ∧ node.snapshotIndex < req.snapshotIndex ∧
      (node.handleInstallSnapshot req).1 = { node.hearLeader req.term with
          log := node.log.filter fun e => req.snapshotIndex < e.index
          snapshotIndex := req.snapshotIndex
          snapshotTerm := req.snapshotTerm
          commitIndex := max node.commitIndex req.snapshotIndex
          lastApplied := max node.lastApplied req.snapshotIndex } ∧
      (node.handleInstallSnapshot req).2.success = true) := by
  unfold handleInstallSnapshot
  simp only [hearLeader_snapshotIndex]
  split_ifs with h1 h2
  · exact Or.inl ⟨h1, rfl, rfl⟩
  · exact Or.inr (Or.inl ⟨not_lt.mp h1, h2, rfl, rfl⟩)
  · exact Or.inr (Or.inr ⟨not_lt.mp h1, not_le.mp h2, by simp, rfl⟩)

theorem compactLog_cases (node : RaftNode) (upTo : ℕ) :
    (upTo ≤ node.snapshotIndex ∧ node.compactLog upTo = node) ∨
    (node.snapshotIndex < upTo ∧ ∃ e, node.logEntryAt upTo = some e ∧ node.compactLog upTo =
        { node with
          snapshotTerm := e.term
          log := node.log.filter fun e => upTo < e.index
          snapshotIndex := upTo }) ∨
    (node.snapshotIndex < upTo ∧ node.logEntryAt upTo = none ∧ node.lastLogPosition.1 ≤ upTo ∧
      node.compactLog upTo =
        { node with snapshotTerm := node.lastLogPosition.2, log := [], snapshotIndex := upTo }) ∨
    (node.snapshotIndex < upTo ∧ node.logEntryAt upTo = none ∧ upTo < node.lastLogPosition.1 ∧
      node.compactLog upTo = { node with
          log := node.log.filter fun e => upTo < e.index
          snapshotIndex := upTo }) := by
  rcases le_or_gt upTo node.snapshotIndex with hs | hs
  · exact Or.inl ⟨hs, if_pos hs⟩
  right
  rw [compactLog, if_neg (not_le.mpr hs)]
  cases he : node.logEntryAt upTo with
  | some e => exact Or.inl ⟨hs, e, rfl, rfl⟩
  | none =>
    right
    dsimp only
    rcases le_or_gt node.lastLogPosition.1 upTo with hl | hl
    · exact Or.inl ⟨hs, rfl, hl, if_pos hl⟩
    · exact Or.inr ⟨hs, rfl, hl, if_neg (not_le.mpr hl)⟩

structure SameBallot (node node' : RaftNode) : Prop where
  nodeId : node'.nodeId = node.nodeId
  currentTerm : node'.currentTerm = node.currentTerm
  votedFor : node'.votedFor = node.votedFor
  role : node'.role = node.role

structure SameLog (node node' : RaftNode) : Prop where
  log : node'.log = node.log
  snapshotIndex : node'.snapshotIndex = node.snapshotIndex
  snapshotTerm : node'.snapshotTerm = node.snapshotTerm

theorem SameBallot.rfl {node : RaftNode} : node.SameBallot node :=
  ⟨.refl _, .refl _, .refl _, .refl _⟩

theorem SameLog.rfl {node : RaftNode} : node.SameLog node := ⟨.refl _, .refl _, .refl _⟩

theorem sameLog_hearLeader (node : RaftNode) (t : ℕ) : node.SameLog (node.hearLeader t) :=
  ⟨by simp, by simp, by simp⟩

theorem sameBallot_compactLog (node : RaftNode) (upTo : ℕ) :
    node.SameBallot (node.compactLog upTo) := by
  rcases node.compactLog_cases upTo with
    ⟨-, hn⟩ | ⟨-, e, -, hn⟩ | ⟨-, -, -, hn⟩ | ⟨-, -, -, hn⟩ <;>
  · rw [hn]
    exact ⟨rfl, rfl, rfl, rfl⟩

theorem appendCommand_eq (node : RaftNode) (c : String) (peers : ℕ) :
    (node.appendCommand c peers).1 =
      { node with
        log := node.log ++ [⟨node.lastLogPosition.1 + 1, node.currentTerm, c⟩]
        lastApplied := max node.lastApplied (node.lastLogPosition.1 + 1)
        commitIndex := if peers = 0 then max node.commitIndex (node.lastLogPosition.1 + 1)
          else node.commitIndex } := by
  unfold appendCommand
  by_cases hp : peers = 0 <;>
    rcases lt_or_ge node.lastApplied (node.lastLogPosition.1 + 1) with ha | ha <;>
    rcases lt_or_ge node.commitIndex (node.lastLogPosition.1 + 1) with hc | hc <;>
    simp [hp, ha, hc, le_of_lt, not_lt.mpr]

theorem appendCommandPending_eq (node : RaftNode) (c : String) (peers : ℕ) :
    (node.appendCommandPending c peers).1 =
      { node with
        log := node.log ++ [⟨node.lastLogPosition.1 + 1, node.currentTerm, c⟩]
        commitIndex := if peers = 0 then max node.commitIndex (node.lastLogPosition.1 + 1)
          else node.commitIndex } := by
  unfold appendCommandPending
  by_cases hp : peers = 0 <;>
    rcases lt_or_ge node.commitIndex (node.lastLogPosition.1 + 1) with hc | hc <;>
    simp [hp, hc, le_of_lt, not_lt.mpr]

theorem initLeaderIndices_frame (node : RaftNode) (ps : List String) :
    ∃ next mtch, node.initLeaderIndices ps =
      { node with nextIndex := next, matchIndex := mtch } := by
  have : ∀ (ps : List String) (n : ℕ) (node : RaftNode), ∃ next mtch,
      ps.foldl (fun node peer =>
        { node with
          nextIndex := node.nextIndex.insert peer n
          matchIndex := node.matchIndex.insert peer 0 }) node =
      { node with nextIndex := next, matchIndex := mtch } := by
    intro ps n
    induction ps with
    | nil => exact fun node => ⟨_, _, rfl⟩
    | cons p ps ih =>
      intro node
      obtain ⟨next, mtch, h⟩ := ih _
      exact ⟨next, mtch, h⟩
  exact this ps _ node

theorem foldl_ite_range' {P : ℕ → Prop} [DecidablePred P] (s n start : ℕ) :
    (List.range' s n).foldl (fun commit k => if P k then k else commit) start = start ∨
      ∃ k ∈ List.range' s n, (List.range' s n).foldl
        (fun commit k => if P k then k else commit) start = k ∧ P k ∧
        ∀ k' ∈ List.range' s n, k < k' → ¬ P k' := by
  induction n with
  | zero => exact Or.inl rfl
  | succ n ih =>
    rw [range'_concat, foldl_append, Nat.one_mul]
    by_cases hP : P (s + n)
    · refine Or.inr ⟨s + n, by simp, by simp [hP], hP, fun k' hk' hlt => ?_⟩
      simp only [mem_append, mem_range'_1, mem_singleton] at hk'
      omega
    · simp only [foldl_cons, foldl_nil, if_neg hP]
      rcases ih with ih | ⟨k, hk, heq, hPk, hlast⟩
      · exact Or.inl ih
      · refine Or.inr ⟨k, mem_append_left _ hk, heq, hPk, fun k' hk' hlt => ?_⟩
        rcases mem_append.mp hk' with hk' | hk'
        · exact hlast k' hk' hlt
        · rwa [mem_singleton.mp hk']

def recordMatch (node : RaftNode) (peer : String) (m : ℕ) : RaftNode :=
  { node with
    nextIndex := node.nextIndex.insert peer (m + 1)
    matchIndex := node.matchIndex.insert peer m }

theorem recordAppendSuccess_cases (node : RaftNode) (peer : String) (m total : ℕ) :
    node.recordAppendSuccess peer m total = node.recordMatch peer m ∨
    ∃ n ∈ List.range' (node.commitIndex + 1) (m - node.commitIndex),
      node.recordAppendSuccess peer m total =
        { node.recordMatch peer m with commitIndex := n } ∧
      (total + 1) / 2 ≤ 1 + (node.recordMatch peer m).replicatedOn n ∧
      ∀ n' ∈ List.range' (node.commitIndex + 1) (m - node.commitIndex), n < n' →
        ¬ (total + 1) / 2 ≤ 1 + (node.recordMatch peer m).replicatedOn n' := by
  rcases foldl_ite_range'
    (P := fun n => (total + 1) / 2 ≤ 1 + (node.recordMatch peer m).replicatedOn n)
    (node.commitIndex + 1) (m - node.commitIndex) node.commitIndex with h | ⟨n, hn, h, hq, hlast⟩
  · refine Or.inl ?_
    rw [recordAppendSuccess]
    exact congrArg (fun k => { node.recordMatch peer m with commitIndex := k }) h
  · refine Or.inr ⟨n, hn, ?_, hq, hlast⟩
    rw [recordAppendSuccess]
    exact congrArg (fun k => { node.recordMatch peer m with commitIndex := k }) h

theorem recordAppendSuccess_frame (node : RaftNode) (peer : String) (m total : ℕ) :
    (node.recordAppendSuccess peer m total).log = node.log ∧
      (node.recordAppendSuccess peer m total).snapshotIndex = node.snapshotIndex ∧
      (node.recordAppendSuccess peer m total).lastApplied = node.lastApplied ∧
      node.commitIndex ≤ (node.recordAppendSuccess peer m total).commitIndex := by
  rcases node.recordAppendSuccess_cases peer m total with h | ⟨n, hn, h, -, -⟩
  · rw [h]
    exact ⟨rfl, rfl, rfl, le_rfl⟩
  · rw [h]
    have := mem_range'_1.mp hn
    exact ⟨rfl, rfl, rfl, by dsimp only; omega⟩

end RaftNode

structure RaftDurableState where
  currentTerm : ℕ
  votedFor : Option String
  snapshotIndex : ℕ
  snapshotTerm : ℕ
  log : List RaftLogEntry

def RaftDurableState.fromNode (node : RaftNode) : RaftDurableState where
  currentTerm := node.currentTerm
  votedFor := node.votedFor
  snapshotIndex := node.snapshotIndex
  snapshotTerm := node.snapshotTerm
  log := node.log

/-- The pointers move past the snapshot. -/
def RaftNode.restoreDurable (node : RaftNode) (state : RaftDurableState) : RaftNode :=
  { node with
    currentTerm := state.currentTerm
    votedFor := state.votedFor
    snapshotIndex := state.snapshotIndex
    snapshotTerm := state.snapshotTerm
    log := state.log
    commitIndex := max node.commitIndex state.snapshotIndex
    lastApplied := max node.lastApplied state.snapshotIndex }

end VngDatabase.Raft
