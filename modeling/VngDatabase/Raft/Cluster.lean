import VngDatabase.Raft.Node
import VngDatabase.Transition

/-!
# A cluster of Raft nodes

The nodes of a cluster, the calls in flight between them and every step the service can take: the
tick loop of `helpers/raft_loop.rs`, the handlers of `handlers/raft.rs` and the client writes.
-/

namespace VngDatabase.Raft

open Option

structure Election where
  term : ℕ
  votesGranted : ℕ
  waiting : List String

structure Member where
  raft : RaftNode
  election : Option Election
  applying : List RaftLogEntry

inductive Message where
  | voteRequest (peer : String) (req : RaftVoteRequest)
  | voteResponse (peer : String) (req : RaftVoteRequest) (resp : RaftVoteResponse)
  | appendRequest (peer : String) (req : RaftAppendRequest)
  | appendResponse (peer : String) (req : RaftAppendRequest) (resp : RaftAppendResponse)
  | snapshotRequest (peer : String) (req : RaftInstallSnapshotRequest)
  | snapshotResponse (peer : String) (req : RaftInstallSnapshotRequest)
      (resp : RaftInstallSnapshotResponse)

/-- The cluster: its members, and everything ever sent. -/
structure Cluster where
  member : String → Member
  net : List Message

inductive Action where
  /-- One turn of the tick loop of `i`, with `heartbeat` on every third. -/
  | tick (i : String) (heartbeat : Bool) (rows : Finmap fun _ : String => RowData)
  | raftTick (i : String)
  | raftHeartbeat (i : String)
  | leaderPromotion (i : String)
  | deliver (k : ℕ)
  | voteLost (i peer : String)
  | finishElection (i : String)
  | appendCommand (i : String) (command : String)
  | appendCommandPending (i : String) (command : String)
  | collectCommitted (i : String)
  | finishApply (i : String)
  | compactIfNeeded (i : String)

def compactLogThreshold : ℕ := 500

namespace RaftNode

variable (node : RaftNode)

def voteRequestOf : RaftVoteRequest where
  term := node.currentTerm
  candidateId := node.nodeId
  lastLogIndex := node.log.length
  lastLogTerm := (node.log.getLast?.map RaftLogEntry.term).getD 0

def heartbeatTo (rows : Finmap fun _ : String => RowData) (peer : String) : Message :=
  let ni := (node.nextIndex.lookup peer).getD (node.commitIndex + 1)
  if ni ≤ node.snapshotIndex ∧ 0 < node.snapshotIndex then
    .snapshotRequest peer
      { term := node.currentTerm
        leaderId := node.nodeId
        snapshotIndex := node.snapshotIndex
        snapshotTerm := node.snapshotTerm
        rows := rows }
  else
    .appendRequest peer
      { term := node.currentTerm
        leaderId := node.nodeId
        prevLogIndex := ni - 1
        prevLogTerm := node.termAt (ni - 1)
        entries := node.log.filter fun e => ni ≤ e.index
        leaderCommit := node.commitIndex }

def committedEntries : List RaftLogEntry :=
  node.log.filter fun e => node.lastApplied + 1 ≤ e.index ∧ e.index ≤ node.commitIndex

def advanceLastApplied (entries : List RaftLogEntry) : RaftNode :=
  match entries.getLast? with
  | some e => if node.lastApplied < e.index then { node with lastApplied := e.index } else node
  | none => node

def compactIfNeeded : RaftNode :=
  if node.log.length < compactLogThreshold then node
  else if node.snapshotIndex < node.lastApplied then node.compactLog node.lastApplied
  else node

end RaftNode

namespace Cluster

variable (members : List String) (node : RaftNode)

def peers (i : String) : List String := members.filter fun j => j ≠ i

def init : Cluster where
  member i := { raft := .new i, election := none, applying := [] }
  net := []

def setMember (c : Cluster) (i : String) (m : Member) : Cluster :=
  { c with member := Function.update c.member i m }

def setRaft (c : Cluster) (i : String) (node : RaftNode) : Cluster :=
  c.setMember i { c.member i with raft := node }

def send (c : Cluster) (ms : List Message) : Cluster := { c with net := c.net ++ ms }

/-- A follower that times out sends vote calls, a leader its heartbeats. -/
def tick (c : Cluster) (i : String) (heartbeat : Bool)
    (rows : Finmap fun _ : String => RowData) : Cluster :=
  let m := c.member i
  let node := m.raft.tick
  if node.role = .candidate ∧ m.raft.role = .follower then
    (c.setMember i { m with
      raft := node
      election := some ⟨node.currentTerm, 1, peers members i⟩ }).send
        ((peers members i).map fun peer => .voteRequest peer node.voteRequestOf)
  else if node.role = .leader ∧ heartbeat then
    (c.setRaft i node).send ((peers members i).map (node.heartbeatTo rows))
  else c.setRaft i node

def joinVote (c : Cluster) (i peer : String) (granted : Bool) (e : Election) : Cluster :=
  c.setMember i { c.member i with
    election := some
      { e with
        votesGranted := if granted then e.votesGranted + 1 else e.votesGranted
        waiting := e.waiting.erase peer } }

/-- If it still stands in the term of the round. -/
def countVotes (c : Cluster) (i : String) (e : Election) : Cluster :=
  let m := c.member i
  let quorum := (members.length + 1) / 2
  if quorum ≤ e.votesGranted ∧ m.raft.role = .candidate ∧ m.raft.currentTerm = e.term then
    c.setMember i { m with
      raft := m.raft.becomeLeader.initLeaderIndices (peers members i)
      election := none }
  else c.setMember i { m with election := none }

def recordAppend (peer : String) (req : RaftAppendRequest) (resp : RaftAppendResponse) : RaftNode :=
  if node.role ≠ .leader ∨ node.currentTerm ≠ req.term then node
  else if resp.success then node.recordAppendSuccess peer resp.matchIndex members.length
  else node.recordAppendFailure peer

def recordSnapshot (peer : String) (req : RaftInstallSnapshotRequest)
    (resp : RaftInstallSnapshotResponse) : RaftNode :=
  if node.role ≠ .leader ∨ node.currentTerm ≠ req.term then node
  else if resp.success then
    { node with
      nextIndex := node.nextIndex.insert peer (req.snapshotIndex + 1)
      matchIndex := node.matchIndex.insert peer req.snapshotIndex }
  else node

/-- A vote reply is only read by its own round, and once per peer. -/
def deliver (c : Cluster) : Message → Option Cluster
  | .voteRequest peer req =>
    let (node, resp) := (c.member peer).raft.handleVoteRequest req
    some ((c.setRaft peer node).send [.voteResponse peer req resp])
  | .voteResponse peer req resp =>
    match (c.member req.candidateId).election with
    | some e =>
      if e.term = req.term ∧ peer ∈ e.waiting then
        some (c.joinVote req.candidateId peer resp.voteGranted e)
      else none
    | none => none
  | .appendRequest peer req =>
    let (node, resp) := (c.member peer).raft.handleAppendEntries req
    some ((c.setRaft peer node).send [.appendResponse peer req resp])
  | .appendResponse peer req resp =>
    some (c.setRaft req.leaderId
      (recordAppend members (c.member req.leaderId).raft peer req resp))
  | .snapshotRequest peer req =>
    let (node, resp) := (c.member peer).raft.handleInstallSnapshot req
    some ((c.setRaft peer node).send [.snapshotResponse peer req resp])
  | .snapshotResponse peer req resp =>
    some (c.setRaft req.leaderId
      (recordSnapshot (c.member req.leaderId).raft peer req resp))

def step (c : Cluster) : Action → Option Cluster
  | .tick i heartbeat rows =>
    if i ∈ members ∧ (c.member i).election = none then some (c.tick members i heartbeat rows)
    else none
  | .raftTick i =>
    if i ∈ members then some (c.setRaft i (c.member i).raft.tick) else none
  | .raftHeartbeat i =>
    if i ∈ members then some (c.setRaft i { (c.member i).raft with ticksSinceHeartbeat := 0 })
    else none
  | .leaderPromotion i =>
    if i ∈ members ∧ (c.member i).raft.role ≠ .leader then
      some (c.setRaft i (c.member i).raft.becomeCandidate)
    else none
  | .deliver k => c.net[k]?.bind (c.deliver members)
  | .voteLost i peer =>
    match (c.member i).election with
    | some e => if peer ∈ e.waiting then some (c.joinVote i peer false e) else none
    | none => none
  | .finishElection i =>
    match (c.member i).election with
    | some e => if e.waiting = [] then some (c.countVotes members i e) else none
    | none => none
  | .appendCommand i command =>
    if i ∈ members ∧ (c.member i).raft.role = .leader then
      some (c.setRaft i ((c.member i).raft.appendCommand command (peers members i).length).1)
    else none
  | .appendCommandPending i command =>
    if i ∈ members ∧ (c.member i).raft.role = .leader then
      some (c.setRaft i
        ((c.member i).raft.appendCommandPending command (peers members i).length).1)
    else none
  | .collectCommitted i =>
    if i ∈ members ∧ (c.member i).applying = [] then
      some (c.setMember i { c.member i with applying := (c.member i).raft.committedEntries })
    else none
  | .finishApply i =>
    if (c.member i).applying ≠ [] then
      some (c.setMember i { c.member i with
        raft := (c.member i).raft.advanceLastApplied (c.member i).applying
        applying := [] })
    else none
  | .compactIfNeeded i =>
    if i ∈ members then some (c.setRaft i (c.member i).raft.compactIfNeeded) else none

def threeNodes : List String := ["node-1", "node-2", "node-3"]

def ticks (i : String) (n : ℕ) : List Action := List.replicate n (.tick i false ∅)

def heartbeat (i : String) : Action := .tick i true ∅

def run (c : Cluster) (as : List Action) : Option Cluster := Transition.run (step members) c as

def Step (c c' : Cluster) : Prop := ∃ a, c.step members a = some c'

def Reachable (c : Cluster) : Prop := Relation.ReflTransGen (Step members) init c

def ReachableIf (good : Cluster → Action → Prop) (c : Cluster) : Prop :=
  Transition.ReachableIf (step members) good init c

variable {members}

/-! ### What a step does

`Cluster.Effect` lists everything a step can do to the cluster, with the guards that led there.
Every invariant below goes by cases on it. -/

section

variable {c c' : Cluster} {a : Action} {i j peer : String} {k : ℕ}

@[simp] theorem setMember_self (c : Cluster) (i : String) (m : Member) :
    (c.setMember i m).member i = m := Function.update_self ..

theorem setMember_of_ne (c : Cluster) (m : Member) (h : j ≠ i) :
    (c.setMember i m).member j = c.member j := Function.update_of_ne h ..

@[simp] theorem setMember_setMember (c : Cluster) (i : String) (m m' : Member) :
    (c.setMember i m).setMember i m' = c.setMember i m' := by
  simp [setMember]

@[simp] theorem setMember_eq_self (c : Cluster) (i : String) : c.setMember i (c.member i) = c := by
  simp [setMember]

@[simp] theorem send_member (c : Cluster) (ms : List Message) : (c.send ms).member = c.member := rfl

@[simp] theorem setMember_net (c : Cluster) (i : String) (m : Member) :
    (c.setMember i m).net = c.net := rfl

@[simp] theorem send_net (c : Cluster) (ms : List Message) : (c.send ms).net = c.net ++ ms := rfl

@[simp] theorem send_nil (c : Cluster) : c.send [] = c := by
  simp [send]

/-- Only the clock, next indices and the apply pointer may have moved. -/
def Quiet (node' : RaftNode) : Prop :=
  ∃ ticks next applied, node' =
    { node with ticksSinceHeartbeat := ticks, nextIndex := next, lastApplied := applied }

theorem Quiet.refl : Quiet node node := ⟨_, _, _, rfl⟩

theorem tick_cases : (node.role = .follower ∧
      node.tick = { node.becomeCandidate with ticksSinceHeartbeat := 0 }) ∨
    node.tick = { node with ticksSinceHeartbeat := node.ticksSinceHeartbeat + 1 } := by
  unfold RaftNode.tick
  dsimp only
  split_ifs with h
  · exact Or.inl ⟨h.1, rfl⟩
  · exact Or.inr rfl

/-- **Everything a step can do.** -/
inductive Effect (members : List String) (c : Cluster) : Action → Cluster → Prop
  | quiet {a : Action} (i : String) (m : Member) :
      Quiet (c.member i).raft m.raft → m.election = (c.member i).election →
      (∀ e ∈ m.applying, e ∈ (c.member i).applying ∨ e ∈ (c.member i).raft.committedEntries) →
      Effect members c a (c.setMember i m)
  | heartbeat {a : Action} (i : String) (node : RaftNode)
      (rows : Finmap fun _ : String => RowData) : Quiet (c.member i).raft node →
      node.role = .leader →
      Effect members c a ((c.setRaft i node).send ((peers members i).map (node.heartbeatTo rows)))
  | stand {a : Action} (i : String) (ticks : ℕ) : (c.member i).raft.role ≠ .leader →
      Effect members c a
        (c.setRaft i { (c.member i).raft.becomeCandidate with ticksSinceHeartbeat := ticks })
  | campaign {a : Action} (i : String) (node : RaftNode) : i ∈ members →
      (c.member i).raft.role = .follower →
      node = { (c.member i).raft.becomeCandidate with ticksSinceHeartbeat := 0 } →
      Effect members c a
        ((c.setMember i { c.member i with
          raft := node
          election := some ⟨node.currentTerm, 1, peers members i⟩ }).send
            ((peers members i).map fun peer => .voteRequest peer node.voteRequestOf))
  | vote {k : ℕ} (peer : String) (req : RaftVoteRequest) :
      c.net[k]? = some (.voteRequest peer req) →
      Effect members c (.deliver k)
        ((c.setRaft peer ((c.member peer).raft.handleVoteRequest req).1).send
          [.voteResponse peer req ((c.member peer).raft.handleVoteRequest req).2])
  | join {a : Action} (i peer : String) (granted : Bool) (e : Election) :
      (c.member i).election = some e → peer ∈ e.waiting →
      (granted = true → ∃ req resp, .voteResponse peer req resp ∈ c.net ∧
        resp.voteGranted = true ∧ req.candidateId = i ∧ req.term = e.term) →
      Effect members c a (c.joinVote i peer granted e)
  | lead {a : Action} (i : String) (e : Election) : (c.member i).election = some e →
      (members.length + 1) / 2 ≤ e.votesGranted → (c.member i).raft.role = .candidate →
      (c.member i).raft.currentTerm = e.term →
      Effect members c a
        (c.setMember i { c.member i with
          raft := (c.member i).raft.becomeLeader.initLeaderIndices (peers members i)
          election := none })
  | abandon {a : Action} (i : String) :
      Effect members c a (c.setMember i { c.member i with election := none })
  | append {k : ℕ} (peer : String) (req : RaftAppendRequest) :
      c.net[k]? = some (.appendRequest peer req) →
      Effect members c (.deliver k)
        ((c.setRaft peer ((c.member peer).raft.handleAppendEntries req).1).send
          [.appendResponse peer req ((c.member peer).raft.handleAppendEntries req).2])
  | appended {k : ℕ} (peer : String) (req : RaftAppendRequest) (resp : RaftAppendResponse) :
      c.net[k]? = some (.appendResponse peer req resp) →
      (c.member req.leaderId).raft.role = .leader →
      (c.member req.leaderId).raft.currentTerm = req.term → resp.success = true →
      Effect members c (.deliver k)
        (c.setRaft req.leaderId ((c.member req.leaderId).raft.recordAppendSuccess peer
          resp.matchIndex members.length))
  | snapshot {k : ℕ} (peer : String) (req : RaftInstallSnapshotRequest) :
      c.net[k]? = some (.snapshotRequest peer req) →
      Effect members c (.deliver k)
        ((c.setRaft peer ((c.member peer).raft.handleInstallSnapshot req).1).send
          [.snapshotResponse peer req ((c.member peer).raft.handleInstallSnapshot req).2])
  | snapshotted {k : ℕ} (peer : String) (req : RaftInstallSnapshotRequest)
      (resp : RaftInstallSnapshotResponse) :
      c.net[k]? = some (.snapshotResponse peer req resp) →
      (c.member req.leaderId).raft.role = .leader →
      (c.member req.leaderId).raft.currentTerm = req.term → resp.success = true →
      Effect members c (.deliver k)
        (c.setRaft req.leaderId { (c.member req.leaderId).raft with
          nextIndex := (c.member req.leaderId).raft.nextIndex.insert peer (req.snapshotIndex + 1)
          matchIndex := (c.member req.leaderId).raft.matchIndex.insert peer req.snapshotIndex })
  | command (i : String) (command : String) : (c.member i).raft.role = .leader →
      Effect members c (.appendCommand i command) (c.setRaft i
        ((c.member i).raft.appendCommand command (peers members i).length).1)
  | pending (i : String) (command : String) : (c.member i).raft.role = .leader →
      Effect members c (.appendCommandPending i command) (c.setRaft i
        ((c.member i).raft.appendCommandPending command (peers members i).length).1)
  | compact (i : String) : compactLogThreshold ≤ (c.member i).raft.log.length →
      (c.member i).raft.snapshotIndex < (c.member i).raft.lastApplied →
      Effect members c (.compactIfNeeded i) (c.setRaft i
        ((c.member i).raft.compactLog (c.member i).raft.lastApplied))

theorem quiet_setRaft {a : Action} (i : String) {node : RaftNode}
    (h : Quiet (c.member i).raft node) : Effect members c a (c.setRaft i node) :=
  .quiet i { c.member i with raft := node } h rfl fun _ => Or.inl

theorem effect_tick {a : Action} (hi : i ∈ members) (heartbeat : Bool)
    (rows : Finmap fun _ : String => RowData) :
    Effect members c a (c.tick members i heartbeat rows) := by
  unfold tick
  dsimp only
  rcases tick_cases (c.member i).raft with ⟨hrole, ht⟩ | ht
  · rw [if_pos (by rw [ht]; exact ⟨rfl, hrole⟩)]
    exact .campaign i _ hi hrole ht
  · have hq : Quiet (c.member i).raft (c.member i).raft.tick := ⟨_, _, _, ht⟩
    have hrole : (c.member i).raft.tick.role = (c.member i).raft.role := by rw [ht]
    rw [if_neg (by rw [hrole]; rintro ⟨h1, h2⟩; simp [h1] at h2)]
    split_ifs with hlead
    · exact .heartbeat i _ rows hq hlead.1
    · exact quiet_setRaft i hq

theorem effect_raftTick {a : Action} (i : String) :
    Effect members c a (c.setRaft i (c.member i).raft.tick) := by
  rcases tick_cases (c.member i).raft with ⟨hrole, ht⟩ | ht
  · rw [ht]
    exact .stand i 0 (by simp [hrole])
  · exact quiet_setRaft i ⟨_, _, _, ht⟩

theorem effect_recordAppend {req : RaftAppendRequest} {resp : RaftAppendResponse}
    (hk : c.net[k]? = some (.appendResponse peer req resp)) :
    Effect members c (.deliver k) (c.setRaft req.leaderId
      (recordAppend members (c.member req.leaderId).raft peer req resp)) := by
  unfold recordAppend
  split_ifs with h1 h2
  · exact quiet_setRaft _ (.refl _)
  · push Not at h1
    exact .appended peer req resp hk h1.1 h1.2 h2
  · exact quiet_setRaft _ ⟨_, _, _, rfl⟩

theorem effect_recordSnapshot {req : RaftInstallSnapshotRequest}
    {resp : RaftInstallSnapshotResponse} (hk : c.net[k]? = some (.snapshotResponse peer req resp)) :
    Effect members c (.deliver k) (c.setRaft req.leaderId
      (recordSnapshot (c.member req.leaderId).raft peer req resp)) := by
  unfold recordSnapshot
  split_ifs with h1 h2
  · exact quiet_setRaft _ (.refl _)
  · push Not at h1
    exact .snapshotted peer req resp hk h1.1 h1.2 h2
  · exact quiet_setRaft _ (.refl _)

theorem effect_deliver {m : Message} (hk : c.net[k]? = some m)
    (h : c.deliver members m = some c') : Effect members c (.deliver k) c' := by
  cases m with
  | voteRequest peer req =>
    obtain rfl := some.inj h
    exact .vote peer req hk
  | voteResponse peer req resp =>
    rcases he : (c.member req.candidateId).election with _ | e
    · simp [deliver, he] at h
    · simp only [deliver, he, ite_none_right_eq_some] at h
      obtain ⟨⟨hterm, hwait⟩, h⟩ := h
      obtain rfl := some.inj h
      exact .join _ peer _ e he hwait
        fun hg => ⟨req, resp, List.mem_of_getElem? hk, hg, rfl, hterm.symm⟩
  | appendRequest peer req =>
    obtain rfl := some.inj h
    exact .append peer req hk
  | appendResponse peer req resp =>
    obtain rfl := some.inj h
    exact effect_recordAppend hk
  | snapshotRequest peer req =>
    obtain rfl := some.inj h
    exact .snapshot peer req hk
  | snapshotResponse peer req resp =>
    obtain rfl := some.inj h
    exact effect_recordSnapshot hk

theorem quiet_advanceLastApplied (es : List RaftLogEntry) :
    Quiet node (node.advanceLastApplied es) := by
  unfold RaftNode.advanceLastApplied
  split
  · split_ifs
    · exact ⟨_, _, _, rfl⟩
    · exact .refl _
  · exact .refl _

theorem effect_of_step (h : c.step members a = some c') : Effect members c a c' := by
  cases a with
  | tick i heartbeat rows =>
    obtain ⟨⟨hi, -⟩, h⟩ := ite_none_right_eq_some.mp h
    obtain rfl := some.inj h
    exact effect_tick hi heartbeat rows
  | raftTick i =>
    obtain ⟨-, h⟩ := ite_none_right_eq_some.mp h
    obtain rfl := some.inj h
    exact effect_raftTick i
  | raftHeartbeat i =>
    obtain ⟨-, h⟩ := ite_none_right_eq_some.mp h
    obtain rfl := some.inj h
    exact quiet_setRaft i ⟨_, _, _, rfl⟩
  | leaderPromotion i =>
    obtain ⟨⟨-, hrole⟩, h⟩ := ite_none_right_eq_some.mp h
    obtain rfl := some.inj h
    exact .stand i _ hrole
  | deliver k =>
    obtain ⟨m, hk, h⟩ := bind_eq_some_iff.mp h
    exact effect_deliver hk h
  | voteLost i peer =>
    rcases he : (c.member i).election with _ | e
    · simp [step, he] at h
    · simp only [step, he, ite_none_right_eq_some] at h
      obtain ⟨hwait, h⟩ := h
      obtain rfl := some.inj h
      exact .join i peer false e he hwait (by simp)
  | finishElection i =>
    rcases he : (c.member i).election with _ | e
    · simp [step, he] at h
    · simp only [step, he, ite_none_right_eq_some] at h
      obtain ⟨-, h⟩ := h
      obtain rfl := some.inj h
      unfold countVotes
      dsimp only
      split_ifs with hv
      · exact .lead i e he hv.1 hv.2.1 hv.2.2
      · exact .abandon i
  | appendCommand i command =>
    obtain ⟨⟨-, hrole⟩, h⟩ := ite_none_right_eq_some.mp h
    obtain rfl := some.inj h
    exact .command i command hrole
  | appendCommandPending i command =>
    obtain ⟨⟨-, hrole⟩, h⟩ := ite_none_right_eq_some.mp h
    obtain rfl := some.inj h
    exact .pending i command hrole
  | collectCommitted i =>
    obtain ⟨-, h⟩ := ite_none_right_eq_some.mp h
    obtain rfl := some.inj h
    exact .quiet i _ (.refl _) rfl fun _ => Or.inr
  | finishApply i =>
    obtain ⟨-, h⟩ := ite_none_right_eq_some.mp h
    obtain rfl := some.inj h
    exact .quiet i _ (quiet_advanceLastApplied _ _) rfl (by simp)
  | compactIfNeeded i =>
    obtain ⟨-, h⟩ := ite_none_right_eq_some.mp h
    obtain rfl := some.inj h
    unfold RaftNode.compactIfNeeded
    split_ifs with h1 h2
    · exact quiet_setRaft i (.refl _)
    · exact .compact i (not_lt.mp h1) h2
    · exact quiet_setRaft i (.refl _)

end

end Cluster

end VngDatabase.Raft
