import VngDatabase.Raft.StateMachineSafety

/-!
# Acknowledged writes of the linearisable path

On a leader with peers, `sql_execute` appends every statement of the batch as a pending command,
remembers the largest index, and waits until the apply loop reports a `lastApplied` that has reached
it.
-/

namespace VngDatabase.Raft

open Consensus List Option

/-! ### Batches -/

variable {p : ℕ × String} {b : Batch}

structure Batch where
  node : String
  /-- The handler does not keep it. -/
  term : ℕ
  pending : List (ℕ × String)
  deriving DecidableEq

def Batch.maxPendingIndex (b : Batch) : ℕ :=
  b.pending.foldl (fun m p => if m < p.1 then p.1 else m) 0

def RaftNode.appendAllPending (totalPeers : ℕ) (node : RaftNode) :
    List String → RaftNode × List (ℕ × String)
  | [] => (node, [])
  | command :: commands =>
    let (node, index) := node.appendCommandPending command totalPeers
    let (node, rest) := appendAllPending totalPeers node commands
    (node, (index, command) :: rest)

def Action.reporter : Action → Option String
  | .finishApply i => some i
  | _ => none

structure Service where
  cluster : Cluster
  lastAppliedTx : String → ℕ
  admitted : List (String × List String)
  waiting : List Batch
  answered : List Batch

inductive ServiceAction
  | cluster (a : Action)
  | checkRole (i : String) (commands : List String)
  | append (k : ℕ)
  | answer (k : ℕ)
  | timeout (k : ℕ)

namespace Service

def init : Service := ⟨.init, fun _ => 0, [], [], []⟩

variable (members : List String) (s : Service)

def step : ServiceAction → Option Service
  | .cluster a => (s.cluster.step members a).map fun c =>
    { s with
      cluster := c
      lastAppliedTx := match a.reporter with
        | some i => Function.update s.lastAppliedTx i (c.member i).raft.lastApplied
        | none => s.lastAppliedTx }
  | .checkRole i commands =>
    if i ∈ members ∧ (s.cluster.member i).raft.role = .leader ∧
        0 < (Cluster.peers members i).length ∧ commands ≠ [] then
      some { s with admitted := s.admitted ++ [(i, commands)] }
    else none
  -- nothing checks the role again
  | .append k => s.admitted[k]?.map fun r =>
    let node := (s.cluster.member r.1).raft
    let (node', pending) := node.appendAllPending (Cluster.peers members r.1).length r.2
    { s with
      cluster := s.cluster.setRaft r.1 node'
      admitted := s.admitted.eraseIdx k
      waiting := s.waiting ++ [⟨r.1, node.currentTerm, pending⟩] }
  | .answer k =>
    match s.waiting[k]? with
    | some b =>
      if b.maxPendingIndex ≤ s.lastAppliedTx b.node then
        some { s with
          waiting := s.waiting.eraseIdx k
          answered := s.answered ++ [b] }
      else none
    | none => none
  | .timeout k => if k < s.waiting.length then
      some { s with waiting := s.waiting.eraseIdx k }
    else none

/-- **An acknowledged batch is committed**, wherever its indices are. -/
def Durable (b : Batch) : Prop :=
  ∀ p ∈ b.pending, p.1 ≤ (s.cluster.member b.node).raft.commitIndex ∧
    ∀ j, p.1 ≤ (s.cluster.member j).raft.commitIndex →
      ((s.cluster.member j).raft.logEntryAt p.1).map RaftLogEntry.command = some p.2

def ClusterChecks (c : Cluster) (a : Action) : Prop :=
  Cluster.CommitsOwn members c a ∧
    ∀ i ∈ a.reporter, (c.member i).raft.lastApplied ≤ (c.member i).raft.commitIndex

/-- **The node leads when it appends**, and its entries stand when it answers. -/
def ChecksEntries : ServiceAction → Prop
  | .cluster a => ClusterChecks members s.cluster a
  | .append k => ∀ r ∈ s.admitted[k]?, (s.cluster.member r.1).raft.role = .leader
  | .answer k => ∀ b ∈ s.waiting[k]?, ∀ p ∈ b.pending,
      ((s.cluster.member b.node).raft.logEntryAt p.1).map RaftLogEntry.term = some b.term
  | _ => True

end Service

theorem RaftNode.commitIndex_le_appendAllPending (totalPeers : ℕ) (node : RaftNode)
    (commands : List String) :
    node.commitIndex ≤ (node.appendAllPending totalPeers commands).1.commitIndex := by
  induction commands generalizing node with
  | nil => exact le_rfl
  | cons command commands ih =>
    refine le_trans ?_ (ih (node.appendCommandPending command totalPeers).1)
    rw [appendCommandPending_eq]
    dsimp only
    split_ifs <;> omega

theorem Batch.le_maxPendingIndex (hp : p ∈ b.pending) :
    p.1 ≤ b.maxPendingIndex := by
  have hfold : ∀ (l : List (ℕ × String)) (m : ℕ),
      m ≤ l.foldl (fun m p => if m < p.1 then p.1 else m) m ∧
        ∀ p ∈ l, p.1 ≤ l.foldl (fun m p => if m < p.1 then p.1 else m) m := by
    intro l
    induction l with
    | nil => exact fun m => ⟨le_rfl, by simp⟩
    | cons q l ih =>
      intro m
      obtain ⟨h1, h2⟩ := ih (if m < q.1 then q.1 else m)
      have hq : m ≤ (if m < q.1 then q.1 else m) ∧ q.1 ≤ (if m < q.1 then q.1 else m) := by
        split_ifs <;> omega
      refine ⟨hq.1.trans h1, fun p hp => ?_⟩
      rcases mem_cons.mp hp with rfl | hp
      · exact hq.2.trans h1
      · exact h2 p hp
  exact (hfold b.pending 0).2 p hp

namespace Cluster

variable {members : List String} {c c' : Cluster} {a a' : Replicas String RaftLogEntry}
  {i j : String}

def Onward (c c' : Cluster) (i : String) : Prop :=
  (c.member i).raft.commitIndex ≤ (c'.member i).raft.commitIndex ∧
    ∀ e ∈ (c'.member i).applying,
      e ∈ (c.member i).applying ∨ e ∈ (c.member i).raft.committedEntries

theorem onward_setMember (j : String) {m : Member} (ms : List Message)
    (hcom : (c.member j).raft.commitIndex ≤ m.raft.commitIndex)
    (happ : ∀ e ∈ m.applying, e ∈ (c.member j).applying ∨
      e ∈ (c.member j).raft.committedEntries) (i : String) :
    Onward c ((c.setMember j m).send ms) i := by
  rw [Onward, send_member]
  rcases eq_or_ne i j with rfl | hij
  · rw [setMember_self]
    exact ⟨hcom, happ⟩
  · rw [setMember_of_ne _ _ hij]
    exact ⟨le_rfl, fun _ => Or.inl⟩

theorem onward_setRaft (j : String) {node : RaftNode} (ms : List Message)
    (hcom : (c.member j).raft.commitIndex ≤ node.commitIndex) (i : String) :
    Onward c ((c.setRaft j node).send ms) i := by
  refine onward_setMember j ms ?_ ?_ i
  · exact hcom
  · exact fun _ => Or.inl

theorem setRaft_setRaft (c : Cluster) (i : String) (node node' : RaftNode) :
    (c.setRaft i node).setRaft i node' = c.setRaft i node' := by
  rw [setRaft, setRaft, setMember_setMember, setMember_self]
  rfl

theorem Commits.onward {x : Action} (h : Commits members c a) (hodd : Odd members.length)
    (hs : c.step members x = some c') (hown : CommitsOwn members c x) (i : String) :
    Onward c c' i := by
  have quiet : ∀ {node node' : RaftNode}, Quiet node node' →
      node'.commitIndex = node.commitIndex := by
    rintro node _ ⟨_, _, _, rfl⟩
    rfl
  cases effect_of_step hs with
  | quiet j m hq _ happ =>
    rw [← send_nil (c.setMember j m)]
    exact onward_setMember j [] (quiet hq).ge happ i
  | heartbeat j node rows hq _ => exact onward_setRaft j _ (quiet hq).ge i
  | stand j ticks _ =>
    rw [← send_nil (c.setRaft j _)]
    refine onward_setRaft j [] ?_ i
    exact le_rfl
  | campaign j node _ _ hn =>
    subst hn
    refine onward_setMember j _ ?_ ?_ i
    · exact le_rfl
    · exact fun _ => Or.inl
  | vote peer req _ =>
    have hobs : ((c.member peer).raft.observeTerm req.term).commitIndex =
        (c.member peer).raft.commitIndex := by
      rw [RaftNode.observeTerm]
      split_ifs <;> simp
    rcases (c.member peer).raft.handleVoteRequest_cases req with ⟨hn, -⟩ | ⟨hn, -⟩
    · rw [hn]
      exact onward_setRaft peer _ hobs.ge i
    · rw [hn]
      refine onward_setRaft peer _ ?_ i
      exact hobs.ge
  | join j peer granted e _ _ _ =>
    rw [← send_nil (c.joinVote j peer granted e)]
    refine onward_setMember j [] ?_ ?_ i
    · exact le_rfl
    · exact fun _ => Or.inl
  | lead j e _ _ _ _ =>
    obtain ⟨next, mtch, hinit⟩ :=
      (c.member j).raft.becomeLeader.initLeaderIndices_frame (peers members j)
    rw [← send_nil (c.setMember j _), hinit]
    refine onward_setMember j [] ?_ ?_ i
    · exact le_rfl
    · exact fun _ => Or.inl
  | abandon j =>
    rw [← send_nil (c.setMember j _)]
    refine onward_setMember j [] ?_ ?_ i
    · exact le_rfl
    · exact fun _ => Or.inl
  | append peer req hk =>
    refine onward_setRaft peer _ ?_ i
    rcases (c.member peer).raft.handleAppendEntries_cases req with
      ⟨-, hn, -⟩ | ⟨-, -, hn, -⟩ | ⟨-, hprev, last, hlast, hn, -, -⟩
    · rw [hn]
    · rw [hn, RaftNode.hearLeader_commitIndex]
    · have := h.leaderCommit_le_last hodd (mem_of_getElem? hk) hprev
      rw [← hlast] at this
      rw [hn]
      dsimp only
      split_ifs <;> omega
  | appended peer req resp _ _ _ _ =>
    rw [← send_nil (c.setRaft req.leaderId _)]
    exact onward_setRaft _ [] (RaftNode.recordAppendSuccess_frame ..).2.2.2 i
  | snapshot peer req hk => exact (h.message (mem_of_getElem? hk)).elim
  | snapshotted peer req resp hk => exact (h.message (mem_of_getElem? hk)).elim
  | command j command _ =>
    rw [← send_nil (c.setRaft j _)]
    refine onward_setRaft j [] ?_ i
    rw [RaftNode.appendCommand_eq]
    dsimp only
    split_ifs <;> omega
  | pending j command _ =>
    rw [← send_nil (c.setRaft j _)]
    refine onward_setRaft j [] ?_ i
    rw [RaftNode.appendCommandPending_eq]
    dsimp only
    split_ifs <;> omega
  | compact j _ _ => exact hown.elim

def Written (a : Replicas String RaftLogEntry) (term : ℕ) (p : ℕ × String) : Prop :=
  0 < p.1 ∧ (a.lead term)[p.1 - 1]? = some ⟨p.1, term, p.2⟩

theorem Written.mono {term : ℕ} (h : Written a term p) (hl : a.Later a') :
    Written a' term p := by
  refine ⟨h.1, ?_⟩
  rw [getElem?_of_isPrefix (hl.lead term) (List.getElem?_eq_some_iff.mp h.2).1]
  exact h.2

theorem Commits.written (h : Commits members c a) (hrole : (c.member i).raft.role = .leader)
    {k : ℕ} (hk : 0 < k) {command : String} (hget : (c.member i).raft.logEntryAt k =
      some ⟨k, (c.member i).raft.currentTerm, command⟩) :
    Written a (c.member i).raft.currentTerm (k, command) := by
  have hnode := h.holds.node i
  obtain ⟨-, hlead⟩ := hnode.leads hrole
  rw [hnode.views.logEntryAt (by rw [(h.node i).snapshotIndex]; exact hk), ← hlead,
    ← (h.holds.records.node i).term] at hget
  exact ⟨hk, hget⟩

theorem Commits.appendAllPending (h : Commits members c a) (hnd : members.Nodup)
    (hodd : Odd members.length) (hrole : (c.member i).raft.role = .leader)
    (commands : List String) :
    ∃ a', Runs members a a' ∧
      Commits members (c.setRaft i ((c.member i).raft.appendAllPending
        (peers members i).length commands).1) a' ∧
      ∀ p ∈ ((c.member i).raft.appendAllPending (peers members i).length commands).2,
        Written a' (c.member i).raft.currentTerm p := by
  induction commands generalizing c a with
  | nil =>
    refine ⟨a, .refl, ?_, by simp [RaftNode.appendAllPending]⟩
    rw [RaftNode.appendAllPending, setRaft, setMember_eq_self]
    exact h
  | cons command commands ih =>
    -- the first command is a step of the cluster, the rest continues from there
    obtain ⟨node₁, hnode₁⟩ : ∃ node₁, node₁ = ((c.member i).raft.appendCommandPending command
      (peers members i).length).1 := ⟨_, rfl⟩
    have hmem := (h.holds.records.node i).mem hrole
    have hstep : c.step members (.appendCommandPending i command) = some (c.setRaft i node₁) := by
      rw [hnode₁]
      exact if_pos ⟨hmem, hrole⟩
    have hrest : (c.member i).raft.appendAllPending (peers members i).length (command :: commands) =
        ((node₁.appendAllPending (peers members i).length commands).1,
          ((c.member i).raft.lastLogPosition.1 + 1, command) ::
            (node₁.appendAllPending (peers members i).length commands).2) := by
      rw [hnode₁]
      rfl
    obtain ⟨a₁, hrun₁, h₁⟩ := h.step hnd hodd hstep trivial
    have hraft : ((c.setRaft i node₁).member i).raft = node₁ := by
      rw [setRaft, setMember_self]
    rw [RaftNode.appendCommandPending_eq] at hnode₁
    have hrole₁ : ((c.setRaft i node₁).member i).raft.role = .leader := by
      rw [hraft, hnode₁]
      exact hrole
    have hterm₁ : ((c.setRaft i node₁).member i).raft.currentTerm =
        (c.member i).raft.currentTerm := by rw [hraft, hnode₁]
    have hlast := (h.holds.node i).views.logIndexed.lastLogPosition_fst
    have hsnap := (h.node i).snapshotIndex
    have hfst : Written a₁ (c.member i).raft.currentTerm
        ((c.member i).raft.lastLogPosition.1 + 1, command) := by
      rw [← hterm₁]
      refine h₁.written hrole₁ (Nat.succ_pos _) ?_
      rw [hterm₁, hraft, hnode₁, RaftNode.logEntryAt, if_neg (by dsimp only; omega)]
      dsimp only
      rw [hlast, hsnap, Nat.zero_add, Nat.sub_zero]
      exact getElem?_concat_length
    obtain ⟨a₂, hrun₂, h₂, hwrt⟩ := ih h₁ hrole₁
    rw [hraft, setRaft_setRaft] at h₂
    rw [hraft] at hwrt
    refine ⟨a₂, hrun₁.trans hrun₂, ?_, ?_⟩
    · rw [hrest]
      exact h₂
    · rw [hrest]
      rintro p (_ | ⟨_, hp⟩)
      · exact hfst.mono (h₁.later hrun₂)
      · rw [← hterm₁, hraft]
        exact hwrt p hp

end Cluster

/-! ### The invariant of the service -/

namespace Service

variable {members : List String} {s s' : Service} {a a' : Replicas String RaftLogEntry}

variable (members) in
def Kept (a : Replicas String RaftLogEntry) (p : ℕ × String) : Prop :=
  0 < p.1 ∧ ∃ T l n e, a.Committed members.toFinset ((members.length + 1) / 2) RaftLogEntry.term
    T l n ∧ p.1 ≤ n ∧ l[p.1 - 1]? = some e ∧ e.command = p.2

theorem Kept.mono (h : Kept members a p) (hl : a.Later a') :
    Kept members a' p := by
  obtain ⟨hpos, T, l, n, e, hcomm, hn, hget, hcom⟩ := h
  exact ⟨hpos, T, l, n, e, hcomm.mono le_rfl hl fun _ _ => id, hn, hget, hcom⟩

variable (members) in
/-- What waits stands in the log of its term, and what is answered is committed. -/
structure Inv (s : Service) (a : Replicas String RaftLogEntry) : Prop where
  commits : Cluster.Commits members s.cluster a
  reported : ∀ i, s.lastAppliedTx i ≤ (s.cluster.member i).raft.commitIndex
  applying : ∀ i, ∀ e ∈ (s.cluster.member i).applying,
    e.index ≤ (s.cluster.member i).raft.commitIndex
  waiting : ∀ b ∈ s.waiting, ∀ p ∈ b.pending, Cluster.Written a b.term p
  answered : ∀ b ∈ s.answered, ∀ p ∈ b.pending,
    p.1 ≤ (s.cluster.member b.node).raft.commitIndex ∧ Kept members a p

variable (members) in
theorem inv_init : Inv members init Replicas.init where
  commits := Cluster.commits_init members
  reported _ := le_rfl
  applying _ e he := by simp [init, Cluster.init] at he
  waiting _ hb := by simp [init] at hb
  answered _ hb := by simp [init] at hb

theorem Inv.onward (h : Inv members s a) {c : Cluster} (hrun : Cluster.Runs members a a')
    (hc : Cluster.Commits members c a') (hon : ∀ i, Cluster.Onward s.cluster c i) :
    Inv members { s with cluster := c } a' where
  commits := hc
  reported i := (h.reported i).trans (hon i).1
  applying i e he := by
    refine le_trans ?_ (hon i).1
    rcases (hon i).2 e he with he | he
    · exact h.applying i e he
    · exact (of_decide_eq_true (mem_filter.mp he).2).2
  waiting b hb p hp := (h.waiting b hb p hp).mono (h.commits.later hrun)
  answered b hb p hp := by
    obtain ⟨hcom, hkept⟩ := h.answered b hb p hp
    exact ⟨hcom.trans (hon b.node).1, hkept.mono (h.commits.later hrun)⟩

theorem Inv.lastApplied_le_of_reporter (h : Inv members s a) {i : String} {c : Cluster} {x : Action}
    (hx : x.reporter = some i) (hc : s.cluster.step members x = some c)
    (hle : (s.cluster.member i).raft.lastApplied ≤ (s.cluster.member i).raft.commitIndex) :
    (c.member i).raft.lastApplied ≤ (s.cluster.member i).raft.commitIndex := by
  obtain rfl : x = .finishApply i := by
    cases x <;> simp_all [Action.reporter]
  obtain ⟨-, hc⟩ := ite_none_right_eq_some.mp hc
  obtain rfl := some.inj hc
  rw [Cluster.setMember_self, RaftNode.advanceLastApplied]
  split
  · rename_i e he
    have := h.applying i e (mem_of_getLast? he)
    split_ifs
    · exact this
    · exact hle
  · exact hle

theorem Inv.kept (h : Inv members s a) (hb : b ∈ s.waiting)
    (hp : p ∈ b.pending) (hcom : p.1 ≤ (s.cluster.member b.node).raft.commitIndex)
    (hterm : ((s.cluster.member b.node).raft.logEntryAt p.1).map RaftLogEntry.term =
      some b.term) : Kept members a p := by
  obtain ⟨hpos, hlead⟩ := h.waiting b hb p hp
  have hnode := h.commits.node b.node
  obtain ⟨e, he, het⟩ := Option.map_eq_some_iff.mp hterm
  rw [(h.commits.holds.node b.node).views.logEntryAt (by rw [hnode.snapshotIndex]; exact hpos)]
    at he
  refine ⟨hpos, _, _, _, e, hnode.committed, hcom, he, ?_⟩
  -- the log up to the entry is the beginning of the log of the term
  have hpre := h.commits.holds.inv.traced_log b.node _ e he
  rw [het] at hpre
  have hlt := (List.getElem?_eq_some_iff.mp he).1
  rw [getElem?_of_isPrefix hpre (by rw [List.length_take]; omega),
    List.getElem?_take_of_lt (Nat.lt_succ_self _), he] at hlead
  rw [Option.some.inj hlead]

theorem Inv.step (h : Inv members s a) (hnd : members.Nodup) (hodd : Odd members.length)
    {x : ServiceAction} (hgood : ChecksEntries members s x) (hs : s.step members x = some s') :
    ∃ a', Inv members s' a' := by
  cases x with
  | cluster x =>
    obtain ⟨c, hc, rfl⟩ := map_eq_some_iff.mp hs
    obtain ⟨a', hrun, ha'⟩ := h.commits.step hnd hodd hc hgood.1
    have hnew := h.onward hrun ha' fun i => h.commits.onward hodd hc hgood.1 i
    refine ⟨a', hnew.commits, fun i => ?_, hnew.applying, hnew.waiting, hnew.answered⟩
    dsimp only
    cases hx : x.reporter with
    | none => exact hnew.reported i
    | some j =>
      dsimp only
      rcases eq_or_ne i j with rfl | hij
      · rw [Function.update_self]
        exact (h.lastApplied_le_of_reporter hx hc (hgood.2 i hx)).trans
          (h.commits.onward hodd hc hgood.1 i).1
      · rw [Function.update_of_ne hij]
        exact hnew.reported i
  | checkRole i commands =>
    obtain ⟨-, hs⟩ := ite_none_right_eq_some.mp hs
    obtain rfl := some.inj hs
    exact ⟨a, h.commits, h.reported, h.applying, h.waiting, h.answered⟩
  | append k =>
    obtain ⟨⟨i, commands⟩, hk, rfl⟩ := map_eq_some_iff.mp hs
    obtain ⟨a', hrun, ha', hwrt⟩ := h.commits.appendAllPending hnd hodd (hgood _ hk) commands
    have hnew := h.onward hrun ha' fun j => by
      rw [← Cluster.send_nil (s.cluster.setRaft i _)]
      exact Cluster.onward_setRaft i [] (RaftNode.commitIndex_le_appendAllPending ..) j
    refine ⟨a', hnew.commits, hnew.reported, hnew.applying, fun b hb => ?_, hnew.answered⟩
    rcases mem_append.mp hb with hb | hb
    · exact hnew.waiting b hb
    · obtain rfl := mem_singleton.mp hb
      exact hwrt
  | answer k =>
    rw [Service.step] at hs
    split at hs
    · rename_i b hk
      obtain ⟨hmax, hs⟩ := ite_none_right_eq_some.mp hs
      obtain rfl := some.inj hs
      have hb := mem_of_getElem? hk
      refine ⟨a, h.commits, h.reported, h.applying,
        fun b hb => h.waiting b (mem_of_mem_eraseIdx hb), fun b' hb' p hp => ?_⟩
      rcases mem_append.mp hb' with hb' | hb'
      · exact h.answered b' hb' p hp
      · obtain rfl := mem_singleton.mp hb'
        have hcom := ((Batch.le_maxPendingIndex hp).trans hmax).trans (h.reported b'.node)
        exact ⟨hcom, h.kept hb hp hcom (hgood b' hk p hp)⟩
    · contradiction
  | timeout k =>
    obtain ⟨-, hs⟩ := ite_none_right_eq_some.mp hs
    obtain rfl := some.inj hs
    exact ⟨a, h.commits, h.reported, h.applying,
      fun b hb => h.waiting b (mem_of_mem_eraseIdx hb), h.answered⟩

theorem Inv.durable (h : Inv members s a) (hb : b ∈ s.answered) : s.Durable b := by
  intro p hp
  obtain ⟨hcomm, hpos, T, l, n, e, hl, hn, hget, hcom⟩ := h.answered b hb p hp
  refine ⟨hcomm, fun j hj => ?_⟩
  have hnode := h.commits.node j
  rw [(h.commits.holds.node j).views.logEntryAt (by rw [hnode.snapshotIndex]; exact hpos),
    h.commits.complete.committed_agree hnode.committed hl (k := p.1 - 1) (by omega) (by omega),
    hget, map_some, hcom]

/-- **Every answered batch is durable**, if the steps check the entries. -/
theorem durable_of_checksEntries (hnd : members.Nodup) (hodd : Odd members.length)
    (h : Transition.ReachableIf (step members) (ChecksEntries members) init s) {b : Batch}
    (hb : b ∈ s.answered) : s.Durable b := by
  obtain ⟨a, ha⟩ : ∃ a, Inv members s a := by
    refine h.invariant (P := fun s => ∃ a, Inv members s a) ⟨_, inv_init members⟩ ?_
    rintro s s' x ⟨a, ha⟩ hgood hx
    exact ha.step hnd hodd hgood hx
  exact ha.durable hb

instance (s : Service) : DecidablePred (ChecksEntries members s)
  | .cluster _ => inferInstanceAs (Decidable (_ ∧ _))
  | .append k => inferInstanceAs (Decidable (∀ r ∈ s.admitted[k]?, _))
  | .answer k => inferInstanceAs (Decidable (∀ b ∈ s.waiting[k]?, _))
  | .checkRole .. | .timeout _ => inferInstanceAs (Decidable True)

def electNode1 : List Action :=
  Cluster.ticks "node-1" 15 ++
  [.deliver 0, .deliver 2, .voteLost "node-1" "node-3", .finishElection "node-1"]

def applyOne : List Action :=
  [Cluster.heartbeat "node-1", .deliver 3, .deliver 5, .collectCommitted "node-1",
    .finishApply "node-1"]

def writeOne : List ServiceAction :=
  electNode1.map .cluster ++ [.checkRole "node-1" ["x"], .append 0] ++ applyOne.map .cluster ++
  [.answer 0]

theorem durable_writeOne :
    ∃ s, Transition.ReachableIf (step Cluster.threeNodes) (ChecksEntries Cluster.threeNodes)
        init s ∧
      ⟨"node-1", 1, [(1, "x")]⟩ ∈ s.answered ∧ s.Durable ⟨"node-1", 1, [(1, "x")]⟩ := by
  obtain ⟨s, hs, hb⟩ := Transition.exists_of_runIf (step Cluster.threeNodes)
    (ChecksEntries Cluster.threeNodes) init writeOne
    (fun s => ⟨"node-1", 1, [(1, "x")]⟩ ∈ s.answered) (by decide)
  exact ⟨s, hs, hb, durable_of_checksEntries (by decide) (by decide) hs hb⟩

def overrule : List Action :=
  Cluster.ticks "node-2" 12 ++
  [.deliver 4, .deliver 5, .voteLost "node-2" "node-1", .finishElection "node-2",
    .appendCommandPending "node-2" "y", Cluster.heartbeat "node-2", .deliver 7, .deliver 8,
    Cluster.heartbeat "node-2", .deliver 9, .collectCommitted "node-1", .finishApply "node-1"]

def overwriteOne : List ServiceAction :=
  electNode1.map .cluster ++ [.checkRole "node-1" ["x"], .append 0] ++ overrule.map .cluster ++
  [.answer 0]

/-- **A write is acknowledged and lost.** -/
theorem answered_overwritten :
    ∃ s, Transition.run (step Cluster.threeNodes) init overwriteOne = some s ∧
      s.answered = [⟨"node-1", 1, [(1, "x")]⟩] ∧
      (s.cluster.member "node-1").raft.commitIndex = 1 ∧
      (s.cluster.member "node-1").raft.logEntryAt 1 = some ⟨1, 2, "y"⟩ ∧
      (s.cluster.member "node-2").raft.commitIndex = 1 ∧
      (s.cluster.member "node-2").raft.logEntryAt 1 = some ⟨1, 2, "y"⟩ ∧
      ¬ s.Durable ⟨"node-1", 1, [(1, "x")]⟩ := by
  obtain ⟨s, hrun, hans, h1, he1, h2, he2⟩ :=
    Transition.exists_of_run (step Cluster.threeNodes) init overwriteOne
      (fun s => s.answered = [⟨"node-1", 1, [(1, "x")]⟩] ∧
        (s.cluster.member "node-1").raft.commitIndex = 1 ∧
        (s.cluster.member "node-1").raft.logEntryAt 1 = some ⟨1, 2, "y"⟩ ∧
        (s.cluster.member "node-2").raft.commitIndex = 1 ∧
        (s.cluster.member "node-2").raft.logEntryAt 1 = some ⟨1, 2, "y"⟩) (by decide)
  refine ⟨s, hrun, hans, h1, he1, h2, he2, fun hcon => ?_⟩
  have := (hcon (1, "x") (by simp)).2 "node-1" h1.ge
  rw [he1] at this
  exact absurd this (by decide)

end Service

end VngDatabase.Raft
