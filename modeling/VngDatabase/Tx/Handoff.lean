import VngDatabase.Tx.Replay

/-!
# Handing over to another node

When the leader changes, what was published for the new one is replayed on its replica
(`build_failover_handoff_report` of `services/voltnuerongridd/src/helpers/cluster.rs`).
-/

namespace VngDatabase.Tx

open RowMutation (sequence)
open Transition List

structure ReplicationTransportEvent where
  transportSequence : ℕ
  sourceNodeId : String
  targetNodeId : String
  transport : String
  mutation : RowMutation

structure Publication where
  sourceNodeId : String
  targetNodeId : String
  transport : String
  table : String
  primaryKey : String
  payloadJson : String
  op : MutationOp

structure InMemoryReplicationTransport where
  nextTransportSequence : ℕ := 1
  nextMutationSequence : ℕ := 1
  events : List ReplicationTransportEvent := []

def IsFor (targetNodeId target : String) : Prop := target = targetNodeId ∨ target = "*"

instance (targetNodeId target : String) : Decidable (IsFor targetNodeId target) :=
  inferInstanceAs (Decidable (_ ∨ _))

namespace InMemoryReplicationTransport

variable (t : InMemoryReplicationTransport)

def nextMutation (p : Publication) : RowMutation :=
  ⟨t.nextMutationSequence, p.table, p.primaryKey, p.payloadJson, p.op⟩

def publish (p : Publication) : InMemoryReplicationTransport where
  nextTransportSequence := t.nextTransportSequence + 1
  nextMutationSequence := t.nextMutationSequence + 1
  events := t.events ++
    [⟨t.nextTransportSequence, p.sourceNodeId, p.targetNodeId, p.transport, t.nextMutation p⟩]

def waiting (targetNodeId : String) (lastMutationSequence : ℕ) : List RowMutation :=
  (t.events.filter fun event => IsFor targetNodeId event.targetNodeId ∧
    lastMutationSequence < event.mutation.sequence).map ReplicationTransportEvent.mutation

def exportForTargetSince (targetNodeId : String)
    (lastMutationSequence maxItems : ℕ) : List RowMutation :=
  ((t.events.filter fun event => IsFor targetNodeId event.targetNodeId ∧
    lastMutationSequence < event.mutation.sequence).take maxItems).map
      ReplicationTransportEvent.mutation

end InMemoryReplicationTransport

def ReplicaReplayState.buildFailoverHandoffBatch (r : ReplicaReplayState)
    (origin : RowStoreSyncOrigin) (maxItems : ℕ) : List RowMutation :=
  origin.exportSince r.lastAppliedSequence maxItems

structure FailoverState where
  replicationTransport : InMemoryReplicationTransport := {}
  syncOrigin : RowStoreSyncOrigin := {}
  replicaReplayStates : Finmap fun _ : String => ReplicaReplayState := ∅

inductive HandoffState
  | noTransportUpdates
  | handoffApplied
  | handoffGapDetected

structure FailoverHandoffReportResponse where
  handoffState : HandoffState
  sourceNodeId : String
  targetNodeId : String
  lastAppliedSequenceBefore : ℕ
  lastAppliedSequenceAfter : ℕ
  replayBatchSize : ℕ
  appliedCount : ℕ
  gapCount : ℕ
  gaps : List SequenceGap

inductive FailoverAction
  | publish (p : Publication)
  | handoff (sourceNodeId targetNodeId : String)
  | append (table primaryKey payloadJson : String) (op : MutationOp)
  | ackThrough (sequence : ℕ)

namespace FailoverState

def replica (s : FailoverState) (targetNodeId : String) : ReplicaReplayState :=
  (s.replicaReplayStates.lookup targetNodeId).getD { nodeId := targetNodeId }

/-- Or, if there is nothing, the stream of the row store. -/
def handoffBatch (s : FailoverState) (targetNodeId : String) : List RowMutation :=
  let batch := s.replicationTransport.exportForTargetSince targetNodeId
    (s.replica targetNodeId).lastAppliedSequence 64
  if batch = [] then (s.replica targetNodeId).buildFailoverHandoffBatch s.syncOrigin 64 else batch

def buildFailoverHandoffReport (s : FailoverState) (sourceNodeId targetNodeId : String) :
    FailoverState × FailoverHandoffReportResponse :=
  let replica := s.replica targetNodeId
  let before := replica.lastAppliedSequence
  let batch := s.handoffBatch targetNodeId
  if batch = [] then
    ({ s with replicaReplayStates := s.replicaReplayStates.insert targetNodeId replica },
      ⟨.noTransportUpdates, sourceNodeId, targetNodeId, before, before, 0, 0, 0, []⟩)
  else
    let (replica, report) := replica.applyBatch batch
    ({ s with replicaReplayStates := s.replicaReplayStates.insert targetNodeId replica },
      ⟨if report.gaps = [] then .handoffApplied else .handoffGapDetected, sourceNodeId,
        targetNodeId, before, report.lastAppliedSequence, batch.length, report.appliedCount,
        report.gaps.length, report.gaps⟩)

def step (s : FailoverState) : FailoverAction → FailoverState
  | .publish p => { s with replicationTransport := s.replicationTransport.publish p }
  | .handoff sourceNodeId targetNodeId => (s.buildFailoverHandoffReport sourceNodeId targetNodeId).1
  | .append table primaryKey payloadJson op =>
    { s with syncOrigin := s.syncOrigin.append table primaryKey payloadJson op }
  | .ackThrough seq => { s with syncOrigin := s.syncOrigin.ackThrough seq }

def waiting (s : FailoverState) (targetNodeId : String) : List RowMutation :=
  s.replicationTransport.waiting targetNodeId (s.replica targetNodeId).lastAppliedSequence

/-- **Whatever is exported is applied as a whole**, and in the end all. -/
structure Progress (targetNodeId : String) (s : FailoverState) : Prop where
  applies : ∀ maxItems,
    let batch := s.replicationTransport.exportForTargetSince targetNodeId
      (s.replica targetNodeId).lastAppliedSequence maxItems
    let report := ((s.replica targetNodeId).applyBatch batch).2
    report.gaps = [] ∧ report.appliedCount = batch.length
  completes : ∀ sourceNodeId, ∃ n, ∀ event ∈ s.replicationTransport.events,
    IsFor targetNodeId event.targetNodeId →
      event.mutation ∈ (((fun s => (s.buildFailoverHandoffReport sourceNodeId targetNodeId).1)^[n]
        s).replica targetNodeId).applied

/-- **The publication goes on where the node stands.** -/
def Continues (targetNodeId : String) (s : FailoverState) : FailoverAction → Prop
  | .publish p => IsFor targetNodeId p.targetNodeId →
    s.replicationTransport.nextMutationSequence =
        (s.replica targetNodeId).lastAppliedSequence + (s.waiting targetNodeId).length + 1 ∨
      s.replicationTransport.nextMutationSequence ≤ (s.replica targetNodeId).lastAppliedSequence ∧
        s.replicationTransport.nextMutation p ∈ (s.replica targetNodeId).applied
  | _ => True

structure Caught (targetNodeId : String) (s : FailoverState) : Prop where
  numbered : NumberedFrom sequence ((s.replica targetNodeId).lastAppliedSequence + 1)
    (s.waiting targetNodeId)
  applied : ∀ event ∈ s.replicationTransport.events, IsFor targetNodeId event.targetNodeId →
    event.mutation.sequence ≤ (s.replica targetNodeId).lastAppliedSequence →
      event.mutation ∈ (s.replica targetNodeId).applied

variable {targetNodeId : String} {s : FailoverState} (t : InMemoryReplicationTransport)

theorem exportForTargetSince_eq_take (tgt : String)
    (last maxItems : ℕ) : t.exportForTargetSince tgt last maxItems =
      (t.waiting tgt last).take maxItems := by
  rw [InMemoryReplicationTransport.exportForTargetSince, map_take,
    InMemoryReplicationTransport.waiting]

theorem mem_waiting {t : InMemoryReplicationTransport} {last : ℕ}
    {event : ReplicationTransportEvent} (heve : event ∈ t.events)
    (hfor : IsFor targetNodeId event.targetNodeId) (hlast : last < event.mutation.sequence) :
    event.mutation ∈ t.waiting targetNodeId last :=
  mem_map_of_mem (mem_filter.mpr ⟨heve, decide_eq_true ⟨hfor, hlast⟩⟩)

theorem waiting_of_le (tgt : String) {last last' : ℕ}
    (h : last ≤ last') : t.waiting tgt last' =
      (t.waiting tgt last).filter fun m => last' < m.sequence := by
  rw [InMemoryReplicationTransport.waiting, InMemoryReplicationTransport.waiting, filter_map,
    filter_filter]
  congr 1
  refine filter_congr fun event _ => ?_
  simp only [Function.comp_apply, ← Bool.decide_and, decide_eq_decide]
  constructor
  · rintro ⟨hfor, hlt⟩
    exact ⟨hlt, hfor, h.trans_lt hlt⟩
  · rintro ⟨hlt, hfor, -⟩
    exact ⟨hfor, hlt⟩

theorem replica_handoff (s : FailoverState) (src targetNodeId other : String) :
    (s.buildFailoverHandoffReport src targetNodeId).1.replica other =
      if other = targetNodeId then
        ((s.replica targetNodeId).applyBatch (s.handoffBatch targetNodeId)).1
      else s.replica other := by
  have hnil : ((s.replica targetNodeId).applyBatch []).1 = s.replica targetNodeId := by
    rw [ReplicaReplayState.applyBatch_eq, if_pos numberedFrom_nil, append_nil, length_nil,
      Nat.add_zero]
  rw [buildFailoverHandoffReport]
  by_cases hoth : other = targetNodeId
  · subst hoth
    rw [if_pos rfl]
    split_ifs with hbat
    · rw [hbat, hnil, replica, Finmap.lookup_insert, Option.getD_some]
    · rw [replica, Finmap.lookup_insert, Option.getD_some]
  · rw [if_neg hoth]
    split_ifs <;> rw [replica, Finmap.lookup_insert_of_ne _ hoth, ← replica]

theorem transport_handoff (s : FailoverState) (src tgt : String) :
    (s.buildFailoverHandoffReport src tgt).1.replicationTransport =
      s.replicationTransport := by
  rw [buildFailoverHandoffReport]
  split_ifs <;> rfl

theorem handoffBatch_of_waiting (h : s.waiting targetNodeId ≠ []) :
    s.handoffBatch targetNodeId = (s.waiting targetNodeId).take 64 := by
  rw [handoffBatch, exportForTargetSince_eq_take, ← waiting, if_neg]
  rw [take_eq_nil_iff, not_or]
  exact ⟨by decide, h⟩

theorem Caught.congr (h : Caught targetNodeId s) {s' : FailoverState}
    (htr : s'.replicationTransport = s.replicationTransport)
    (hrep : s'.replica targetNodeId = s.replica targetNodeId) : Caught targetNodeId s' := by
  constructor
  · rw [waiting, htr, hrep]
    exact h.numbered
  · rw [htr, hrep]
    exact h.applied

theorem Caught.advance (h : Caught targetNodeId s) {s' : FailoverState} {b : List RowMutation}
    (htr : s'.replicationTransport = s.replicationTransport)
    (happ : (s'.replica targetNodeId).applied = (s.replica targetNodeId).applied ++ b)
    (hlast : (s'.replica targetNodeId).lastAppliedSequence =
      (s.replica targetNodeId).lastAppliedSequence + b.length)
    (hbat : ∀ m ∈ s.waiting targetNodeId,
      m.sequence ≤ (s.replica targetNodeId).lastAppliedSequence + b.length → m ∈ b) :
    Caught targetNodeId s' ∧ s'.waiting targetNodeId =
      (s.waiting targetNodeId).drop b.length := by
  have hwt : s'.waiting targetNodeId = (s.waiting targetNodeId).drop b.length := by
    rw [waiting, htr, hlast, waiting_of_le _ _ (Nat.le_add_right _ _), ← waiting,
      h.numbered.filter_lt]
  refine ⟨⟨?_, fun event heve hfor hle => ?_⟩, hwt⟩
  · rw [hwt, hlast]
    rcases Nat.le_total (s.waiting targetNodeId).length b.length with hlong | hsho
    · rw [drop_eq_nil_of_le hlong]
      exact numberedFrom_nil
    · have hspl := h.numbered
      rw [← take_append_drop b.length (s.waiting targetNodeId), numberedFrom_append,
        length_take, Nat.min_eq_left hsho, Nat.add_right_comm] at hspl
      exact hspl.2
  · rw [htr] at heve
    rw [hlast] at hle
    rw [happ, mem_append]
    by_cases hold : event.mutation.sequence ≤ (s.replica targetNodeId).lastAppliedSequence
    · exact Or.inl (h.applied event heve hfor hold)
    · exact Or.inr (hbat _ (mem_waiting heve hfor (Nat.lt_of_not_le hold)) hle)

theorem Caught.handoff (h : Caught targetNodeId s) (src : String) :
    Caught targetNodeId (s.buildFailoverHandoffReport src targetNodeId).1 ∧
      (s.waiting targetNodeId ≠ [] →
        ((s.buildFailoverHandoffReport src targetNodeId).1.waiting targetNodeId).length <
          (s.waiting targetNodeId).length) := by
  have htr := s.transport_handoff src targetNodeId
  have hrep := s.replica_handoff src targetNodeId targetNodeId
  rw [if_pos rfl, ReplicaReplayState.applyBatch_eq] at hrep
  by_cases hnil : s.waiting targetNodeId = []
  · refine ⟨?_, fun hne => absurd hnil hne⟩
    split_ifs at hrep
    · refine (h.advance htr (congrArg _ hrep) (congrArg _ hrep) ?_).1
      intro m hm
      rw [hnil] at hm
      cases hm
    · exact h.congr htr hrep
  · rw [handoffBatch_of_waiting hnil, if_pos (h.numbered.take 64)] at hrep
    have hgone : ∀ m ∈ s.waiting targetNodeId, m.sequence ≤
        (s.replica targetNodeId).lastAppliedSequence +
          ((s.waiting targetNodeId).take 64).length →
        m ∈ (s.waiting targetNodeId).take 64 := by
      intro m hm hle
      rw [← take_append_drop 64 (s.waiting targetNodeId), mem_append] at hm
      refine hm.resolve_right fun hlate => ?_
      rw [← h.numbered.filter_lt 64] at hlate
      have hlt := of_decide_eq_true (mem_filter.mp hlate).2
      rw [length_take] at hle
      omega
    obtain ⟨hcau, hwt⟩ := h.advance htr (congrArg _ hrep) (congrArg _ hrep) hgone
    refine ⟨hcau, fun _ => ?_⟩
    have hpos := length_pos_iff.mpr hnil
    rw [hwt, length_drop, length_take]
    omega

theorem Caught.exists_waiting_eq_nil (h : Caught targetNodeId s) (src : String) :
    ∃ n, Caught targetNodeId
        ((fun s => (s.buildFailoverHandoffReport src targetNodeId).1)^[n] s) ∧
      ((fun s => (s.buildFailoverHandoffReport src targetNodeId).1)^[n] s).waiting
        targetNodeId = [] := by
  induction hlen : (s.waiting targetNodeId).length using Nat.strong_induction_on generalizing s with
  | _ len ih =>
    by_cases hnil : s.waiting targetNodeId = []
    · exact ⟨0, h, hnil⟩
    · obtain ⟨hcau, hlt⟩ := h.handoff src
      obtain ⟨n, hn⟩ := ih _ (hlen ▸ hlt hnil) hcau rfl
      exact ⟨n + 1, hn⟩

theorem transport_iterate (s : FailoverState) (src tgt : String) (n : ℕ) :
    ((fun s => (s.buildFailoverHandoffReport src tgt).1)^[n]
      s).replicationTransport = s.replicationTransport := by
  induction n generalizing s with
  | zero => rfl
  | succ n ih => rw [Function.iterate_succ_apply, ih, transport_handoff]

theorem mem_applied_of_iterate {src : String} {n : ℕ} {m : RowMutation}
    (hm : m ∈ (((fun s => (s.buildFailoverHandoffReport src targetNodeId).1)^[n]
      s).replica targetNodeId).applied)
    (hle : m.sequence ≤ (s.replica targetNodeId).lastAppliedSequence) :
    m ∈ (s.replica targetNodeId).applied := by
  induction n generalizing s with
  | zero => exact hm
  | succ n ih =>
    have hrep := s.replica_handoff src targetNodeId targetNodeId
    rw [if_pos rfl, ReplicaReplayState.applyBatch_eq] at hrep
    split_ifs at hrep with hnum
    · have hmem := ih hm (hrep ▸ hle.trans (Nat.le_add_right _ _))
      rw [hrep, mem_append] at hmem
      refine hmem.resolve_right fun hbat => ?_
      have hbou := (hnum.bounds hbat).1
      omega
    · exact hrep ▸ ih hm (hrep ▸ hle)

theorem progress_iff_caught : Progress targetNodeId s ↔ Caught targetNodeId s := by
  constructor
  · rintro ⟨happ, hcom⟩
    constructor
    · obtain ⟨-, hcnt⟩ := happ (s.waiting targetNodeId).length
      rw [exportForTargetSince_eq_take, ← waiting, take_length,
        ReplicaReplayState.appliedCount_applyBatch] at hcnt
      by_contra hnot
      rw [if_neg hnot] at hcnt
      rw [length_eq_zero_iff.mp hcnt.symm] at hnot
      exact hnot numberedFrom_nil
    · intro event heve hfor hle
      obtain ⟨n, hn⟩ := hcom ""
      exact mem_applied_of_iterate (hn event heve hfor) hle
  · intro h
    constructor
    · intro maxItems
      have hnum := h.numbered.take maxItems
      rw [exportForTargetSince_eq_take, ← waiting]
      refine ⟨ReplicaReplayState.gaps_applyBatch_eq_nil hnum, ?_⟩
      rw [ReplicaReplayState.appliedCount_applyBatch, if_pos hnum]
    · intro sourceNodeId
      obtain ⟨n, hcau, hnil⟩ := h.exists_waiting_eq_nil sourceNodeId
      refine ⟨n, fun event heve hfor => ?_⟩
      rw [← transport_iterate s sourceNodeId targetNodeId n] at heve
      refine hcau.applied event heve hfor (Nat.le_of_not_lt fun hlt => ?_)
      have hwai := mem_waiting heve hfor hlt
      rw [← waiting, hnil] at hwai
      cases hwai

theorem waiting_publish (p : Publication)
    (tgt : String) (last : ℕ) : (t.publish p).waiting tgt last =
      t.waiting tgt last ++
        if IsFor tgt p.targetNodeId ∧ last < t.nextMutationSequence then
          [t.nextMutation p]
        else [] := by
  rw [InMemoryReplicationTransport.waiting, InMemoryReplicationTransport.publish,
    filter_append, map_append, ← InMemoryReplicationTransport.waiting]
  by_cases hwai : IsFor tgt p.targetNodeId ∧ last < t.nextMutationSequence
  · rw [if_pos hwai, filter_cons_of_pos]
    · rfl
    · exact decide_eq_true hwai
  · rw [if_neg hwai, filter_cons_of_neg]
    · rfl
    · exact mt of_decide_eq_true hwai

theorem Caught.publish (h : Caught targetNodeId s) (p : Publication) :
    Caught targetNodeId (s.step (.publish p)) ↔ Continues targetNodeId s (.publish p) := by
  have hwt : (s.step (.publish p)).waiting targetNodeId = _ :=
    waiting_publish s.replicationTransport p targetNodeId _
  have hevs {P : ReplicationTransportEvent → Prop} :
      (∀ event ∈ (s.step (.publish p)).replicationTransport.events, P event) ↔
        (∀ event ∈ s.replicationTransport.events, P event) ∧
          P ⟨s.replicationTransport.nextTransportSequence, p.sourceNodeId, p.targetNodeId,
            p.transport, s.replicationTransport.nextMutation p⟩ := by
    rw [step, InMemoryReplicationTransport.publish, forall_mem_append, forall_mem_singleton]
  by_cases hfor : IsFor targetNodeId p.targetNodeId
  · by_cases hlt : (s.replica targetNodeId).lastAppliedSequence <
        s.replicationTransport.nextMutationSequence
    · rw [if_pos ⟨hfor, hlt⟩] at hwt
      have hnum : NumberedFrom sequence ((s.replica targetNodeId).lastAppliedSequence + 1)
          (s.waiting targetNodeId ++ [s.replicationTransport.nextMutation p]) ↔
          s.replicationTransport.nextMutationSequence =
            (s.replica targetNodeId).lastAppliedSequence + (s.waiting targetNodeId).length + 1 := by
        rw [numberedFrom_append, and_iff_right h.numbered, numberedFrom_cons,
          and_iff_left numberedFrom_nil, Nat.add_right_comm]
        rfl
      constructor
      · intro hcau _
        exact Or.inl (hnum.mp (hwt ▸ hcau.numbered))
      · intro hcon
        have hnext := (hcon hfor).resolve_right fun hold => Nat.not_le.mpr hlt hold.1
        refine ⟨?_, hevs.mpr ⟨h.applied, fun _ hle => absurd hle (Nat.not_le.mpr hlt)⟩⟩
        rw [hwt]
        exact hnum.mpr hnext
    · rw [if_neg fun hand => hlt hand.2, append_nil] at hwt
      have hle := Nat.le_of_not_lt hlt
      constructor
      · intro hcau _
        exact Or.inr ⟨hle, (hevs.mp hcau.applied).2 hfor hle⟩
      · intro hcon
        have hold := (hcon hfor).resolve_left (by omega)
        refine ⟨?_, hevs.mpr ⟨h.applied, fun _ _ => hold.2⟩⟩
        rw [hwt]
        exact h.numbered
  · rw [if_neg fun hand => hfor hand.1, append_nil] at hwt
    refine iff_of_true ⟨?_, hevs.mpr ⟨h.applied, fun hfor' => absurd hfor' hfor⟩⟩
      fun hfor' => absurd hfor' hfor
    rw [hwt]
    exact h.numbered

theorem Caught.step_iff (h : Caught targetNodeId s) (a : FailoverAction) :
    Caught targetNodeId (s.step a) ↔ Continues targetNodeId s a := by
  cases a with
  | publish p => exact h.publish p
  | handoff sourceNodeId other =>
    refine iff_of_true ?_ trivial
    by_cases hoth : targetNodeId = other
    · subst hoth
      exact (h.handoff sourceNodeId).1
    · have hrep := s.replica_handoff sourceNodeId other targetNodeId
      rw [if_neg hoth] at hrep
      exact h.congr (s.transport_handoff sourceNodeId other) hrep
  | append table primaryKey payloadJson op => exact iff_of_true ⟨h.numbered, h.applied⟩ trivial
  | ackThrough seq => exact iff_of_true ⟨h.numbered, h.applied⟩ trivial

/-- **Handoffs make progress iff** each publication goes on where the node stands. -/
theorem always_progress_iff (targetNodeId : String) (actions : List FailoverAction) :
    Always step (Progress targetNodeId) {} actions ↔
      Throughout step (Continues targetNodeId) {} actions := by
  refine always_iff_throughout (fun s a h => ?_) ?_ actions
  · rw [progress_iff_caught] at h ⊢
    exact h.step_iff a
  · rw [progress_iff_caught]
    exact ⟨numberedFrom_nil, fun event heve => nomatch heve⟩

def leaderChange (source target stage : String) : FailoverAction :=
  .publish ⟨source, target, "failover_control_plane", "cluster_failover",
    source ++ "->" ++ target ++ ":" ++ stage, "", .insert⟩

def leaderChanges : List FailoverAction :=
  [leaderChange "a" "b" "prepare", leaderChange "a" "b" "commit", .handoff "a" "b",
    leaderChange "b" "c" "prepare", leaderChange "b" "c" "commit"]

/-- **The second leader is never handed over to.** -/
theorem leaderChanges_gap :
    ((leaderChanges.foldl step {}).buildFailoverHandoffReport "b" "c").2.gaps = [⟨1, 3⟩] ∧
      ((leaderChanges.foldl step {}).buildFailoverHandoffReport "b" "c").2.appliedCount = 0 ∧
      ¬Always step (Progress "c") {} leaderChanges := by
  refine ⟨by decide +kernel, by decide +kernel, fun h => ?_⟩
  obtain ⟨hgaps, -⟩ := h.foldl.applies 64
  revert hgaps
  decide +kernel

end FailoverState

end VngDatabase.Tx
