import VngDatabase.Numbered
import VngDatabase.Transition
import VngDatabase.Tx.ChangeStream

/-!
# Replaying the stream on a replica

A replica takes the changes of the stream in batches (`ReplicaReplayState::apply_batch` of
`crates/voltnuerongrid-store/src/htap_sync.rs`), all of a batch if it is numbered from the last one
applied on and nothing otherwise (`ReplicaReplayState.applyBatch_eq`).
-/

namespace VngDatabase.Tx

variable {b : List RowMutation} (batch : List RowMutation)

namespace RowStoreSyncOrigin

def exportSince (origin : RowStoreSyncOrigin) (lastSequence maxItems : ℕ) : List RowMutation :=
  (origin.pending.filter fun m => lastSequence < m.sequence).take maxItems

def ackThrough (origin : RowStoreSyncOrigin) (sequence : ℕ) : RowStoreSyncOrigin :=
  { origin with pending := origin.pending.filter fun m => sequence < m.sequence }

end RowStoreSyncOrigin

structure SequenceGap where
  expected : ℕ
  actual : ℕ
  deriving DecidableEq

structure DuplicateSequence where
  sequence : ℕ

structure OutOfOrderSequence where
  previous : ℕ
  current : ℕ

def gapsFrom (expected : ℕ) : List RowMutation → List SequenceGap
  | [] => []
  | item :: items =>
    if item.sequence ≠ expected then
      ⟨expected, item.sequence⟩ :: gapsFrom (item.sequence + 1) items
    else gapsFrom (expected + 1) items

def detectSequenceGaps : List SequenceGap :=
  match batch.insertionSort fun m m' => m.sequence ≤ m'.sequence with
  | [] => []
  | first :: items => gapsFrom first.sequence (first :: items)

def duplicatesFrom (seen : List ℕ) : List RowMutation → List DuplicateSequence
  | [] => []
  | item :: items =>
    if item.sequence ∈ seen then ⟨item.sequence⟩ :: duplicatesFrom seen items
    else duplicatesFrom (item.sequence :: seen) items

def detectDuplicateSequences : List DuplicateSequence :=
  duplicatesFrom [] batch

def detectOutOfOrder : List RowMutation → List OutOfOrderSequence
  | previous :: current :: items =>
    if current.sequence ≤ previous.sequence then
      ⟨previous.sequence, current.sequence⟩ :: detectOutOfOrder (current :: items)
    else detectOutOfOrder (current :: items)
  | _ => []

structure ReplicaReplayState where
  nodeId : String
  lastAppliedSequence : ℕ := 0
  applied : List RowMutation := []

structure ReplicaReplayReport where
  appliedCount : ℕ
  lastAppliedSequence : ℕ
  gaps : List SequenceGap
  duplicates : List DuplicateSequence
  outOfOrder : List OutOfOrderSequence

namespace ReplicaReplayState

def firstGap (r : ReplicaReplayState) (batch : List RowMutation) : List SequenceGap :=
  match batch with
  | [] => []
  | first :: _ =>
    if first.sequence ≠ r.lastAppliedSequence + 1 then
      [⟨r.lastAppliedSequence + 1, first.sequence⟩]
    else []

def applyBatch (r : ReplicaReplayState) (batch : List RowMutation) :
    ReplicaReplayState × ReplicaReplayReport :=
  let gaps := r.firstGap batch ++ detectSequenceGaps batch
  let duplicates := detectDuplicateSequences batch
  let outOfOrder := detectOutOfOrder batch
  if gaps = [] ∧ duplicates = [] ∧ outOfOrder = [] then
    let lastAppliedSequence := (batch.getLast?.map RowMutation.sequence).getD r.lastAppliedSequence
    ({ r with applied := r.applied ++ batch, lastAppliedSequence },
      ⟨batch.length, lastAppliedSequence, gaps, duplicates, outOfOrder⟩)
  else (r, ⟨0, r.lastAppliedSequence, gaps, duplicates, outOfOrder⟩)

end ReplicaReplayState

open RowMutation (sequence)

theorem gapsFrom_eq_nil_iff {n : ℕ} {batch : List RowMutation} :
    gapsFrom n batch = [] ↔ NumberedFrom sequence n batch := by
  induction batch generalizing n with
  | nil => exact iff_of_true rfl numberedFrom_nil
  | cons item items ih =>
    rw [gapsFrom, numberedFrom_cons]
    by_cases hn : item.sequence = n
    · rw [if_neg (not_not.mpr hn), ih, and_iff_right hn]
    · rw [if_pos hn]
      exact iff_of_false (List.cons_ne_nil _ _) fun h => hn h.1

theorem detectOutOfOrder_eq_nil_iff :
    detectOutOfOrder b = [] ↔ (b.map sequence).Pairwise (· < ·) := by
  rw [← List.isChain_iff_pairwise]
  induction b with
  | nil => exact iff_of_true rfl List.isChain_nil
  | cons previous items ih =>
    cases items with
    | nil => exact iff_of_true rfl (List.isChain_singleton _)
    | cons current items =>
      rw [detectOutOfOrder, List.map_cons, List.map_cons, List.isChain_cons_cons,
        ← List.map_cons, ← ih]
      by_cases hle : current.sequence ≤ previous.sequence
      · rw [if_pos hle]
        exact iff_of_false (List.cons_ne_nil _ _) fun h => absurd h.1 (Nat.not_lt.mpr hle)
      · rw [if_neg hle, and_iff_right (Nat.lt_of_not_le hle)]

theorem duplicatesFrom_eq_nil {seen : List ℕ}
    (h : (b.map sequence).Pairwise (· < ·)) (hseen : ∀ m ∈ b, m.sequence ∉ seen) :
    duplicatesFrom seen b = [] := by
  induction b generalizing seen with
  | nil => rfl
  | cons item items ih =>
    rw [List.map_cons, List.pairwise_cons] at h
    rw [List.forall_mem_cons] at hseen
    rw [duplicatesFrom, if_neg hseen.1]
    refine ih h.2 fun m hm => ?_
    rw [List.mem_cons, not_or]
    exact ⟨(h.1 _ (List.mem_map_of_mem hm)).ne', hseen.2 m hm⟩

theorem detectSequenceGaps_cons {first : RowMutation} {items : List RowMutation}
    (h : ((first :: items).map sequence).Pairwise (· < ·)) :
    detectSequenceGaps (first :: items) = gapsFrom first.sequence (first :: items) := by
  have hsrt : (first :: items).Pairwise fun m m' => m.sequence ≤ m'.sequence :=
    (List.pairwise_map.mp h).imp Nat.le_of_lt
  rw [detectSequenceGaps, hsrt.insertionSort_eq]

namespace ReplicaReplayState

variable (r : ReplicaReplayState)

theorem faultless_iff (batch : List RowMutation) :
    r.firstGap batch ++ detectSequenceGaps batch = [] ∧ detectDuplicateSequences batch = [] ∧
        detectOutOfOrder batch = [] ↔
      NumberedFrom sequence (r.lastAppliedSequence + 1) batch := by
  cases batch with
  | nil => exact iff_of_true ⟨rfl, rfl, rfl⟩ numberedFrom_nil
  | cons first items =>
    rw [firstGap, List.append_eq_nil_iff, detectOutOfOrder_eq_nil_iff]
    constructor
    · rintro ⟨⟨hfst, hgaps⟩, -, hord⟩
      have hfst : first.sequence = r.lastAppliedSequence + 1 := by
        by_contra hne
        rw [if_pos hne] at hfst
        exact List.cons_ne_nil _ _ hfst
      rw [detectSequenceGaps_cons hord, gapsFrom_eq_nil_iff] at hgaps
      exact hfst ▸ hgaps
    · intro h
      have hord : ((first :: items).map sequence).Pairwise (· < ·) :=
        List.pairwise_map.mpr h.pairwise
      have hfst := (numberedFrom_cons.mp h).1
      rw [if_neg (not_not.mpr hfst), detectSequenceGaps_cons hord, gapsFrom_eq_nil_iff]
      exact ⟨⟨rfl, hfst ▸ h⟩, duplicatesFrom_eq_nil hord fun _ _ => List.not_mem_nil, hord⟩

theorem applyBatch_eq (b : List RowMutation) :
    (r.applyBatch b).1 =
      if NumberedFrom sequence (r.lastAppliedSequence + 1) b then
        { r with
          applied := r.applied ++ b
          lastAppliedSequence := r.lastAppliedSequence + b.length }
      else r := by
  rw [applyBatch]
  simp only [r.faultless_iff b]
  split_ifs with h
  · have hlast : (b.getLast?.map sequence).getD r.lastAppliedSequence =
        r.lastAppliedSequence + b.length := by
      cases hlast : b.getLast? with
      | none =>
        rw [List.getLast?_eq_none_iff.mp hlast]
        rfl
      | some last =>
        have hnum := h.getLast? hlast
        rw [Option.map_some, Option.getD_some]
        omega
    rw [hlast]
  · rfl

theorem gaps_applyBatch_eq_nil {r : ReplicaReplayState}
    (h : NumberedFrom sequence (r.lastAppliedSequence + 1) b) :
    (r.applyBatch b).2.gaps = [] := by
  have hfau := (r.faultless_iff b).mpr h
  rw [applyBatch, if_pos hfau]
  exact hfau.1

theorem appliedCount_applyBatch (b : List RowMutation) :
    (r.applyBatch b).2.appliedCount =
      if NumberedFrom sequence (r.lastAppliedSequence + 1) b then b.length else 0 := by
  rw [applyBatch]
  simp only [r.faultless_iff b]
  split_ifs <;> rfl

end ReplicaReplayState

inductive ReplicationAction
  | append (table primaryKey payloadJson : String) (op : MutationOp)
  | ackThrough (sequence : ℕ)
  | exportSince (lastSequence maxItems : ℕ)
  | deliver (batch : List RowMutation)

/-- The network keeps all that was exported. -/
structure Replication where
  origin : RowStoreSyncOrigin := {}
  history : List RowMutation := []
  exported : List RowMutation := []
  replica : ReplicaReplayState

namespace Replication

open Transition List Option

def step (s : Replication) : ReplicationAction → Option Replication
  | .append table primaryKey payloadJson op =>
    some { s with
      origin := s.origin.append table primaryKey payloadJson op
      history := s.history ++ [⟨s.origin.nextSequence, table, primaryKey, payloadJson, op⟩] }
  | .ackThrough seq => some { s with origin := s.origin.ackThrough seq }
  | .exportSince lastSequence maxItems =>
    some { s with exported := s.exported ++ s.origin.exportSince lastSequence maxItems }
  | .deliver batch =>
    if ∀ m ∈ batch, m ∈ s.exported then
      some { s with replica := (s.replica.applyBatch batch).1 }
    else none

def init (nodeId : String) : Replication := { replica := { nodeId } }

def Reachable (s : Replication) : Prop :=
  ∃ nodeId, ReachableIf step (fun _ _ => True) (init nodeId) s

structure Inv (s : Replication) : Prop where
  numbered : NumberedFrom sequence 1 s.history
  next : s.origin.nextSequence = s.history.length + 1
  pending : ∀ m ∈ s.origin.pending, m ∈ s.history
  exported : ∀ m ∈ s.exported, m ∈ s.history
  applied : s.replica.applied <+: s.history
  last : s.replica.lastAppliedSequence = s.replica.applied.length

theorem inv_init (nodeId : String) : Inv (init nodeId) where
  numbered := numberedFrom_nil
  next := rfl
  pending _ hm := nomatch hm
  exported _ hm := nomatch hm
  applied := prefix_refl _
  last := rfl

theorem Inv.step {s s' : Replication} {a : ReplicationAction} (h : Inv s)
    (hstep : s.step a = some s') : Inv s' := by
  cases a with
  | append table primaryKey payloadJson op =>
    obtain rfl := some.inj hstep
    exact
      { numbered := numberedFrom_append.mpr
          ⟨h.numbered, numberedFrom_cons.mpr ⟨h.next.trans (Nat.add_comm _ _), numberedFrom_nil⟩⟩
        next := by
          rw [length_append, length_singleton, ← h.next]
          rfl
        pending := fun m hm => by
          rcases mem_append.mp hm with hm | hm
          · exact mem_append_left _ (h.pending m hm)
          · exact mem_append_right _ hm
        exported := fun m hm => mem_append_left _ (h.exported m hm)
        applied := h.applied.trans (prefix_append _ _)
        last := h.last }
  | ackThrough seq =>
    obtain rfl := some.inj hstep
    exact { h with pending := fun m hm => h.pending m (mem_of_mem_filter hm) }
  | exportSince lastSequence maxItems =>
    obtain rfl := some.inj hstep
    refine { h with exported := fun m hm => ?_ }
    rcases mem_append.mp hm with hm | hm
    · exact h.exported m hm
    · exact h.pending m (mem_of_mem_filter (mem_of_mem_take hm))
  | deliver batch =>
    obtain ⟨hbat, hstep⟩ := ite_none_right_eq_some.mp hstep
    obtain rfl := some.inj hstep
    have happ := s.replica.applyBatch_eq batch
    split_ifs at happ with hnum
    · rw [h.last] at hnum
      rw [happ]
      exact
        { h with
          applied := h.numbered.append_isPrefix h.applied hnum fun m hm =>
            h.exported m (hbat m hm)
          last := by rw [length_append, h.last] }
    · rw [happ]
      exact h

theorem inv_of_reachable {s : Replication} (h : s.Reachable) : Inv s := by
  obtain ⟨nodeId, h⟩ := h
  exact h.invariant (inv_init nodeId) fun hinv _ hstep => hinv.step hstep

/-- **The replica holds the changes up to the last number applied**, in order. -/
theorem applied_of_reachable {s : Replication} (h : s.Reachable) :
    s.replica.applied = s.history.filter (fun m => m.sequence ≤ s.replica.lastAppliedSequence) ∧
      s.replica.applied.map sequence = List.range' 1 s.replica.lastAppliedSequence ∧
      ∀ batch, (s.replica.applyBatch batch).2.gaps ≠ [] →
        (s.replica.applyBatch batch).1 = s.replica := by
  have hinv := inv_of_reachable h
  obtain ⟨rest, hrest⟩ := hinv.applied
  have hnum := hinv.numbered
  rw [← hrest, numberedFrom_append] at hnum
  rw [hinv.last]
  exact ⟨(hinv.numbered.filter_le_length hinv.applied).symm, hnum.1,
    fun batch hgaps => by
      rw [ReplicaReplayState.applyBatch_eq, if_neg fun hnum =>
        hgaps (ReplicaReplayState.gaps_applyBatch_eq_nil hnum)]⟩

def reordered : List ReplicationAction :=
  [.append "t" "1" "a" .insert, .append "t" "1" "b" .update, .exportSince 0 10,
    .deliver [⟨2, "t", "1", "b", .update⟩], .deliver [⟨1, "t", "1", "a", .insert⟩],
    .deliver [⟨1, "t", "1", "a", .insert⟩, ⟨2, "t", "1", "b", .update⟩],
    .deliver [⟨2, "t", "1", "b", .update⟩]]

theorem reordered_applied : ∃ s : Replication, s.Reachable ∧ s.replica.lastAppliedSequence = 2 ∧
    s.replica.applied = s.history.filter (fun m => m.sequence ≤ s.replica.lastAppliedSequence) := by
  obtain ⟨s, hrch, hlast⟩ := exists_of_runIf step (fun _ _ => True) (init "replica") reordered
    (fun s => s.replica.lastAppliedSequence = 2) (by decide +kernel)
  exact ⟨s, ⟨_, hrch⟩, hlast, (applied_of_reachable ⟨_, hrch⟩).1⟩

end Replication

end VngDatabase.Tx
