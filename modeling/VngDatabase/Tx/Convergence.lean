import VngDatabase.Tx.Replay

/-!
# Copies of the rows on other nodes

The stream of changes is shipped to the other nodes in batches (`htap_batch_for_peer` of
`services/voltnuerongridd/src/helpers/dataplane.rs`), and each applies whatever arrives
(`cluster_htap_apply`), with rows by their primary keys alone.
-/

namespace VngDatabase.Tx

open Overlay RowMutation List Option

structure Change where
  table : String
  primaryKey : String
  payloadJson : String
  op : MutationOp

def published (changes : List Change) : RowStoreSyncOrigin :=
  changes.foldl (fun origin c => origin.append c.table c.primaryKey c.payloadJson c.op) {}

def htapBatchForPeer (origin : RowStoreSyncOrigin) (cursor maxItems : ℕ) :
    List ReplicatedMutation × ℕ :=
  let batch := origin.exportSince cursor maxItems
  (batch.map .ofRowMutation, (batch.getLast?.map sequence).getD cursor)

structure Shipment where
  made : ℕ
  cursor : ℕ
  maxItems : ℕ

def Shipment.batch (changes : List Change) (shipment : Shipment) : List RowMutation :=
  (published (changes.take shipment.made)).exportSince shipment.cursor shipment.maxItems

theorem pending_isPrefix_foldl (chs : List Change) (origin : RowStoreSyncOrigin) :
    origin.pending <+: (chs.foldl (fun origin c =>
      origin.append c.table c.primaryKey c.payloadJson c.op) origin).pending := by
  induction chs generalizing origin with
  | nil => exact prefix_refl _
  | cons c chs ih =>
    have hone : origin.pending <+:
        (origin.append c.table c.primaryKey c.payloadJson c.op).pending := prefix_append _ _
    exact hone.trans (ih _)

theorem Shipment.mem_pending {chs : List Change} {shipment : Shipment} {m : RowMutation}
    (h : m ∈ shipment.batch chs) : m ∈ (published chs).pending := by
  have hpen : m ∈ (published (chs.take shipment.made)).pending :=
    mem_of_mem_filter (mem_of_mem_take h)
  have hgro := pending_isPrefix_foldl (chs.drop shipment.made)
    (published (chs.take shipment.made))
  rw [published, ← foldl_append, take_append_drop, ← published] at hgro
  exact hgro.subset hpen

section

variable [JsonReader] (changes : List Change) (shipments : List Shipment)

def deliver (olap : OlapStore) : OlapStore :=
  shipments.foldl (fun olap shipment =>
    (applyHtapMutationsToOlap (htapBatchForPeer (published (changes.take shipment.made))
      shipment.cursor shipment.maxItems).1 olap).1) olap

def RowMutation.rowWrite (m : RowMutation) : (String × String) × Option RowData :=
  ((m.table, m.primaryKey), m.write.2)

/-- **As if all changes had been applied once and in order.** -/
structure Converges (changes : List Change) (shipments : List Shipment) (olap : OlapStore) :
    Prop where
  inOrder : deliver changes shipments olap =
    (applyHtapMutationsToOlap ((published changes).pending.map .ofRowMutation) olap).1
  apart : ∀ m ∈ (published changes).pending,
    some ((deliver changes shipments olap).lookup m.primaryKey) =
      lastWrite ((published changes).pending.map rowWrite) (m.table, m.primaryKey)

def LatestLast : Prop :=
  ∀ m ∈ (published changes).pending,
    lastWrite ((shipments.flatMap (Shipment.batch changes)).map write) m.primaryKey =
      lastWrite ((published changes).pending.map rowWrite) (m.table, m.primaryKey)

theorem lookup_deliver (olap : OlapStore) (k : String) : (deliver changes shipments olap).lookup k =
      overlay ((shipments.flatMap (Shipment.batch changes)).map write)
        (fun k => olap.lookup k) k := by
  induction shipments generalizing olap with
  | nil => rfl
  | cons shipment shipments ih =>
    have hbat : (fun k => (applyHtapMutationsToOlap (htapBatchForPeer
        (published (changes.take shipment.made)) shipment.cursor shipment.maxItems).1 olap).1.lookup
          k) = overlay ((shipment.batch changes).map write) fun k => olap.lookup k := by
      funext k
      exact lookup_applyHtapMutationsToOlap _ olap k
    rw [deliver, foldl_cons, ← deliver, ih, hbat, flatMap_cons, map_append, overlay_append]

theorem exists_lastWrite_rowWrite {ms : List RowMutation} {k : String} {v : Option RowData}
    (h : lastWrite (ms.map write) k = some v) :
    ∃ m ∈ ms, m.primaryKey = k ∧ lastWrite (ms.map rowWrite) (m.table, k) = some v := by
  induction ms with
  | nil => cases h
  | cons m ms ih =>
    rw [map_cons, lastWrite, or_eq_some_iff] at h
    rcases h with h | ⟨hnone, h⟩
    · obtain ⟨m', hm', hk, hlast⟩ := ih h
      refine ⟨m', mem_cons_of_mem m hm', hk, ?_⟩
      rw [map_cons, lastWrite, hlast, some_or]
    · obtain ⟨hk, hv⟩ := ite_none_right_eq_some.mp h
      have hoth : ∀ w ∈ ms.map rowWrite, w.1 ≠ (m.table, k) := by
        intro w hw heq
        obtain ⟨m', hm', rfl⟩ := mem_map.mp hw
        obtain ⟨v', hv'⟩ := exists_lastWrite_of_mem
          (mem_map_of_mem (f := write) hm')
        rw [show m'.write.1 = k from congrArg Prod.snd heq, hnone] at hv'
        cases hv'
      refine ⟨m, mem_cons_self, hk, ?_⟩
      rw [map_cons, lastWrite, lastWrite_eq_none hoth, none_or]
      exact (if_pos (by rw [← hk]; rfl)).trans hv

/-- **The copy converges iff for every row the latest change arrives last.** -/
theorem converges_iff {changes : List Change} {shipments : List Shipment} (olap : OlapStore)
    (hall : ∀ m ∈ (published changes).pending, ∃ shipment ∈ shipments, m ∈ shipment.batch changes) :
    Converges changes shipments olap ↔ LatestLast changes shipments := by
  -- what arrives is a change of the stream, and all of these arrive
  have harr : ∀ m, m ∈ shipments.flatMap (Shipment.batch changes) ↔
      m ∈ (published changes).pending := by
    intro m
    rw [mem_flatMap]
    exact ⟨fun ⟨_, _, hm⟩ => Shipment.mem_pending hm, hall m⟩
  have hshn : ∀ m ∈ (published changes).pending,
      some ((deliver changes shipments olap).lookup m.primaryKey) =
        lastWrite ((shipments.flatMap (Shipment.batch changes)).map write)
          m.primaryKey := by
    intro m hm
    obtain ⟨v, hv⟩ := exists_lastWrite_of_mem
      (mem_map_of_mem (f := write) ((harr m).mpr hm))
    have hv : lastWrite _ m.primaryKey = some v := hv
    rw [lookup_deliver, overlay_of_lastWrite hv, hv]
  constructor
  · intro h m hm
    rw [← hshn m hm, h.apart m hm]
  · intro h
    refine ⟨Finmap.ext_lookup fun k => ?_, fun m hm => by rw [hshn m hm, h m hm]⟩
    rw [lookup_deliver, lookup_applyHtapMutationsToOlap]
    cases hlast : lastWrite ((published changes).pending.map write) k with
    | some v =>
      obtain ⟨m, hm, rfl, hrow⟩ := exists_lastWrite_rowWrite hlast
      rw [overlay_of_lastWrite hlast, overlay_of_lastWrite ((h m hm).trans hrow)]
    | none =>
      have hnone : ∀ w ∈ (shipments.flatMap (Shipment.batch changes)).map write,
          w.1 ≠ k := by
        rintro w hw rfl
        obtain ⟨m, hm, rfl⟩ := mem_map.mp hw
        obtain ⟨v, hv⟩ := exists_lastWrite_of_mem
          (mem_map_of_mem (f := write) ((harr m).mp hm))
        rw [hlast] at hv
        cases hv
      rw [overlay, overlay, lastWrite_eq_none hnone, hlast]

end

open scoped ChangeStream

def insertAndUpdate : List Change := [⟨"t", "1", "a", .insert⟩, ⟨"t", "1", "b", .update⟩]

def duplicated : List Shipment := [⟨1, 0, 1000⟩, ⟨2, 1, 1000⟩, ⟨1, 0, 1000⟩]

theorem duplicated_arrives : ∀ m ∈ (published insertAndUpdate).pending,
    ∃ shipment ∈ duplicated, m ∈ shipment.batch insertAndUpdate := by
  decide +kernel

/-- **The update is undone** by a batch that arrives twice. -/
theorem not_converges_duplicated :
    (∀ m ∈ (published insertAndUpdate).pending,
      ∃ shipment ∈ duplicated, m ∈ shipment.batch insertAndUpdate) ∧
      ¬Converges insertAndUpdate duplicated ∅ := by
  refine ⟨duplicated_arrives, fun h => ?_⟩
  have hshn := h.apart ⟨2, "t", "1", "b", .update⟩ (by decide +kernel)
  rw [lookup_deliver] at hshn
  revert hshn
  decide +kernel

example : ¬LatestLast [⟨"t", "1", "a", .insert⟩, ⟨"u", "1", "b", .insert⟩] [⟨2, 0, 1000⟩] := by
  rw [LatestLast]
  decide +kernel

theorem converges_inOrder : Converges insertAndUpdate [⟨1, 0, 1000⟩, ⟨2, 0, 1000⟩] ∅ :=
  (converges_iff ∅ (by decide +kernel)).mpr (by rw [LatestLast]; decide +kernel)

end VngDatabase.Tx
