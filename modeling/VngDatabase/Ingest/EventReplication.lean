import VngDatabase.Ingest.EventFile
import VngDatabase.Ingest.Outbox

/-!
# Events on other nodes

A node sends the events of its bus to others in batches (`apply_event_replication` of
`services/voltnuerongridd/src/helpers/dataplane.rs`), which are sorted and published there.
-/

namespace VngDatabase.Ingest

open Transition List Option

/-! ### Either bus -/

inductive ManagedEventBusTransport
  | inMemory (bus : InMemoryEventBusTransport)
  | fileBacked (bus : FileBackedEventBusTransport)

namespace ManagedEventBusTransport

def events : ManagedEventBusTransport → List EventBusTransportEvent
  | .inMemory bus => bus.events
  | .fileBacked bus => bus.events

def publish (p : Publication) : ManagedEventBusTransport → Option ManagedEventBusTransport
  | .inMemory bus => (bus.publish p).map .inMemory
  | .fileBacked bus => (bus.publish p).map .fileBacked

theorem exists_events_publish {bus bus' : ManagedEventBusTransport} {p : Publication}
    (h : bus.publish p = some bus') :
    ∃ transportSequence eventId,
      bus'.events = bus.events ++ [p.event transportSequence eventId] := by
  cases bus with
  | inMemory bus =>
    obtain ⟨bus', hbus', rfl⟩ := map_eq_some_iff.mp h
    exact ⟨_, _, InMemoryEventBusTransport.events_publish hbus'⟩
  | fileBacked bus =>
    obtain ⟨bus', hbus', rfl⟩ := map_eq_some_iff.mp h
    rw [FileBackedEventBusTransport.publish] at hbus'
    split_ifs at hbus'
    exact ⟨_, _, congrArg FileBackedEventBusTransport.events (some.inj hbus').symm⟩

end ManagedEventBusTransport

/-! ### Events of another node -/

structure ReplicatedEvent where
  transportSequence : Fin (2 ^ 64)
  streamName : String
  origin : String
  payloadJson : String

namespace ReplicatedEvent

def content (e : ReplicatedEvent) : String × String × String :=
  (e.streamName, e.origin, e.payloadJson)

def publication (e : ReplicatedEvent) (nowMs : Fin (2 ^ 128)) : Publication :=
  ⟨e.streamName, .internal, e.origin, nowMs, e.payloadJson, ∅⟩

def NotAfter (e e' : ReplicatedEvent) : Prop := e.transportSequence ≤ e'.transportSequence

def Precedes (e e' : ReplicatedEvent) : Prop := e.transportSequence < e'.transportSequence

instance : DecidableRel NotAfter := fun e e' =>
  inferInstanceAs (Decidable (e.transportSequence ≤ e'.transportSequence))

instance : DecidableRel Precedes := fun e e' =>
  inferInstanceAs (Decidable (e.transportSequence < e'.transportSequence))

instance : Std.Total NotAfter := ⟨fun e e' => le_total e.transportSequence e'.transportSequence⟩

instance : IsTrans ReplicatedEvent NotAfter := ⟨fun _ _ _ h h' => le_trans h h'⟩

instance : Std.Irrefl Precedes := ⟨fun e => lt_irrefl e.transportSequence⟩

instance : Std.Antisymm Precedes := ⟨fun _ _ h h' => absurd h' (lt_asymm h)⟩

end ReplicatedEvent

open ReplicatedEvent (NotAfter Precedes)

def EventBusTransportEvent.content (e : EventBusTransportEvent) : String × String × String :=
  (e.event.streamName, e.event.origin, e.event.payloadJson)

def sortBatch (events : List ReplicatedEvent) : List ReplicatedEvent :=
  events.insertionSort NotAfter

theorem mem_sortBatch {e : ReplicatedEvent} {events : List ReplicatedEvent} :
    e ∈ sortBatch events ↔ e ∈ events :=
  mem_insertionSort NotAfter

theorem pairwise_sortBatch_iff (events : List ReplicatedEvent) :
    (sortBatch events).Pairwise Precedes ↔
      (events.map ReplicatedEvent.transportSequence).Nodup := by
  have hperm := (perm_insertionSort NotAfter events).map ReplicatedEvent.transportSequence
  rw [← hperm.nodup_iff]
  constructor
  · intro h
    exact pairwise_map.mpr (h.imp fun hlt => ne_of_lt hlt)
  · intro h
    refine ((pairwise_insertionSort NotAfter events).and (pairwise_map.mp h)).imp ?_
    rintro e e' ⟨hle, hne⟩
    exact lt_of_le_of_ne hle hne

/-! ### The other node -/

structure Replica where
  bus : ManagedEventBusTransport
  cursors : ManagedReplayCursorStore
  published : List ReplicatedEvent
  held : bus.events.map EventBusTransportEvent.content = published.map ReplicatedEvent.content

namespace Replica

def publish (r : Replica) (nowMs : Fin (2 ^ 128)) (e : ReplicatedEvent) : Option Replica :=
  match h : r.bus.publish (e.publication nowMs) with
  | some bus =>
    some
      { bus := bus
        cursors := r.cursors
        published := r.published ++ [e]
        held := by
          obtain ⟨_, _, hevents⟩ := ManagedEventBusTransport.exists_events_publish h
          rw [hevents, List.map_append, List.map_append, r.held]
          rfl }
  | none => none

def applyNext (clock : ℕ → Fin (2 ^ 128)) (s : Replica × ℕ × Fin (2 ^ 64)) (e : ReplicatedEvent) :
    Option (Replica × ℕ × Fin (2 ^ 64)) :=
  (s.1.publish (clock s.2.1) e).map fun r => (r, s.2.1 + 1, max s.2.2 e.transportSequence)

def saveCursor (r : Replica) (nowMs : Fin (2 ^ 128)) (lastSeq : Fin (2 ^ 64)) : Replica :=
  if 0 < lastSeq then { r with cursors := r.cursors.save nowMs "cluster.replicated" lastSeq }
  else r

def applyEventReplication (r : Replica) (clock : ℕ → Fin (2 ^ 128))
    (events : List ReplicatedEvent) : Option (Replica × ℕ × Fin (2 ^ 64)) :=
  ((sortBatch events).foldlM (applyNext clock) (r, 0, 0)).map fun s =>
    (s.1.saveCursor (clock s.2.1) s.2.2, s.2)

end Replica

structure Delivery where
  clock : ℕ → Fin (2 ^ 128)
  events : List ReplicatedEvent

namespace Replica

def deliver (r : Replica) (d : Delivery) : Option Replica :=
  (r.applyEventReplication d.clock d.events).map Prod.fst

variable {r r' : Replica} {d : Delivery}

theorem published_publish {now : Fin (2 ^ 128)} {e : ReplicatedEvent}
    (h : r.publish now e = some r') : r'.published = r.published ++ [e] := by
  rw [publish] at h
  split at h
  · exact congrArg published (some.inj h).symm
  · cases h

theorem published_saveCursor (r : Replica) (now : Fin (2 ^ 128)) (lastSeq : Fin (2 ^ 64)) :
    (r.saveCursor now lastSeq).published = r.published := by
  rw [saveCursor]
  split_ifs <;> rfl

theorem published_foldlM {clock : ℕ → Fin (2 ^ 128)} {events : List ReplicatedEvent}
    {s s' : Replica × ℕ × Fin (2 ^ 64)} (h : events.foldlM (applyNext clock) s = some s') :
    s'.1.published = s.1.published ++ events := by
  induction events generalizing s with
  | nil =>
    obtain rfl : s = s' := some.inj h
    rw [append_nil]
  | cons e events ih =>
    rw [foldlM_cons] at h
    obtain ⟨s₁, hnext, hrest⟩ := bind_eq_some_iff.mp h
    obtain ⟨r₁, hpub, rfl⟩ := map_eq_some_iff.mp hnext
    rw [ih hrest, published_publish hpub, append_assoc, singleton_append]

theorem published_deliver (h : r.deliver d = some r') :
    r'.published = r.published ++ sortBatch d.events := by
  obtain ⟨answer, hans, rfl⟩ := map_eq_some_iff.mp h
  obtain ⟨s, hs, rfl⟩ := map_eq_some_iff.mp hans
  rw [published_saveCursor]
  exact published_foldlM hs

theorem published_run {ds : List Delivery} (h : run deliver r ds = some r') :
    r'.published = r.published ++ ds.flatMap fun d => sortBatch d.events := by
  induction ds generalizing r with
  | nil =>
    obtain rfl : r = r' := some.inj h
    rw [flatMap_nil, append_nil]
  | cons d ds ih =>
    obtain ⟨r₁, hdeli, hrun⟩ := bind_eq_some_iff.mp h
    rw [ih hrun, published_deliver hdeli, flatMap_cons, append_assoc]

/-- **The batches are made of the events of the source.** -/
def Delivers (source : List ReplicatedEvent) (deliveries : List Delivery) : Prop :=
  ∀ e, e ∈ source ↔ ∃ d ∈ deliveries, e ∈ d.events

/-- **Each batch is later than those before it.** -/
def InOrder (deliveries : List Delivery) : Prop :=
  (∀ d ∈ deliveries, (d.events.map ReplicatedEvent.transportSequence).Nodup) ∧
    deliveries.Pairwise fun d d' => ∀ e ∈ d.events, ∀ e' ∈ d'.events, Precedes e e'

structure Replicates (r : Replica) (source : List ReplicatedEvent) : Prop where
  published : r.published = source
  contents : r.bus.events.map EventBusTransportEvent.content = source.map ReplicatedEvent.content

/-- **The bus is that of the source iff** the batches come in order and hold no event twice. -/
theorem replicates_iff {source : List ReplicatedEvent} {deliveries : List Delivery}
    (hsource : source.Pairwise Precedes) (hdelivers : Delivers source deliveries)
    (hempty : r.published = []) (h : run deliver r deliveries = some r') :
    r'.Replicates source ↔ InOrder deliveries := by
  have hpub := published_run h
  rw [hempty, nil_append] at hpub
  have hpair : (deliveries.flatMap fun d => sortBatch d.events).Pairwise Precedes ↔
      InOrder deliveries := by
    rw [pairwise_flatMap, InOrder]
    simp only [pairwise_sortBatch_iff, mem_sortBatch]
  rw [← hpair, ← hpub]
  constructor
  · intro hr
    rwa [hr.published]
  · intro hsrt
    have heq : r'.published = source := by
      refine hsrt.eq_of_mem_iff hsource fun e => ?_
      rw [hpub, hdelivers e, mem_flatMap]
      simp only [mem_sortBatch]
    exact ⟨heq, heq ▸ r'.held⟩

def empty : Replica := ⟨.inMemory .new, .inMemory ⟨∅⟩, [], rfl⟩

def entry (transportSequence : Fin (2 ^ 64)) (payloadJson : String) : ReplicatedEvent :=
  ⟨transportSequence, "accounts", "node-1", payloadJson⟩

def batch (events : List ReplicatedEvent) : Delivery := ⟨fun _ => 0, events⟩

theorem entries_replicated : ∃ r, run deliver empty
      [batch [entry 2 "credit", entry 1 "open"], batch [entry 3 "close"]] = some r ∧
    r.Replicates [entry 1 "open", entry 2 "credit", entry 3 "close"] := by
  obtain ⟨r, hr⟩ : ∃ r, run deliver empty
      [batch [entry 2 "credit", entry 1 "open"], batch [entry 3 "close"]] = some r := ⟨_, rfl⟩
  refine ⟨r, hr, (replicates_iff (by decide) (fun e => ?_) rfl hr).mpr ⟨by decide, ?_⟩⟩
  · simp only [batch, mem_cons, not_mem_nil, or_false, exists_eq_or_imp, exists_eq_left]
    tauto
  · simp only [batch, pairwise_cons]
    decide

/-- **A batch that overtakes another one changes the order.** -/
theorem entries_reordered :
    ((run deliver empty [batch [entry 2 "credit"], batch [entry 1 "open"]]).map fun r =>
      r.bus.events.map fun e => e.event.payloadJson) = some ["credit", "open"] ∧
    ((run deliver empty [batch [entry 1 "open", entry 2 "credit"],
        batch [entry 1 "open", entry 2 "credit"]]).map fun r =>
      r.bus.events.map fun e => e.event.payloadJson) =
        some ["open", "credit", "open", "credit"] := by
  decide +kernel

end Replica

end VngDatabase.Ingest
