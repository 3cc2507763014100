import VngDatabase.Bytes
import VngDatabase.OrderedMap

/-!
# The event bus

Events are published to streams and read from them (`crates/voltnuerongrid-ingest/src/lib.rs`). All
streams share one vector of events, numbered from `1` on, which holds no more than it may have bytes
(`eventCapacity`).
-/

namespace VngDatabase.Ingest

open List

inductive StreamDirection
  | inbound
  | outbound
  | internal
  deriving DecidableEq

structure Publication where
  streamName : String
  direction : StreamDirection
  origin : String
  occurredEpochMs : Fin (2 ^ 128)
  payloadJson : String
  attributes : OrderedMap String String

structure StreamEventEnvelope where
  eventId : Fin (2 ^ 64)
  streamName : String
  direction : StreamDirection
  origin : String
  occurredEpochMs : Fin (2 ^ 128)
  payloadJson : String
  attributes : OrderedMap String String

structure EventBusTransportEvent where
  transportSequence : Fin (2 ^ 64)
  event : StreamEventEnvelope

def Publication.event (p : Publication) (transportSequence eventId : Fin (2 ^ 64)) :
    EventBusTransportEvent where
  transportSequence := transportSequence
  event :=
    { eventId := eventId
      streamName := p.streamName
      direction := p.direction
      origin := p.origin
      occurredEpochMs := p.occurredEpochMs
      payloadJson := p.payloadJson
      attributes := p.attributes }

/-! ### Reading -/

def exportForStreamSince (events : List EventBusTransportEvent) (streamName : String)
    (lastEventId : Fin (2 ^ 64)) (maxItems : ℕ) : List StreamEventEnvelope :=
  ((events.filter fun e => e.event.streamName = streamName ∧ lastEventId < e.event.eventId).take
    maxItems).map EventBusTransportEvent.event

def lastEventIdForStream (events : List EventBusTransportEvent) (streamName : String) :
    Option (Fin (2 ^ 64)) :=
  (events.reverse.find? fun e => e.event.streamName = streamName).map fun e => e.event.eventId

/-! ### The bus in memory -/

def eventCapacity : ℕ := 2 ^ 63 - 1

structure InMemoryEventBusTransport where
  nextTransportSequence : Fin (2 ^ 64)
  nextEventId : Fin (2 ^ 64)
  events : List EventBusTransportEvent
  next : nextTransportSequence.val = events.length + 1 ∧ nextEventId.val = events.length + 1
  numbered : ∀ (i : ℕ) (e : EventBusTransportEvent), events[i]? = some e →
    e.transportSequence.val = i + 1 ∧ e.event.eventId.val = i + 1

theorem val_add_one {n : Fin (2 ^ 64)} (h : n.val + 1 < 2 ^ 64) : (n + 1).val = n.val + 1 := by
  rw [Fin.val_add_one_of_lt' (by omega)]

namespace InMemoryEventBusTransport

variable (bus : InMemoryEventBusTransport) (streamName : String)

def new : InMemoryEventBusTransport where
  nextTransportSequence := 1
  nextEventId := 1
  events := []
  next := ⟨rfl, rfl⟩
  numbered := nofun

def nextEvent (p : Publication) : EventBusTransportEvent :=
  p.event bus.nextTransportSequence bus.nextEventId

def publish (p : Publication) : Option InMemoryEventBusTransport :=
  if h : bus.events.length < eventCapacity then
    some
      { nextTransportSequence := bus.nextTransportSequence + 1
        nextEventId := bus.nextEventId + 1
        events := bus.events ++ [bus.nextEvent p]
        next := by
          obtain ⟨hseq, hid⟩ := bus.next
          rw [eventCapacity] at h
          rw [val_add_one (by omega), val_add_one (by omega), hseq, hid, length_append]
          exact ⟨rfl, rfl⟩
        numbered := by
          intro i e he
          rcases Nat.lt_trichotomy i bus.events.length with hi | rfl | hi
          · rw [List.getElem?_append_left hi] at he
            exact bus.numbered i e he
          · rw [List.getElem?_concat_length, Option.some.injEq] at he
            exact he ▸ bus.next
          · rw [List.getElem?_eq_none (by rw [length_append]; exact hi)] at he
            cases he }
  else none

def exportForStreamSince (lastEventId : Fin (2 ^ 64)) (maxItems : ℕ) : List StreamEventEnvelope :=
  Ingest.exportForStreamSince bus.events streamName lastEventId maxItems

def lastEventIdForStream : Option (Fin (2 ^ 64)) :=
  Ingest.lastEventIdForStream bus.events streamName

theorem events_publish {bus bus' : InMemoryEventBusTransport} {p : Publication}
    (h : bus.publish p = some bus') : bus'.events = bus.events ++ [bus.nextEvent p] := by
  rw [publish] at h
  split_ifs at h
  exact congrArg events (Option.some.inj h).symm

theorem pairwise_events : bus.events.Pairwise fun e e' => e.event.eventId < e'.event.eventId := by
  rw [pairwise_iff_getElem]
  intro i j hi hj hij
  have hfst := (bus.numbered i _ (getElem?_eq_getElem hi)).2
  have hsec := (bus.numbered j _ (getElem?_eq_getElem hj)).2
  rw [Fin.lt_def]
  omega

def stream : List StreamEventEnvelope :=
  (bus.events.filter fun e => e.event.streamName = streamName).map EventBusTransportEvent.event

theorem stream_publish {bus bus' : InMemoryEventBusTransport} {p : Publication}
    (h : bus.publish p = some bus') (streamName : String) :
    bus.stream streamName <+: bus'.stream streamName := by
  rw [stream, stream, events_publish h, filter_append, map_append]
  exact prefix_append _ _

theorem pairwise_stream : (bus.stream streamName).Pairwise fun e e' => e.eventId < e'.eventId :=
  pairwise_map.mpr (bus.pairwise_events.filter _)

theorem pos_of_mem_stream {bus : InMemoryEventBusTransport} {name : String}
    {e : StreamEventEnvelope} (h : e ∈ bus.stream name) : 0 < e.eventId := by
  obtain ⟨t, ht, rfl⟩ := mem_map.mp h
  obtain ⟨i, hi⟩ := mem_iff_getElem?.mp (mem_filter.mp ht).1
  have hid := (bus.numbered i t hi).2
  rw [Fin.lt_def]
  exact hid ▸ Nat.succ_pos i

theorem exportForStreamSince_eq {read rest : List StreamEventEnvelope}
    (h : bus.stream streamName = read ++ rest) (maxItems : ℕ) :
    bus.exportForStreamSince streamName ((read.getLast?.map StreamEventEnvelope.eventId).getD 0)
      maxItems = rest.take maxItems := by
  have hspl : bus.exportForStreamSince streamName
      ((read.getLast?.map StreamEventEnvelope.eventId).getD 0) maxItems =
      ((bus.stream streamName).filter fun e =>
        (read.getLast?.map StreamEventEnvelope.eventId).getD 0 < e.eventId).take maxItems := by
    rw [exportForStreamSince, Ingest.exportForStreamSince, stream, filter_map,
      filter_filter, map_take]
    simp only [Bool.decide_and, Function.comp_def, Bool.and_comm]
  have hsrt := bus.pairwise_stream streamName
  have hpos : ∀ e ∈ bus.stream streamName, 0 < e.eventId := fun _ => pos_of_mem_stream
  rw [h] at hsrt hpos
  obtain ⟨hread, -, hlt⟩ := pairwise_append.mp hsrt
  have hcur :
      (∀ e ∈ read, ¬(read.getLast?.map StreamEventEnvelope.eventId).getD 0 < e.eventId) ∧
        ∀ e ∈ rest, (read.getLast?.map StreamEventEnvelope.eventId).getD 0 < e.eventId := by
    rcases eq_nil_or_concat read with rfl | ⟨pre, last, rfl⟩
    · exact ⟨nofun, fun e he => hpos e he⟩
    · rw [concat_eq_append] at hread hlt ⊢
      rw [getLast?_concat]
      refine ⟨fun e he => ?_, fun e he => hlt last (by simp) e he⟩
      rcases mem_append.mp he with he | he
      · exact ((pairwise_append.mp hread).2.2 e he last (by simp)).not_gt
      · rw [mem_singleton.mp he]
        exact lt_irrefl _
  have hnone : read.filter (fun e => (read.getLast?.map StreamEventEnvelope.eventId).getD 0 <
      e.eventId) = [] :=
    filter_eq_nil_iff.mpr fun e he => by simpa using hcur.1 e he
  have hall : rest.filter (fun e => (read.getLast?.map StreamEventEnvelope.eventId).getD 0 <
      e.eventId) = rest :=
    filter_eq_self.mpr fun e he => decide_eq_true (hcur.2 e he)
  rw [hspl, h, filter_append, hnone, hall, nil_append]

end InMemoryEventBusTransport

end VngDatabase.Ingest
