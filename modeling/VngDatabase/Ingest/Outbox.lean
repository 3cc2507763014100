import VngDatabase.Daemon.Ingest
import VngDatabase.Ingest.EventBus
import VngDatabase.Store.WalFile

/-!
# The outbox

Consumers read the events of a stream in batches, after the last event they have acknowledged, their
**cursor** (`ingest_outbox_replay` of `services/voltnuerongridd/src/handlers/ingest.rs`).
-/

namespace VngDatabase.Ingest

open Text Transition StreamEventEnvelope List Option
open Access (RuntimeAccessPrincipal)

/-! ### Cursors -/

structure InMemoryReplayCursorStore where
  checkpoints : Finmap fun _ : String => Fin (2 ^ 64)

namespace InMemoryReplayCursorStore

def load (store : InMemoryReplayCursorStore) (streamName : String) : Option (Fin (2 ^ 64)) :=
  store.checkpoints.lookup streamName

def save (store : InMemoryReplayCursorStore) (streamName : String)
    (lastReplayedEventId : Fin (2 ^ 64)) : InMemoryReplayCursorStore :=
  ⟨store.checkpoints.insert streamName lastReplayedEventId⟩

end InMemoryReplayCursorStore

def HoldsRecords (adapter : FileWalAdapter) : Prop :=
  ∃ records, adapter = FileWalAdapter.appendAll {} records ∧
    ∀ record ∈ records, record.value.toList.getLast? ≠ some '\r'

structure WalBackedReplayCursorStore where
  adapter : FileWalAdapter
  sequence : Fin (2 ^ 64)
  records : HoldsRecords adapter

theorem getLast?_toString_ne (n : ℕ) : (toString n).toList.getLast? ≠ some '\r' := by
  intro h
  have hmem : '\r' ∈ Nat.toDigits 10 n := by
    rw [← Nat.toList_repr]
    exact mem_of_getLast? h
  exact absurd (isDigit_toDigits n _ hmem) (by decide)

theorem HoldsRecords.append {adapter : FileWalAdapter} (h : HoldsRecords adapter)
    {record : WalRecord} (hval : record.value.toList.getLast? ≠ some '\r') :
    HoldsRecords (adapter.append record) := by
  obtain ⟨records, rfl, hvals⟩ := h
  refine ⟨records ++ [record], ?_, ?_⟩
  · rw [FileWalAdapter.appendAll_concat]
  · intro record' hmem
    rcases mem_append.mp hmem with hmem | hmem
    · exact hvals record' hmem
    · rwa [mem_singleton.mp hmem]

namespace WalBackedReplayCursorStore

variable (store : WalBackedReplayCursorStore)

def new (adapter : FileWalAdapter) (records : HoldsRecords adapter) :
    WalBackedReplayCursorStore where
  adapter := adapter
  sequence :=
    match adapter.readAll with
    | .ok records => ((records.map WalRecord.sequence).max?.map (· + 1)).getD 1
    | .error _ => 1
  records := records

def walKey (streamName : String) : String := "replay_cursor::" ++ streamName

def load (streamName : String) : Option (Fin (2 ^ 64)) :=
  match store.adapter.readAll with
  | .ok records =>
    (records.reverse.find? fun record => record.key = walKey streamName).bind fun record =>
      parseUnsigned (2 ^ 64) record.value.toList
  | .error _ => none

def save (nowMs : Fin (2 ^ 128)) (streamName : String)
    (lastReplayedEventId : Fin (2 ^ 64)) : WalBackedReplayCursorStore where
  adapter := store.adapter.append
    ⟨store.sequence, nowMs, walKey streamName, toString lastReplayedEventId.val⟩
  sequence := store.sequence + 1
  records := store.records.append (getLast?_toString_ne _)

theorem walKey_inj {k k' : String} : walKey k = walKey k' ↔ k = k' := by
  constructor
  · delta walKey
    intro h
    have hlist := congrArg String.toList h
    rw [String.toList_append, String.toList_append] at hlist
    exact String.toList_inj.mp (append_cancel_left hlist)
  · exact congrArg walKey

theorem load_save (now : Fin (2 ^ 128)) (k k' : String) (id : Fin (2 ^ 64)) :
    (store.save now k id).load k' = if k' = k then some id else store.load k' := by
  obtain ⟨records, hada, hvals⟩ := store.records
  have hread : store.adapter.readAll = .ok records := by
    rw [hada]
    exact (FileWalAdapter.readAll_appendAll_iff records).mpr hvals
  have hread' : (store.save now k id).adapter.readAll =
      .ok (records ++ [⟨store.sequence, now, walKey k, toString id.val⟩]) := by
    have happ : (store.save now k id).adapter =
        store.adapter.append ⟨store.sequence, now, walKey k, toString id.val⟩ := rfl
    rw [happ, hada, ← FileWalAdapter.appendAll_concat]
    refine (FileWalAdapter.readAll_appendAll_iff _).mpr (forall_mem_append.mpr ⟨hvals, ?_⟩)
    exact forall_mem_singleton.mpr (getLast?_toString_ne _)
  rw [load, hread', load, hread]
  dsimp only
  rw [reverse_append, reverse_singleton, singleton_append]
  split_ifs with hk
  · rw [hk, find?_cons_of_pos (by simp), bind_some,
      show (toString id.val).toList = Nat.toDigits 10 id from Nat.toList_repr]
    exact parseUnsigned_toDigits id
  · have hne : walKey k ≠ walKey k' := fun h => hk (walKey_inj.mp h).symm
    rw [find?_cons_of_neg (by simpa using hne)]

end WalBackedReplayCursorStore

inductive ManagedReplayCursorStore
  | inMemory (store : InMemoryReplayCursorStore)
  | walBacked (store : WalBackedReplayCursorStore)

namespace ManagedReplayCursorStore

def load : ManagedReplayCursorStore → String → Option (Fin (2 ^ 64))
  | .inMemory store => store.load
  | .walBacked store => store.load

def save (nowMs : Fin (2 ^ 128)) (streamName : String) (lastReplayedEventId : Fin (2 ^ 64)) :
    ManagedReplayCursorStore → ManagedReplayCursorStore
  | .inMemory store => .inMemory (store.save streamName lastReplayedEventId)
  | .walBacked store => .walBacked (store.save nowMs streamName lastReplayedEventId)

theorem load_save (store : ManagedReplayCursorStore) (now : Fin (2 ^ 128)) (k k' : String)
    (id : Fin (2 ^ 64)) :
    (store.save now k id).load k' = if k' = k then some id else store.load k' := by
  cases store with
  | inMemory store =>
    change Finmap.lookup k' (store.checkpoints.insert k id) = _
    split_ifs with hk
    · rw [hk, Finmap.lookup_insert]
    · rw [Finmap.lookup_insert_of_ne _ hk]
      rfl
  | walBacked store => exact store.load_save now k k' id

end ManagedReplayCursorStore

def ingestOutboxStreamName (storageKey : String) : String :=
  "ingest.outbox." ++ String.ofList
    (replace [' '] ['_'] (replace [':'] ['.'] (replace ['/'] ['.'] storageKey.toList)))

def cursorKey (consumerId streamName : String) : String :=
  "consumer/" ++ consumerId ++ "/" ++ streamName

theorem notMem_replace {c d : Char} {new cs : List Char} (hnew : c ∉ new)
    (h : c = d ∨ c ∉ cs) : c ∉ replace [d] new cs := by
  rw [replace_singleton, mem_flatMap]
  rintro ⟨e, he, hmem⟩
  split_ifs at hmem with hd
  · exact hnew hmem
  · obtain rfl := mem_singleton.mp hmem
    exact h.elim hd fun hcs => hcs he

theorem slash_notMem_streamName (storageKey : String) :
    '/' ∉ (ingestOutboxStreamName storageKey).toList := by
  delta ingestOutboxStreamName
  rw [String.toList_append, mem_append, not_or]
  refine ⟨by decide, ?_⟩
  rw [String.toList_ofList]
  exact notMem_replace (by decide) (Or.inr (notMem_replace (by decide)
    (Or.inr (notMem_replace (by decide) (Or.inl rfl)))))

theorem cursorKey_inj {con con' stream stream' : String} (h : '/' ∉ stream.toList)
    (h' : '/' ∉ stream'.toList) :
    cursorKey con stream = cursorKey con' stream' ↔
      con = con' ∧ stream = stream' := by
  constructor
  · intro heq
    have hlist := congrArg (fun s => s.toList.reverse) heq
    simp only [cursorKey, String.toList_append, reverse_append, append_assoc] at hlist
    have hsl : "/".toList.reverse = ['/'] := rfl
    rw [hsl, singleton_append, singleton_append] at hlist
    have hstr := eq_of_append_cons_eq (by simpa using h) (by simpa using h') hlist
    rw [hstr] at hlist
    have hcon := append_cancel_right
      (cons.inj (append_cancel_left hlist)).2
    exact ⟨String.toList_inj.mp (reverse_inj.mp hcon), String.toList_inj.mp (reverse_inj.mp hstr)⟩
  · rintro ⟨rfl, rfl⟩
    rfl

/-! ### Replaying -/

structure IngestOutboxReplayRequest where
  connectorId : String
  consumerId : Option String
  maxItems : Option ℕ
  acknowledge : Option Bool

def IngestOutboxReplayRequest.consumer (req : IngestOutboxReplayRequest) : String :=
  (req.consumerId.filter fun value => trim value.toList ≠ []).getD "default-consumer"

def IngestOutboxReplayRequest.stream (req : IngestOutboxReplayRequest)
    (principal : RuntimeAccessPrincipal) : String :=
  ingestOutboxStreamName (Daemon.ingestStorageKey principal req.connectorId)

def IngestOutboxReplayRequest.limit (req : IngestOutboxReplayRequest) : ℕ :=
  min (req.maxItems.getD 100) 1000

structure IngestOutboxReplayEventResponse where
  replayKey : String
  eventId : Fin (2 ^ 64)
  streamName : String
  origin : String
  payloadJson : String

structure IngestOutboxReplayResponse where
  deliveryState : String
  streamName : String
  consumerId : String
  deliveredCount : ℕ
  cursorBeforeAck : Option (Fin (2 ^ 64))
  cursorAfterAck : Option (Fin (2 ^ 64))
  acknowledged : Bool
  events : List IngestOutboxReplayEventResponse

def StreamEventEnvelope.response (e : StreamEventEnvelope) : IngestOutboxReplayEventResponse where
  replayKey := e.streamName ++ ":" ++ toString e.eventId.val
  eventId := e.eventId
  streamName := e.streamName
  origin := e.origin
  payloadJson := e.payloadJson

/-- **The outbox**: the bus, the cursors, and the answers so far. -/
structure Outbox where
  bus : InMemoryEventBusTransport
  cursors : ManagedReplayCursorStore
  answered : List IngestOutboxReplayResponse

namespace Outbox

def ingestOutboxReplay (o : Outbox) (nowMs : Fin (2 ^ 128)) (principal : RuntimeAccessPrincipal)
    (req : IngestOutboxReplayRequest) : ManagedReplayCursorStore × IngestOutboxReplayResponse :=
  let streamName := req.stream principal
  let key := cursorKey req.consumer streamName
  let acknowledge := req.acknowledge.getD true
  let before := o.cursors.load key
  let delivered := o.bus.exportForStreamSince streamName (before.getD 0) req.limit
  let cursors :=
    match acknowledge, delivered.getLast? with
    | true, some last => o.cursors.save nowMs key last.eventId
    | _, _ => o.cursors
  (cursors,
    { deliveryState :=
        if delivered.isEmpty then "already_acknowledged"
        else if acknowledge then "delivered_and_acked"
        else "delivered_pending_ack"
      streamName := streamName
      consumerId := req.consumer
      deliveredCount := delivered.length
      cursorBeforeAck := before
      cursorAfterAck := if acknowledge && !delivered.isEmpty then cursors.load key else before
      acknowledged := acknowledge
      events := delivered.map response })

end Outbox

inductive OutboxCall
  | publish (p : Publication)
  | replay (nowMs : Fin (2 ^ 128)) (principal : RuntimeAccessPrincipal)
      (req : IngestOutboxReplayRequest)

namespace Outbox

def replay (o : Outbox) (nowMs : Fin (2 ^ 128)) (principal : RuntimeAccessPrincipal)
    (req : IngestOutboxReplayRequest) : Outbox :=
  { o with
    cursors := (o.ingestOutboxReplay nowMs principal req).1
    answered := o.answered ++ [(o.ingestOutboxReplay nowMs principal req).2] }

def step (o : Outbox) : OutboxCall → Option Outbox
  | .publish p => (o.bus.publish p).map fun bus => { o with bus }
  | .replay nowMs principal req => some (o.replay nowMs principal req)

def start (cursors : ManagedReplayCursorStore) : Outbox := ⟨.new, cursors, []⟩

def answersTo (o : Outbox) (consumer stream : String) : List IngestOutboxReplayResponse :=
  o.answered.filter fun r => r.consumerId = consumer ∧ r.streamName = stream

def acked (o : Outbox) (consumer stream : String) : List IngestOutboxReplayEventResponse :=
  ((o.answersTo consumer stream).filter fun r => r.acknowledged).flatMap
    IngestOutboxReplayResponse.events

variable {o o' : Outbox} {consumer stream : String} {nowMs : Fin (2 ^ 128)}
  {principal : RuntimeAccessPrincipal} {req : IngestOutboxReplayRequest}

theorem answersTo_replay (o : Outbox) (now : Fin (2 ^ 128)) (who : RuntimeAccessPrincipal)
    (req : IngestOutboxReplayRequest) (con stream : String) :
    (o.replay now who req).answersTo con stream =
      o.answersTo con stream ++
        if req.consumer = con ∧ req.stream who = stream then
          [(o.ingestOutboxReplay now who req).2]
        else [] := by
  rw [answersTo, replay, filter_append, answersTo, filter_singleton]
  congr 1
  simp [ingestOutboxReplay]

theorem acked_replay (o : Outbox) (now : Fin (2 ^ 128)) (who : RuntimeAccessPrincipal)
    (req : IngestOutboxReplayRequest) (con stream : String) :
    (o.replay now who req).acked con stream =
      o.acked con stream ++
        if (req.consumer = con ∧ req.stream who = stream) ∧
            req.acknowledge.getD true = true then
          (o.ingestOutboxReplay now who req).2.events
        else [] := by
  rw [acked, answersTo_replay, filter_append, flatMap_append, acked]
  congr 1
  by_cases hpair : req.consumer = con ∧ req.stream who = stream
  · cases hack : req.acknowledge.getD true <;> simp [hpair, hack, ingestOutboxReplay]
  · simp [hpair]

theorem load_replay (o : Outbox) (now : Fin (2 ^ 128)) (who : RuntimeAccessPrincipal)
    (req : IngestOutboxReplayRequest) (key : String) :
    (o.replay now who req).cursors.load key =
      if key = cursorKey req.consumer (req.stream who) ∧
          req.acknowledge.getD true = true then
        ((o.bus.exportForStreamSince (req.stream who)
          ((o.cursors.load (cursorKey req.consumer (req.stream who))).getD 0)
          req.limit).getLast?.map eventId).or (o.cursors.load key)
      else o.cursors.load key := by
  rw [replay, ingestOutboxReplay]
  dsimp only
  generalize o.bus.exportForStreamSince (req.stream who)
    ((o.cursors.load (cursorKey req.consumer (req.stream who))).getD 0) req.limit = delivered
  cases hack : req.acknowledge.getD true with
  | false => simp
  | true =>
    cases hlast : delivered.getLast? with
    | none => simp
    | some last =>
      rw [ManagedReplayCursorStore.load_save]
      simp only [and_true, map_some, some_or]

theorem cursorKey_ne (hsl : '/' ∉ stream.toList)
    (hne : ¬(req.consumer = consumer ∧ req.stream principal = stream)) :
    cursorKey consumer stream ≠ cursorKey req.consumer (req.stream principal) := by
  intro heq
  obtain ⟨hc, hs⟩ := (cursorKey_inj hsl (slash_notMem_streamName _)).mp heq
  exact hne ⟨hc.symm, hs.symm⟩

structure Read (o : Outbox) (consumer stream : String) (read : List StreamEventEnvelope) :
    Prop where
  isPrefix : read <+: o.bus.stream stream
  acked : o.acked consumer stream = read.map response
  cursor : o.cursors.load (cursorKey consumer stream) =
    read.getLast?.map eventId

variable {read : List StreamEventEnvelope} {calls : List OutboxCall}

theorem Read.exported (h : o.Read consumer stream read) (maxItems : ℕ) :
    o.bus.exportForStreamSince stream
        ((o.cursors.load (cursorKey consumer stream)).getD 0) maxItems =
      ((o.bus.stream stream).drop read.length).take maxItems := by
  obtain ⟨rest, hrest⟩ := h.isPrefix
  rw [h.cursor, o.bus.exportForStreamSince_eq _ hrest.symm, ← hrest, drop_left]

theorem Read.replay_of_ne (h : o.Read consumer stream read) (hsl : '/' ∉ stream.toList)
    (hne : ¬(req.consumer = consumer ∧ req.stream principal = stream)) :
    (o.replay nowMs principal req).Read consumer stream read := by
  refine ⟨h.isPrefix, ?_, ?_⟩
  · rw [acked_replay, if_neg (fun hpair => hne hpair.1), append_nil, h.acked]
  · rw [load_replay, if_neg (fun hpair => cursorKey_ne hsl hne hpair.1), h.cursor]

theorem Read.replay_self (h : o.Read req.consumer (req.stream principal) read) :
    ∃ read', (o.replay nowMs principal req).Read req.consumer (req.stream principal) read' := by
  have hevs : (o.ingestOutboxReplay nowMs principal req).2.events =
      (((o.bus.stream (req.stream principal)).drop read.length).take req.limit).map
        response := by
    rw [← h.exported]
    rfl
  cases hack : req.acknowledge.getD true with
  | false =>
    refine ⟨read, h.isPrefix, ?_, ?_⟩
    · rw [acked_replay, hack, if_neg (fun hpair => Bool.false_ne_true hpair.2), append_nil, h.acked]
    · rw [load_replay, hack, if_neg (fun hpair => Bool.false_ne_true hpair.2), h.cursor]
  | true =>
    refine ⟨read ++ ((o.bus.stream (req.stream principal)).drop read.length).take req.limit,
      ?_, ?_, ?_⟩
    · obtain ⟨rest, hrest⟩ := h.isPrefix
      rw [← hrest, drop_left]
      change _ <+: o.bus.stream (req.stream principal)
      rw [← hrest]
      exact prefix_append_right_inj read |>.mpr ( take_prefix _ _)
    · rw [acked_replay, hack, if_pos ⟨⟨rfl, rfl⟩, rfl⟩, h.acked, hevs, map_append]
    · rw [load_replay, hack, if_pos ⟨rfl, rfl⟩, h.exported, h.cursor, getLast?_append, map_or]

theorem exists_read (h : run step o calls = some o') (hsl : '/' ∉ stream.toList)
    (hread : ∃ read, o.Read consumer stream read) : ∃ read, o'.Read consumer stream read := by
  induction calls generalizing o with
  | nil =>
    obtain rfl := some.inj h
    exact hread
  | cons call calls ih =>
    obtain ⟨o₁, hstep, hrun⟩ := bind_eq_some_iff.mp h
    obtain ⟨read, hread⟩ := hread
    refine ih hrun ?_
    cases call with
    | publish p =>
      obtain ⟨bus, hbus, rfl⟩ := map_eq_some_iff.mp hstep
      exact ⟨read, hread.isPrefix.trans (InMemoryEventBusTransport.stream_publish hbus stream),
        hread.acked, hread.cursor⟩
    | replay nowMs principal req =>
      obtain rfl := some.inj hstep
      by_cases hpair : req.consumer = consumer ∧ req.stream principal = stream
      · obtain ⟨rfl, rfl⟩ := hpair
        exact hread.replay_self
      · exact ⟨read, hread.replay_of_ne hsl hpair⟩

/-! ### Others -/

def Concerns (consumer stream : String) : OutboxCall → Prop
  | .publish _ => True
  | .replay _ principal req => req.consumer = consumer ∧ req.stream principal = stream

instance (consumer stream : String) : ∀ call, Decidable (Concerns consumer stream call)
  | .publish _ => .isTrue trivial
  | .replay _ principal req =>
    inferInstanceAs (Decidable (req.consumer = consumer ∧ req.stream principal = stream))

structure Alike (consumer stream : String) (o o' : Outbox) : Prop where
  bus : o.bus = o'.bus
  cursor : o.cursors.load (cursorKey consumer stream) =
    o'.cursors.load (cursorKey consumer stream)
  answers : o.answersTo consumer stream = o'.answersTo consumer stream

theorem ingestOutboxReplay_congr (hbus : o.bus = o'.bus)
    (hcur : o.cursors.load (cursorKey req.consumer (req.stream principal)) =
      o'.cursors.load (cursorKey req.consumer (req.stream principal))) :
    (o.ingestOutboxReplay nowMs principal req).2 =
      (o'.ingestOutboxReplay nowMs principal req).2 := by
  rw [ingestOutboxReplay, ingestOutboxReplay]
  dsimp only
  rw [hbus, hcur]
  generalize o'.bus.exportForStreamSince (req.stream principal)
    ((o'.cursors.load (cursorKey req.consumer (req.stream principal))).getD 0) req.limit =
      delivered
  cases hack : req.acknowledge.getD true with
  | false => rfl
  | true =>
    cases hlast : delivered.getLast? with
    | none =>
      rw [getLast?_eq_none_iff.mp hlast]
      rfl
    | some last =>
      simp only [ManagedReplayCursorStore.load_save, if_true]

theorem Alike.replay_self (h : Alike consumer stream o o')
    (hpair : req.consumer = consumer ∧ req.stream principal = stream) :
    Alike consumer stream (o.replay nowMs principal req) (o'.replay nowMs principal req) := by
  obtain ⟨rfl, rfl⟩ := hpair
  refine ⟨h.bus, ?_, ?_⟩
  · rw [load_replay, load_replay, h.bus, h.cursor]
  · rw [answersTo_replay, answersTo_replay, h.answers, ingestOutboxReplay_congr h.bus h.cursor]

theorem Alike.replay_of_ne (h : Alike consumer stream o o') (hsl : '/' ∉ stream.toList)
    (hne : ¬(req.consumer = consumer ∧ req.stream principal = stream)) :
    Alike consumer stream (o.replay nowMs principal req) o' := by
  refine ⟨h.bus, ?_, ?_⟩
  · rw [load_replay, if_neg (fun hpair => cursorKey_ne hsl hne hpair.1), h.cursor]
  · rw [answersTo_replay, if_neg hne, append_nil, h.answers]

theorem Alike.run_filter {o₁ : Outbox} (h : Alike consumer stream o o')
    (hsl : '/' ∉ stream.toList) (hrun : run step o calls = some o₁) :
    ∃ o₁', run step o' (calls.filter fun call => Concerns consumer stream call) = some o₁' ∧
      Alike consumer stream o₁ o₁' := by
  induction calls generalizing o o' with
  | nil =>
    obtain rfl := some.inj hrun
    exact ⟨o', rfl, h⟩
  | cons call calls ih =>
    obtain ⟨o₂, hstep, hrun⟩ := bind_eq_some_iff.mp hrun
    cases call with
    | publish p =>
      obtain ⟨bus, hbus, rfl⟩ := map_eq_some_iff.mp hstep
      have hcon : Concerns consumer stream (.publish p) := trivial
      have hali : Alike consumer stream { o with bus } { o' with bus } := ⟨rfl, h.cursor, h.answers⟩
      rw [filter_cons, if_pos (decide_eq_true hcon), run, step, ← h.bus, hbus]
      exact ih hali hrun
    | replay nowMs principal req =>
      obtain rfl := some.inj hstep
      by_cases hcon : Concerns consumer stream (.replay nowMs principal req)
      · rw [filter_cons, if_pos (decide_eq_true hcon), run, step, bind_some]
        exact ih (h.replay_self hcon) hrun
      · rw [filter_cons_of_neg (by simpa using hcon)]
        exact ih (h.replay_of_ne hsl hcon) hrun

/-- **Events are delivered in order, and to each consumer apart.** -/
theorem delivered_in_order {cursors : ManagedReplayCursorStore}
    (hcursors : ∀ key, cursors.load key = none) (h : run step (start cursors) calls = some o)
    (consumer storageKey : String) : let stream := ingestOutboxStreamName storageKey
    let events := (o.bus.stream stream).map response
    o.acked consumer stream <+: events ∧
      (∀ nowMs principal req, req.consumer = consumer → req.stream principal = stream →
        (o.ingestOutboxReplay nowMs principal req).2.events =
          (events.drop (o.acked consumer stream).length).take req.limit) ∧
      ∃ o', run step (start cursors)
          (calls.filter fun call => Concerns consumer stream call) = some o' ∧
        o'.answersTo consumer stream = o.answersTo consumer stream := by
  have hsl := slash_notMem_streamName storageKey
  have hst0 : (start cursors).Read consumer (ingestOutboxStreamName storageKey) [] :=
    ⟨ nil_prefix, rfl, hcursors _⟩
  obtain ⟨read, hread⟩ := exists_read h hsl ⟨[], hst0⟩
  refine ⟨?_, ?_, ?_⟩
  · rw [hread.acked]
    exact hread.isPrefix.map _
  · rintro nowMs principal req rfl hstr
    have hevs : (o.ingestOutboxReplay nowMs principal req).2.events =
        (o.bus.exportForStreamSince (req.stream principal)
          ((o.cursors.load (cursorKey req.consumer (req.stream principal))).getD 0)
          req.limit).map response := rfl
    rw [hevs, hstr, hread.exported, hread.acked, length_map, map_take, map_drop]
  · obtain ⟨o', hrun, hali⟩ := Alike.run_filter
      (⟨rfl, rfl, rfl⟩ : Alike consumer (ingestOutboxStreamName storageKey) (start cursors)
        (start cursors)) hsl h
    exact ⟨o', hrun, hali.answers.symm⟩

def emptyLog : ManagedReplayCursorStore := .walBacked (.new {} ⟨[], rfl, nofun⟩)

def order (payload : String) : OutboxCall :=
  .publish ⟨"ingest.outbox.orders", .internal, "node-1", 1000, payload, ∅⟩

def ask (consumer : String) (acknowledge : Bool) : OutboxCall :=
  .replay 2000 (.operator ⟨"op-1", .dba⟩) ⟨"orders", some consumer, some 1, some acknowledge⟩

def twoConsumers : List OutboxCall :=
  [order "a", order "b", ask "shop" false, ask "shop/2" true, ask "shop" true, ask "shop" true]

theorem twoConsumers_delivered : ∃ o, run step (start emptyLog) twoConsumers = some o ∧
    (o.acked "shop" "ingest.outbox.orders").map IngestOutboxReplayEventResponse.payloadJson =
      ["a", "b"] ∧
    o.acked "shop/2" "ingest.outbox.orders" <+:
      (o.bus.stream "ingest.outbox.orders").map response := by
  have hcur : ∀ key, emptyLog.load key = none := fun _ => rfl
  have hstr : ingestOutboxStreamName "orders" = "ingest.outbox.orders" := by decide +kernel
  obtain ⟨o, ho, hack⟩ := exists_of_run step (start emptyLog) twoConsumers
    (fun o => (o.acked "shop" "ingest.outbox.orders").map
      IngestOutboxReplayEventResponse.payloadJson = ["a", "b"]) (by decide +kernel)
  have hord := (delivered_in_order hcur ho "shop/2" "orders").1
  rw [hstr] at hord
  exact ⟨o, ho, hack, hord⟩

end Outbox

end VngDatabase.Ingest
