import VngDatabase.Ingest.EventBus
import VngDatabase.Store.WalFile
import VngDatabase.Transition

/-!
# The event bus in a file

`FileBackedEventBusTransport` of `crates/voltnuerongrid-ingest/src/lib.rs` keeps its events in a
vector and in a write-ahead log, from which the vector is filled again.
-/

namespace VngDatabase.Ingest

open Text Transition EventBusTransportEvent List Option

/-! ### Events as records -/

variable (entries : List (String × String)) (e : EventBusTransportEvent)
  (m : OrderedMap String String) {cs : List (List Char)}

def streamDirectionAsStr : StreamDirection → String
  | .inbound => "inbound"
  | .outbound => "outbound"
  | .internal => "internal"

def parseStreamDirection (value : String) : Except String StreamDirection :=
  let lower := toAsciiLowercase (String.ofList (trim value.toList))
  if lower = "inbound" then .ok .inbound
  else if lower = "outbound" then .ok .outbound
  else if lower = "internal" then .ok .internal
  else .error ("unsupported stream direction: " ++ lower)

def escapeComponent (value : List Char) : List Char := value.flatMap escapeChar

def unescapeComponent (value : List Char) : List Char := unescapeField value

def attributeComponents : List (List Char) :=
  entries.flatMap fun e => [e.1.toList, e.2.toList]

def headComponents : List (List Char) :=
  [Nat.toDigits 10 e.transportSequence, Nat.toDigits 10 e.event.eventId,
    e.event.streamName.toList, (streamDirectionAsStr e.event.direction).toList,
    e.event.origin.toList, Nat.toDigits 10 e.event.occurredEpochMs, e.event.payloadJson.toList,
    Nat.toDigits 10 e.event.attributes.entries.length]

/-- The attributes come last, in the order of their keys. -/
def components : List (List Char) :=
  headComponents e ++ attributeComponents e.event.attributes.entries

def joinComponents (cs : List (List Char)) : List Char :=
  ['\t'].intercalate (cs.map escapeComponent)

def encodeEventBusRecord : WalRecord where
  sequence := e.transportSequence
  timestampEpochMs := e.event.occurredEpochMs
  key := "eventbus::" ++ toString e.transportSequence.val
  value := String.ofList (joinComponents (components e))

def pairs : List (List Char) → List (String × String)
  | key :: value :: rest => (String.ofList key, String.ofList value) :: pairs rest
  | _ => []

def parseOr (bound : ℕ) (cs : List Char) (message : String) : Except String (Fin bound) :=
  match parseUnsigned bound cs with
  | some n => .ok n
  | none => .error message

def decodeEventBusRecord (record : WalRecord) : Except String EventBusTransportEvent :=
  let parts := (split ['\t'] record.value.toList).map unescapeComponent
  let number := toString record.sequence.val
  match parts with
  | transportSequence :: eventId :: streamName :: direction :: origin :: occurredEpochMs ::
      payloadJson :: attributeCount :: rest => do
    let transportSequence ← parseOr (2 ^ 64) transportSequence
      ("invalid transport sequence in record " ++ number)
    let eventId ← parseOr (2 ^ 64) eventId ("invalid event id in record " ++ number)
    let direction ← parseStreamDirection (String.ofList direction)
    let occurredEpochMs ← parseOr (2 ^ 128) occurredEpochMs
      ("invalid timestamp in record " ++ number)
    let attributeCount ← parseOr (2 ^ 64) attributeCount
      ("invalid attribute count in record " ++ number)
    -- the arithmetic is that of 64 bits
    let expectedLen := (8 + attributeCount.val * 2) % 2 ^ 64
    if parts.length ≠ expectedLen then
      .error ("event bus record " ++ number ++ " expected " ++ toString expectedLen ++
        " fields, found " ++ toString parts.length)
    else
      .ok
        { transportSequence := transportSequence
          event :=
            { eventId := eventId
              streamName := String.ofList streamName
              direction := direction
              origin := String.ofList origin
              occurredEpochMs := occurredEpochMs
              payloadJson := String.ofList payloadJson
              attributes := OrderedMap.putAll (pairs rest) } }
  | _ => .error ("event bus record missing required fields for sequence " ++ number)

theorem parseStreamDirection_asStr (d : StreamDirection) :
    parseStreamDirection (streamDirectionAsStr d) = .ok d := by
  cases d <;> decide

theorem parseOr_toDigits {bound : ℕ} (n : Fin bound) (msg : String) :
    parseOr bound (Nat.toDigits 10 n) msg = .ok n := by
  rw [parseOr, parseUnsigned_toDigits]

theorem pairs_attributeComponents : pairs (attributeComponents entries) = entries := by
  induction entries with
  | nil => rfl
  | cons e entries ih =>
    rw [attributeComponents, flatMap_cons, cons_append, cons_append, pairs,
      nil_append, String.ofList_toList, String.ofList_toList, ← attributeComponents, ih]

theorem length_attributeComponents : (attributeComponents entries).length = entries.length * 2 := by
  induction entries with
  | nil => rfl
  | cons e entries ih =>
    rw [attributeComponents, flatMap_cons, length_append, ← attributeComponents, ih, length_cons]
    simp only [length_cons, length_nil]
    omega

theorem escapeComponent_eq (value : List Char) : escapeComponent value = escapeField value :=
  (escapeField_eq_flatMap value).symm

theorem split_joinComponents (h : cs ≠ []) :
    (split ['\t'] (joinComponents cs)).map unescapeComponent = cs := by
  have htab : ∀ field ∈ cs.map escapeComponent, '\t' ∉ field := by
    intro field hfie
    obtain ⟨c, -, rfl⟩ := List.mem_map.mp hfie
    rw [escapeComponent_eq]
    exact notMem_escapeField (Or.inl rfl) c
  rw [joinComponents, split_intercalate (by simpa using h) htab, List.map_map]
  refine (List.map_congr_left fun c _ => ?_).trans (List.map_id cs)
  rw [Function.comp_apply, escapeComponent_eq, unescapeComponent, unescapeField_escapeField, id]

def mapCapacity : ℕ := (2 ^ 63 - 1) / 48

theorem decode_of_value {record : WalRecord} {e : EventBusTransportEvent}
    (hval : record.value.toList = joinComponents (components e))
    (hfits : e.event.attributes.entries.length ≤ mapCapacity) :
    decodeEventBusRecord record = .ok e := by
  rw [mapCapacity] at hfits
  have hpar : (split ['\t'] record.value.toList).map unescapeComponent = components e := by
    rw [hval]
    exact split_joinComponents (by simp [components, headComponents])
  have hcnt : parseOr (2 ^ 64) (Nat.toDigits 10 e.event.attributes.entries.length) =
      fun _ => .ok ⟨e.event.attributes.entries.length, by omega⟩ := by
    funext message
    exact parseOr_toDigits ⟨e.event.attributes.entries.length, by omega⟩ message
  have hlen : (components e).length =
      (8 + e.event.attributes.entries.length * 2) % 2 ^ 64 := by
    rw [components, headComponents, length_append, length_attributeComponents]
    simp only [length_cons, length_nil]
    omega
  have hatt : OrderedMap.putAll (pairs (attributeComponents e.event.attributes.entries)) =
      e.event.attributes := by
    rw [pairs_attributeComponents]
    exact OrderedMap.eq_of_entries_eq (OrderedMap.entries_putAll e.event.attributes.sorted)
  rw [decodeEventBusRecord, hpar]
  dsimp only
  rw [hlen]
  simp only [components, headComponents, cons_append, nil_append, parseOr_toDigits,
    hcnt, String.ofList_toList, parseStreamDirection_asStr, hatt]
  simp [bind, Except.bind]

/-! ### A carriage return at the end -/

def readBackEntries : List (String × String) :=
  entries.dropLast ++ (entries.getLast?.map fun e =>
    (e.1, String.ofList (dropReturn e.2.toList))).toList

theorem readBackEntries_concat (e : String × String) :
    readBackEntries (entries ++ [e]) =
      entries ++ [(e.1, String.ofList (dropReturn e.2.toList))] := by
  rw [readBackEntries, dropLast_concat, getLast?_concat]
  rfl

theorem map_fst_readBackEntries :
    (readBackEntries entries).map Prod.fst = entries.map Prod.fst := by
  rcases eq_nil_or_concat entries with rfl | ⟨entries, e, rfl⟩
  · rfl
  · rw [concat_eq_append, readBackEntries_concat, map_append, map_append]
    rfl

theorem length_readBackEntries : (readBackEntries entries).length = entries.length := by
  have hlen := congrArg length (map_fst_readBackEntries entries)
  rwa [length_map, length_map] at hlen

def readBackAttributes : OrderedMap String String where
  entries := readBackEntries m.entries
  sorted := by
    have hkeys : (m.entries.map Prod.fst).Pairwise (· < ·) := List.pairwise_map.mpr m.sorted
    rw [← map_fst_readBackEntries] at hkeys
    exact List.pairwise_map.mp hkeys

def EventBusTransportEvent.readBack : EventBusTransportEvent :=
  { e with event := { e.event with attributes := readBackAttributes e.event.attributes } }

/-- **The last attribute does not end in a carriage return.** -/
def Unreturned : Prop :=
  ∀ e ∈ m.entries.getLast?, e.2.toList.getLast? ≠ some '\r'

theorem readBackAttributes_eq_self_iff : readBackAttributes m = m ↔ Unreturned m := by
  have hents : readBackAttributes m = m ↔ readBackEntries m.entries = m.entries :=
    ⟨congrArg OrderedMap.entries, fun h => OrderedMap.eq_of_entries_eq h⟩
  rw [hents, Unreturned]
  rcases eq_nil_or_concat m.entries with h | ⟨entries, e, h⟩
  · rw [h]
    exact iff_of_true rfl nofun
  · rw [h, concat_eq_append, readBackEntries_concat, append_cancel_left_eq,
      getLast?_concat, cons.injEq, and_iff_left rfl, Prod.ext_iff, and_iff_right rfl]
    simp only [mem_def, some.injEq, forall_eq', ← dropReturn_eq_self_iff]
    constructor
    · intro heq
      rw [← String.toList_ofList (l := dropReturn e.2.toList), heq]
    · intro heq
      rw [heq, String.ofList_toList]

theorem EventBusTransportEvent.readBack_eq_self_iff :
    e.readBack = e ↔ Unreturned e.event.attributes := by
  rw [← readBackAttributes_eq_self_iff]
  constructor
  · exact congrArg fun e : EventBusTransportEvent => e.event.attributes
  · intro h
    rw [readBack, h]

theorem dropReturn_joinComponents (h : cs ≠ []) (c : List Char) :
    dropReturn (joinComponents (cs ++ [c])) = joinComponents (cs ++ [dropReturn c]) := by
  have hne : cs.map escapeComponent ≠ [] := by simpa using h
  rw [joinComponents, joinComponents, map_append, map_append, map_singleton,
    map_singleton, intercalate_concat hne, intercalate_concat hne,
    dropReturn_append_cons (by decide), escapeComponent_eq, escapeComponent_eq,
    dropReturn_escapeField]

theorem headComponents_readBack : headComponents e.readBack = headComponents e := by
  rw [headComponents, readBack, readBackAttributes]
  dsimp only
  rw [length_readBackEntries, headComponents]

theorem attributeComponents_concat (last : String × String) :
    attributeComponents (entries ++ [last]) =
      attributeComponents entries ++ [last.1.toList] ++ [last.2.toList] := by
  simp [attributeComponents]

theorem dropReturn_components :
    dropReturn (joinComponents (components e)) = joinComponents (components e.readBack) := by
  have hback : e.readBack.event.attributes.entries = readBackEntries e.event.attributes.entries :=
    rfl
  rw [components, components, headComponents_readBack, hback]
  rcases eq_nil_or_concat e.event.attributes.entries with h | ⟨entries, last, h⟩
  · -- the last component is the number of attributes
    have hdig : dropReturn (Nat.toDigits 10 e.event.attributes.entries.length) =
        Nat.toDigits 10 e.event.attributes.entries.length := by
      refine dropReturn_eq_self_iff.mpr fun hlast => ?_
      exact absurd (isDigit_toDigits _ _ (mem_of_getLast? hlast)) (by decide)
    have hhead : headComponents e = (headComponents e).take 7 ++
        [Nat.toDigits 10 e.event.attributes.entries.length] := rfl
    rw [h, show readBackEntries [] = [] from rfl, attributeComponents, flatMap_nil,
      append_nil, hhead, dropReturn_joinComponents (by simp [headComponents]), hdig]
  · rw [h, concat_eq_append, readBackEntries_concat, attributeComponents_concat,
      attributeComponents_concat, ← append_assoc, ← append_assoc,
      dropReturn_joinComponents (by simp), String.toList_ofList, ← append_assoc,
      ← append_assoc]

theorem decode_readBack {e : EventBusTransportEvent}
    (hfits : e.event.attributes.entries.length ≤ mapCapacity) :
    decodeEventBusRecord (encodeEventBusRecord e).readBack = .ok e.readBack := by
  refine decode_of_value ?_ ?_
  · rw [WalRecord.readBack, encodeEventBusRecord]
    dsimp only
    rw [String.toList_ofList, String.toList_ofList, dropReturn_components]
  · rw [readBack, readBackAttributes]
    dsimp only
    rwa [length_readBackEntries]

/-! ### The bus -/

inductive EventBusError
  | readFailed (err : WalAdapterError)
  | record (message : String)

structure FileBackedEventBusTransport where
  adapter : FileWalAdapter
  nextTransportSequence : Fin (2 ^ 64)
  nextEventId : Fin (2 ^ 64)
  events : List EventBusTransportEvent

namespace FileBackedEventBusTransport

variable (bus : FileBackedEventBusTransport)

def pushRecord (record : WalRecord) : Except EventBusError FileBackedEventBusTransport :=
  match decodeEventBusRecord record with
  | .error message => .error (.record message)
  | .ok decoded =>
    .ok
      { bus with
        nextTransportSequence := max bus.nextTransportSequence (decoded.transportSequence + 1)
        nextEventId := max bus.nextEventId (decoded.event.eventId + 1)
        events := bus.events ++ [decoded] }

def new (adapter : FileWalAdapter) : Except EventBusError FileBackedEventBusTransport :=
  match adapter.readAll with
  | .error err => .error (.readFailed err)
  | .ok records => records.foldlM pushRecord ⟨adapter, 1, 1, []⟩

def nextEvent (p : Publication) : EventBusTransportEvent :=
  p.event bus.nextTransportSequence bus.nextEventId

def publish (p : Publication) : Option FileBackedEventBusTransport :=
  if bus.events.length < eventCapacity then
    some
      { adapter := bus.adapter.append (encodeEventBusRecord (bus.nextEvent p))
        nextTransportSequence := bus.nextTransportSequence + 1
        nextEventId := bus.nextEventId + 1
        events := bus.events ++ [bus.nextEvent p] }
  else none

def exportForStreamSince (streamName : String)
    (lastEventId : Fin (2 ^ 64)) (maxItems : ℕ) : List StreamEventEnvelope :=
  Ingest.exportForStreamSince bus.events streamName lastEventId maxItems

def lastEventIdForStream (streamName : String) : Option (Fin (2 ^ 64)) :=
  Ingest.lastEventIdForStream bus.events streamName

end FileBackedEventBusTransport

inductive BusCall
  | publish (p : Publication) (fits : p.attributes.entries.length ≤ mapCapacity)
  | reopen

def InMemoryEventBusTransport.call (bus : InMemoryEventBusTransport) :
    BusCall → Option InMemoryEventBusTransport
  | .publish p _ => bus.publish p
  | .reopen => some bus

def FileBackedEventBusTransport.call (bus : FileBackedEventBusTransport) :
    BusCall → Option FileBackedEventBusTransport
  | .publish p _ => bus.publish p
  | .reopen => (FileBackedEventBusTransport.new bus.adapter).toOption

namespace FileBackedEventBusTransport

theorem foldlM_pushRecord (es : List EventBusTransportEvent) (bus : FileBackedEventBusTransport)
    (k : ℕ) (hfits : ∀ e ∈ es, e.event.attributes.entries.length ≤ mapCapacity)
    (hnum : ∀ (i : ℕ) (e : EventBusTransportEvent), es[i]? = some e →
      e.transportSequence.val = k + i + 1 ∧ e.event.eventId.val = k + i + 1)
    (hroom : k + es.length + 1 < 2 ^ 64) (hseq : bus.nextTransportSequence.val = k + 1)
    (hid : bus.nextEventId.val = k + 1) :
    ∃ bus', (es.map fun e => (encodeEventBusRecord e).readBack).foldlM pushRecord bus = .ok bus' ∧
      bus'.adapter = bus.adapter ∧ bus'.nextTransportSequence.val = k + es.length + 1 ∧
      bus'.nextEventId.val = k + es.length + 1 ∧
      bus'.events = bus.events ++ es.map readBack := by
  induction es generalizing bus k with
  | nil => exact ⟨bus, rfl, rfl, hseq, hid, (append_nil _).symm⟩
  | cons e es ih =>
    obtain ⟨heseq, heid⟩ := hnum 0 e rfl
    rw [length_cons] at hroom
    have hmax : ∀ {next n : Fin (2 ^ 64)}, next.val = k + 1 → n.val = k + 0 + 1 →
        (max next (n + 1)).val = k + 1 + 1 := by
      intro next n hnext hn
      have hsucc : (n + 1).val = k + 1 + 1 := by
        rw [val_add_one (by omega), hn]
      have hle : next ≤ n + 1 := by
        rw [Fin.le_def]
        omega
      rw [max_eq_right hle, hsucc]
    obtain ⟨bus', hfold, hada, hseq', hid', hevs⟩ := ih
      { bus with
        nextTransportSequence := max bus.nextTransportSequence (e.transportSequence + 1)
        nextEventId := max bus.nextEventId (e.event.eventId + 1)
        events := bus.events ++ [e.readBack] } (k + 1)
      (fun e' he' => hfits e' (mem_cons_of_mem e he'))
      (fun i e' he' => by
        have := hnum (i + 1) e' he'
        omega)
      (by omega) (hmax hseq heseq) (hmax hid heid)
    refine ⟨bus', ?_, hada, ?_, ?_, ?_⟩
    · rw [map_cons, foldlM_cons, pushRecord, decode_readBack (hfits e mem_cons_self)]
      exact hfold
    · rw [hseq', length_cons]
      omega
    · rw [hid', length_cons]
      omega
    · rw [hevs, append_assoc, map_cons]
      rfl

structure Mirrors (file : FileBackedEventBusTransport) (bus : InMemoryEventBusTransport) :
    Prop where
  adapter : file.adapter = FileWalAdapter.appendAll {} (bus.events.map encodeEventBusRecord)
  seq : file.nextTransportSequence = bus.nextTransportSequence
  id : file.nextEventId = bus.nextEventId
  length : file.events.length = bus.events.length
  fits : ∀ e ∈ bus.events, e.event.attributes.entries.length ≤ mapCapacity
  room : bus.events.length ≤ eventCapacity

variable {file : FileBackedEventBusTransport} {bus bus' : InMemoryEventBusTransport}
  (calls : List BusCall)

theorem Mirrors.publish (h : file.Mirrors bus) {p : Publication}
    (hfits : p.attributes.entries.length ≤ mapCapacity) (hbus : bus.publish p = some bus') :
    ∃ file', file.publish p = some file' ∧ file'.Mirrors bus' ∧
      file'.events = file.events ++ [bus.nextEvent p] := by
  have hnext : file.nextEvent p = bus.nextEvent p := by
    rw [nextEvent, InMemoryEventBusTransport.nextEvent, h.seq, h.id]
  have hevs := InMemoryEventBusTransport.events_publish hbus
  rw [InMemoryEventBusTransport.publish] at hbus
  split_ifs at hbus with hroom
  obtain rfl := some.inj hbus
  refine ⟨_, if_pos (h.length ▸ hroom), ?_, by rw [hnext]⟩
  refine ⟨?_, by rw [h.seq], by rw [h.id], ?_, ?_, ?_⟩
  · dsimp only
    rw [h.adapter, hnext, map_append, map_singleton, FileWalAdapter.appendAll_concat]
  · rw [length_append, length_append, h.length]
    rfl
  · intro e he
    rcases mem_append.mp he with he | he
    · exact h.fits e he
    · rw [mem_singleton.mp he]
      exact hfits
  · rw [length_append]
    exact hroom

theorem Mirrors.reopen (h : file.Mirrors bus) :
    ∃ file', (new file.adapter).toOption = some file' ∧ file'.Mirrors bus ∧
      file'.events = bus.events.map readBack := by
  have hroom := h.room
  rw [eventCapacity] at hroom
  obtain ⟨file', hfold, hada, hseq, hid, hevs⟩ := foldlM_pushRecord bus.events
    ⟨file.adapter, 1, 1, []⟩ 0 h.fits (by simpa using bus.numbered) (by omega) rfl rfl
  refine ⟨file', ?_, ⟨hada.trans h.adapter, ?_, ?_, ?_, h.fits, h.room⟩, hevs⟩
  · rw [new, h.adapter, FileWalAdapter.readAll_appendAll, List.map_map, ← h.adapter]
    dsimp only
    rw [show (WalRecord.readBack ∘ encodeEventBusRecord) =
      fun e => (encodeEventBusRecord e).readBack from rfl, hfold]
    rfl
  · rw [Fin.ext_iff, hseq, bus.next.1]
    omega
  · rw [Fin.ext_iff, hid, bus.next.2]
    omega
  · rw [hevs, nil_append, length_map]

/-- **The same can be read from both buses**, now and later. -/
structure Agree (file : FileBackedEventBusTransport) (bus : InMemoryEventBusTransport) : Prop where
  events : file.events = bus.events
  exported : ∀ streamName lastEventId maxItems,
    file.exportForStreamSince streamName lastEventId maxItems =
      bus.exportForStreamSince streamName lastEventId maxItems
  last : ∀ streamName, file.lastEventIdForStream streamName = bus.lastEventIdForStream streamName
  seq : file.nextTransportSequence = bus.nextTransportSequence
  id : file.nextEventId = bus.nextEventId

theorem Mirrors.agree_iff_events (h : file.Mirrors bus) :
    file.Agree bus ↔ file.events = bus.events := by
  refine ⟨Agree.events, fun hevs => ⟨hevs, fun _ _ _ => ?_, fun _ => ?_, h.seq, h.id⟩⟩
  · rw [exportForStreamSince, hevs, InMemoryEventBusTransport.exportForStreamSince]
  · rw [lastEventIdForStream, hevs, InMemoryEventBusTransport.lastEventIdForStream]

/-- **No event from before a reopening** ends in a carriage return. -/
def UnreturnedBefore : Prop :=
  ∀ pre, pre ++ [.reopen] <+: calls → ∀ p fits, .publish p fits ∈ pre → Unreturned p.attributes

theorem unreturnedBefore_publish (p : Publication)
    (fits : p.attributes.entries.length ≤ mapCapacity) :
    UnreturnedBefore (calls ++ [.publish p fits]) ↔ UnreturnedBefore calls := by
  refine forall_congr' fun pre => ?_
  rw [prefix_concat_iff]
  refine ⟨fun h hpre => h (Or.inr hpre), fun h hpre => h (hpre.resolve_left fun heq => ?_)⟩
  cases (append_inj_right' heq rfl)

theorem unreturnedBefore_reopen :
    UnreturnedBefore (calls ++ [.reopen]) ↔
      ∀ p fits, .publish p fits ∈ calls → Unreturned p.attributes := by
  constructor
  · exact fun h => h calls (prefix_refl _)
  · intro h pre hpre p fits hmem
    refine h p fits ?_
    rcases prefix_concat_iff.mp hpre with heq | hpre
    · rwa [← append_cancel_right heq]
    · exact hpre.subset (mem_append_left _ hmem)

def ofCalls : Option FileBackedEventBusTransport :=
  (new {}).toOption.bind fun file => run call file calls

theorem exists_mirrors {cs : List BusCall} :
    ∀ {bus : InMemoryEventBusTransport},
      run InMemoryEventBusTransport.call .new cs = some bus →
      ((∀ e ∈ bus.events, Unreturned e.event.attributes) ↔
        ∀ p fits, .publish p fits ∈ cs → Unreturned p.attributes) ∧
      ∃ file, ofCalls cs = some file ∧ file.Mirrors bus ∧
        (file.events = bus.events ↔ UnreturnedBefore cs) := by
  -- the calls are taken from the end: what matters is what was done last
  induction cs using reverseRecOn with
  | nil =>
    intro bus h
    obtain rfl := some.inj h
    refine ⟨iff_of_true nofun nofun, ⟨{}, 1, 1, []⟩, rfl, ⟨rfl, rfl, rfl, rfl, nofun, ?_⟩, ?_⟩
    · exact Nat.zero_le _
    · exact iff_of_true rfl fun pre hpre => absurd (prefix_nil.mp hpre) (by simp)
  | append_singleton cs call ih =>
    intro bus' h
    rw [run_concat] at h
    obtain ⟨bus, hbus, hcall⟩ := bind_eq_some_iff.mp h
    obtain ⟨hall, file, hfile, hmir, hevs⟩ := ih hbus
    have hfil : ofCalls (cs ++ [call]) = file.call call := by
      obtain ⟨start, hst0, hrun⟩ := bind_eq_some_iff.mp hfile
      rw [ofCalls, hst0, bind_some, run_concat, hrun]
      rfl
    rw [hfil]
    cases call with
    | publish p fits =>
      obtain ⟨file', hfile', hmir', hnew⟩ := hmir.publish fits hcall
      have hbus' := InMemoryEventBusTransport.events_publish hcall
      refine ⟨?_, file', hfile', hmir', ?_⟩
      · rw [hbus', forall_mem_append, hall, forall_mem_singleton]
        constructor
        · rintro ⟨hold, hlast⟩ p' fits' hmem
          rcases mem_append.mp hmem with hmem | hmem
          · exact hold p' fits' hmem
          · cases mem_singleton.mp hmem
            exact hlast
        · intro h
          exact ⟨fun p' fits' hmem => h p' fits' (mem_append_left _ hmem),
            h p fits (mem_append_right _ (mem_singleton_self _))⟩
      · rw [hnew, hbus', append_cancel_right_eq, hevs, unreturnedBefore_publish]
    | reopen =>
      obtain rfl := some.inj hcall
      obtain ⟨file', hfile', hmir', hnew⟩ := hmir.reopen
      refine ⟨?_, file', hfile', hmir', ?_⟩
      · rw [hall]
        refine forall_congr' fun p => forall_congr' fun fits => ?_
        rw [mem_append, mem_singleton, or_iff_left nofun]
      · rw [hnew, unreturnedBefore_reopen, ← hall]
        have hself := map_eq_map_iff (f := readBack) (g := id)
          (l := bus.events)
        rw [List.map_id] at hself
        simp only [hself, id_eq, readBack_eq_self_iff]

/-- **The bus on a file is the bus in memory iff** no event from before a reopening ends in a
carriage return. -/
theorem agree_iff {calls : List BusCall} {bus : InMemoryEventBusTransport}
    (h : run InMemoryEventBusTransport.call .new calls = some bus) :
    ∃ file, ofCalls calls = some file ∧ (file.Agree bus ↔ UnreturnedBefore calls) := by
  obtain ⟨-, file, hfile, hmir, hevs⟩ := exists_mirrors h
  exact ⟨file, hfile, hmir.agree_iff_events.trans hevs⟩

def note (value : String) : BusCall :=
  .publish ⟨"notes", .internal, "node-1", 1000, "\x7b\x7d", OrderedMap.put ∅ "state" value⟩
    (show 1 ≤ mapCapacity by decide)

theorem note_kept : ∃ bus file,
    run InMemoryEventBusTransport.call .new [note "done", .reopen, note "again\r"] = some bus ∧
      ofCalls [note "done", .reopen, note "again\r"] = some file ∧ file.Agree bus := by
  obtain ⟨bus, hbus⟩ : ∃ bus, run InMemoryEventBusTransport.call .new
      [note "done", .reopen, note "again\r"] = some bus := ⟨_, rfl⟩
  obtain ⟨file, hfile, hagr⟩ := agree_iff hbus
  refine ⟨bus, file, hbus, hfile, hagr.mpr ?_⟩
  refine (unreturnedBefore_publish [note "done", .reopen] _ _).mpr
    ((unreturnedBefore_reopen [note "done"]).mpr fun p fits hmem => ?_)
  cases mem_singleton.mp hmem
  rintro e he
  obtain rfl : ("state", "done") = e := some.inj he
  decide

/-- **The carriage return is gone.** -/
theorem note_returned :
    (run InMemoryEventBusTransport.call .new [note "done\r", .reopen]).map
        (fun bus => bus.events.map fun e => e.event.attributes.entries) =
      some [[("state", "done\r")]] ∧
    (ofCalls [note "done\r", .reopen]).map
        (fun file => file.events.map fun e => e.event.attributes.entries) =
      some [[("state", "done")]] := by
  decide +kernel

end FileBackedEventBusTransport

end VngDatabase.Ingest
