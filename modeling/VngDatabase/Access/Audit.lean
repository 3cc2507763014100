import VngDatabase.Bytes

/-!
# The chain of audit events

Audit events are chained by hashes (`crates/voltnuerongrid-audit/src/lib.rs`): each event holds a
hash of the previous hash and of its own number, actor, action, outcome and details, joined by bars
(`AuditEvent.chained`).
-/

namespace VngDatabase.Access

open List

/-! ### Events and their hashes -/

inductive AuditEventKind
  | autonomous
  | failover
  | ingest
  | security
  | sql
  | storage
  deriving DecidableEq

structure AuditEvent where
  eventId : ℕ
  occurredEpochMs : ℕ
  actor : String
  action : String
  kind : AuditEventKind
  outcome : String
  detailsJson : String
  chainHash : String
  deriving DecidableEq

def chainGenesis : String := "genesis-0000000000000000"

def chainStep (prevHash : String) (eventId : ℕ) (actor action outcome detailsJson : String) :
    String :=
  hex16 (fnv1aHash (prevHash ++ "|" ++ toString eventId ++ "|" ++ actor ++ "|" ++ action ++ "|" ++
    outcome ++ "|" ++ detailsJson))

/-- Some of the fields, joined by bars. -/
def AuditEvent.chained (e : AuditEvent) : String :=
  toString e.eventId ++ "|" ++ e.actor ++ "|" ++ e.action ++ "|" ++ e.outcome ++ "|" ++
    e.detailsJson

structure AppendOnlyAuditSink where
  nextEventId : ℕ := 1
  events : List AuditEvent := []
  prevChainHash : String := chainGenesis

structure AuditRecord where
  nowEpochMillis : ℕ
  kind : AuditEventKind
  actor : String
  action : String
  outcome : String
  detailsJson : String

namespace AppendOnlyAuditSink

variable {expected : String} {events : List AuditEvent} {sink : AppendOnlyAuditSink}

def append (sink : AppendOnlyAuditSink) (r : AuditRecord) : AppendOnlyAuditSink :=
  let chainHash := chainStep sink.prevChainHash sink.nextEventId r.actor r.action r.outcome
    r.detailsJson
  { nextEventId := sink.nextEventId + 1
    events := sink.events ++ [⟨sink.nextEventId, r.nowEpochMillis, r.actor, r.action, r.kind,
      r.outcome, r.detailsJson, chainHash⟩]
    prevChainHash := chainHash }

def log (records : List AuditRecord) : List AuditEvent := (records.foldl append {}).events

def tamperPointFrom (expected : String) : List AuditEvent → Option ℕ
  | [] => none
  | event :: events =>
    let computed := chainStep expected event.eventId event.actor event.action event.outcome
      event.detailsJson
    if computed ≠ event.chainHash then some event.eventId else tamperPointFrom computed events

def verifyChainTamperPoint (events : List AuditEvent) : Option ℕ :=
  tamperPointFrom chainGenesis events

def verifyChain (events : List AuditEvent) : Bool := (verifyChainTamperPoint events).isNone

/-! ### Changed logs -/

theorem chainStep_eq (prevHash : String) (e : AuditEvent) :
    chainStep prevHash e.eventId e.actor e.action e.outcome e.detailsJson =
      hex16 (fnv1aHash (prevHash ++ "|" ++ e.chained)) := by
  simp only [chainStep, AuditEvent.chained, String.append_assoc]

theorem tamperPointFrom_cons {e : AuditEvent} :
    tamperPointFrom expected (e :: events) = none ↔
      hex16 (fnv1aHash (expected ++ "|" ++ e.chained)) = e.chainHash ∧
        tamperPointFrom e.chainHash events = none := by
  rw [tamperPointFrom]
  simp only [chainStep_eq]
  by_cases h : hex16 (fnv1aHash (expected ++ "|" ++ e.chained)) = e.chainHash
  · rw [if_neg (not_not.mpr h), h]
    exact (and_iff_right rfl).symm
  · rw [if_pos h]
    exact iff_of_false (Option.some_ne_none _) fun hand => h hand.1

/-- **No collision** among the texts hashed for two logs. -/
def NoCollision (expected : String) : List AuditEvent → List AuditEvent → Prop
  | e :: events, e' :: altered =>
    (fnv1aHash (expected ++ "|" ++ e.chained) = fnv1aHash (expected ++ "|" ++ e'.chained) →
      expected ++ "|" ++ e.chained = expected ++ "|" ++ e'.chained) ∧
      NoCollision e.chainHash events altered
  | _, _ => True

theorem tamperPointFrom_concat {e : AuditEvent} (h : tamperPointFrom expected events = none)
    (he : hex16 (fnv1aHash (events.foldl (fun _ e => e.chainHash) expected ++ "|" ++ e.chained)) =
      e.chainHash) : tamperPointFrom expected (events ++ [e]) = none := by
  induction events generalizing expected with
  | nil => exact tamperPointFrom_cons.mpr ⟨he, rfl⟩
  | cons first events ih =>
    obtain ⟨hfst, hrest⟩ := tamperPointFrom_cons.mp h
    exact tamperPointFrom_cons.mpr ⟨hfst, ih hrest he⟩

structure Intact (sink : AppendOnlyAuditSink) : Prop where
  chained : tamperPointFrom chainGenesis sink.events = none
  last : sink.events.foldl (fun _ e => e.chainHash) chainGenesis = sink.prevChainHash

theorem Intact.append (h : Intact sink) (r : AuditRecord) : Intact (sink.append r) where
  chained := tamperPointFrom_concat h.chained (by
    rw [h.last, ← chainStep_eq])
  last := by
    rw [AppendOnlyAuditSink.append, foldl_append]
    rfl

theorem intact_foldl (rs : List AuditRecord) (h : Intact sink) :
    Intact (rs.foldl append sink) := by
  induction rs generalizing sink with
  | nil => exact h
  | cons r rs ih => exact ih (h.append r)

theorem tamperPointFrom_eq_none_iff {altered : List AuditEvent}
    (h : tamperPointFrom expected events = none)
    (hhas : altered.map AuditEvent.chainHash = events.map AuditEvent.chainHash)
    (hcoll : NoCollision expected events altered) :
    tamperPointFrom expected altered = none ↔
      altered.map AuditEvent.chained = events.map AuditEvent.chained := by
  induction events generalizing expected altered with
  | nil =>
    obtain rfl := map_eq_nil_iff.mp hhas
    exact iff_of_true rfl rfl
  | cons e events ih =>
    cases altered with
    | nil => cases hhas
    | cons e' altered =>
      obtain ⟨hhash, hhas⟩ := cons.inj hhas
      obtain ⟨hcha, hrest⟩ := tamperPointFrom_cons.mp h
      rw [tamperPointFrom_cons, map_cons, map_cons, cons.injEq, hhash, ih hrest hhas hcoll.2]
      -- the hash is that of the intact event exactly if the text is
      refine and_congr_left fun _ => ⟨fun heq => ?_, fun heq => by rw [heq, hcha]⟩
      have htext := hcoll.1 (hex16_injective (hcha.trans heq.symm))
      exact (String.append_right_inj _).mp htext.symm

/-- **A changed log is found out** iff some joined text has changed. -/
theorem verifyChain_eq_false_iff {records : List AuditRecord} {altered : List AuditEvent}
    (hhashes : altered.map AuditEvent.chainHash = (log records).map AuditEvent.chainHash)
    (hcollision : NoCollision chainGenesis (log records) altered) :
    verifyChain altered = false ↔
      altered.map AuditEvent.chained ≠ (log records).map AuditEvent.chained := by
  have hint : Intact (records.foldl append {}) := intact_foldl records ⟨rfl, rfl⟩
  have hlog : tamperPointFrom chainGenesis (log records) = none := hint.chained
  rw [verifyChain, verifyChainTamperPoint, Ne,
    ← tamperPointFrom_eq_none_iff hlog hhashes hcollision,
    ← Option.isNone_iff_eq_none, Bool.not_eq_true]

def dropped : List AuditRecord := [⟨1000, .sql, "ann", "execute|drop", "ok", "\x7b\x7d"⟩]

def disguised : List AuditEvent := (log dropped).map fun e =>
  { e with occurredEpochMs := 2000, kind := .ingest, actor := "ann|execute", action := "drop" }

/-- **Four fields are changed** and the log is still intact. -/
theorem verifyChain_disguised :
    disguised.map AuditEvent.chainHash = (log dropped).map AuditEvent.chainHash ∧
      disguised ≠ log dropped ∧ verifyChain disguised = true := by
  decide +kernel

def falsified : List AuditEvent := (log dropped).map fun e => { e with outcome := "failed" }

theorem verifyChain_falsified : verifyChain falsified = false := by
  have hhas : falsified.map AuditEvent.chainHash = (log dropped).map AuditEvent.chainHash := by
    decide +kernel
  have hcoll : NoCollision chainGenesis (log dropped) falsified :=
    ⟨fun heq => absurd heq (by decide +kernel), trivial⟩
  exact (verifyChain_eq_false_iff hhas hcoll).mpr (by decide +kernel)

end AppendOnlyAuditSink

end VngDatabase.Access
