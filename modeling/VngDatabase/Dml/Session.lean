import VngDatabase.Dml.Checked
import VngDatabase.Sql.Analyzer

/-!
# Requests and their undo log

A request of `sql_execute` (`services/voltnuerongridd/src/handlers/sql.rs`): unknown statements are
refused, row statements go through the direct path, and a `ROLLBACK` anywhere puts back what the
undo log of the connection holds, while a `COMMIT` clears it.
-/

namespace VngDatabase.Dml

open Store Sql Text Overlay List

/-! ### Putting rows back -/

variable (log : List (String × Option RowData))

def undoAction (entry : String × Option RowData) : Action :=
  match entry.2 with
  | some data => .put entry.1 data
  | none => .remove entry.1

def undoActions : List Action := log.reverse.map undoAction

theorem rowWrites_undoActions : rowWrites (undoActions log) = log.reverse := by
  rw [rowWrites, undoActions, filterMap_map]
  refine (filterMap_congr ?_).trans filterMap_some
  rintro ⟨key, _ | data⟩ _ <;> rfl

theorem storedRows_undoActions : storedRows (undoActions log) = [] := by
  rw [storedRows, undoActions, filterMap_map, filterMap_eq_nil_iff]
  rintro ⟨key, _ | data⟩ _ <;> rfl

section

variable {E : Type} [DurabilityEngine E]

def State.transact (as : List Action) (st : State E) : State E :=
  (performAll st.rowStore.nextXid as st.started).releaseWriteIntents st.rowStore.nextXid

def State.rollback (st : State E) : State E :=
  if st.txUndoLog = [] then st
  else { st.transact (undoActions st.txUndoLog) with txUndoLog := [] }

variable {st : State E}

theorem State.transact_writes (h : st.rowStore.Stamped) (as : List Action) :
    PagedRowStore.Writes st.rowStore.nextXid st.rowStore (st.transact as).rowStore
      (rowWrites as) := by
  have hshw : Shows st.rowStore.nextXid st.started _ _ :=
    performAll_shows st.rowStore.newest_beginXid as
  have hw := PagedRowStore.Writes.of_beginXid hshw h
  exact ⟨hw.newest, hw.pageSize, hw.maxRowsCap, hw.shelf, hw.readLatest⟩

end

section

open BootEngine DurabilityEngine

variable {E : Type} [BootEngine E] {st : State E} (as : List Action)

theorem State.persistsRows_transact (st : State E) :
    persistsRows (st.transact as).walEngine = persistsRows st.walEngine :=
  persistsRows_performAll _ as st.started

theorem State.iterSql_transact (st : State E) :
    iterSql (st.transact as).walEngine = iterSql st.walEngine ++ loggedSql as :=
  iterSql_performAll _ as st.started

theorem State.Sound.scanPersistedRows_transact (h : st.Sound) (hp : persistsRows st.walEngine)
    (as : List Action) :
    scanPersistedRows (st.transact as).walEngine =
      (storedRows as).foldl supersede (scanPersistedRows st.walEngine) := by
  have hp' : persistsRows st.started.walEngine := hp
  exact scanPersistedRows_performAll hp' h.durable.le as

theorem State.Sound.transact (h : st.Sound) (as : List Action) : (st.transact as).Sound :=
  ⟨(h.performAll as).stamped, (h.performAll as).durable⟩

theorem State.Sound.wasModifiedAfter_transact (h : st.Sound) (as : List Action) (k : String) :
    (st.transact as).rowStore.wasModifiedAfter k st.rowStore.currentXid ↔
      k ∈ pushedKeys st.rowStore.nextXid as st.started ∧
        k ∈ (st.transact as).rowStore.shelf.flatten := by
  have hpos : 0 < st.rowStore.nextXid := Nat.zero_lt_of_lt h.durable
  have hshw : Shows st.rowStore.nextXid st.started _ _ :=
    performAll_shows st.rowStore.newest_beginXid as
  have hmod : (st.transact as).rowStore.wasModifiedAfter k st.rowStore.currentXid ↔
      (st.transact as).rowStore.MarkedBy st.rowStore.nextXid k := by
    rw [PagedRowStore.wasModifiedAfter_iff]
    refine exists_congr fun v => and_congr_right fun hv => ?_
    have hlt := (h.performAll as).stamped k v hv
    rw [hshw.newest] at hlt
    rw [PagedRowStore.currentXid]
    grind
  have hbef : ¬st.started.rowStore.MarkedBy st.rowStore.nextXid k := by
    rintro ⟨v, hv, hxid⟩
    exact (h.stamped k v hv).ne hxid
  by_cases hk : k ∈ (st.transact as).rowStore.shelf.flatten
  · have hmar : (st.transact as).rowStore.MarkedBy st.rowStore.nextXid k ↔ _ :=
      performAll_marks (st.rowStore.newest_beginXid) as k hk
    rw [hmod, hmar, mem_pushedKeys_iff st.rowStore.newest_beginXid as hk]
    simp [hbef, hk]
  · refine iff_of_false ?_ fun hand => hk hand.2
    rw [PagedRowStore.wasModifiedAfter_iff, PagedRowStore.versions_eq_nil hk]
    simp

theorem State.Sound.rollback (h : st.Sound) : st.rollback.Sound := by
  rw [State.rollback]
  split_ifs
  · exact h
  · exact ⟨(h.transact _).stamped, (h.transact _).durable⟩

end

/-! ### Requests -/

structure Request where
  connectionId : String
  db : String
  statements : List String

inductive Answer
  | done
  | unknownStatement
  | refused (reason : String)
  deriving DecidableEq

def isVerb (verb stmt : String) : Bool :=
  let upper := toAsciiUppercase (String.ofList (trimStart stmt.toList))
  upper = verb || startsWith upper (verb ++ ";") || startsWith upper (verb ++ " ")

namespace Request

variable (req : Request)

def hasDml : Bool := req.statements.any fun stmt => (dmlKind stmt).isSome

def hasRollback : Bool := req.statements.any (isVerb "ROLLBACK")

def hasCommit : Bool := req.statements.any (isVerb "COMMIT")

def hasUnknown : Bool :=
  req.statements.any fun stmt => classifyStatement stmt = .unknown

end Request

section

variable {E : Type} [DurabilityEngine E] [CheckPredicate] [ColumnOrder] [Unicode]
  (validate : String → RowData → Except String Unit) (db : String)
  (stmts : List String) (st : Guarded E) (req : Request)

def Guarded.begin : Guarded E := { st with toState := st.toState.started }

def sqlExecuteChecked : Guarded E × Option String :=
  let xid := st.rowStore.nextXid
  let result := checkedStatements validate db xid stmts st.begin
  ({ result.1 with toState := result.1.toState.releaseWriteIntents xid }, result.2)

def requestActions : List Action :=
  batchActions validate db st.rowStore.nextXid stmts st.begin

def requestRows : List RowData :=
  batchRows validate db st.rowStore.nextXid stmts st.begin

theorem sqlExecuteChecked_fst : (sqlExecuteChecked validate db stmts st).1 =
      { toState := st.transact (requestActions validate db stmts st)
        constraints := recordRows st.constraints (requestRows validate db stmts st) } := by
  rw [sqlExecuteChecked, checkedStatements_performs]
  rfl

theorem sqlExecuteChecked_snd : (sqlExecuteChecked validate db stmts st).2 =
      (checkedStatements validate db st.rowStore.nextXid stmts st.begin).2 := rfl

def executeDml (st : Guarded E) : Guarded E × Option String :=
  if req.hasDml then sqlExecuteChecked validate req.db req.statements st
  else (st, none)

def Guarded.finish : Guarded E :=
  if req.hasRollback then { st with toState := st.rollback }
  else if req.hasCommit then { st with txUndoLog := [] }
  else st

/-- A refused request is not finished. -/
def Guarded.respond (st : Guarded E) : Guarded E × Answer :=
  if req.hasUnknown then (st, .unknownStatement)
  else
    let result := executeDml validate req st
    match result.2 with
    | some reason => (result.1, .refused reason)
    | none => (result.1.finish req, .done)

theorem Guarded.respond_cases (st : Guarded E) :
    st.respond validate req = (st, .unknownStatement) ∨
    (∃ reason, (sqlExecuteChecked validate req.db req.statements st).2 = some reason ∧
      st.respond validate req =
        ((sqlExecuteChecked validate req.db req.statements st).1, .refused reason)) ∨
    (req.hasDml ∧ (sqlExecuteChecked validate req.db req.statements st).2 = none ∧
      st.respond validate req =
        ((sqlExecuteChecked validate req.db req.statements st).1.finish req, .done)) ∨
    (req.hasDml = false ∧ st.respond validate req = (st.finish req, .done)) := by
  unfold Guarded.respond executeDml
  split_ifs with hunk hdml
  · exact Or.inl rfl
  · generalize sqlExecuteChecked validate req.db req.statements st = result
    obtain ⟨st', _ | reason⟩ := result
    · exact Or.inr (Or.inr (Or.inl ⟨hdml, rfl, rfl⟩))
    · exact Or.inr (Or.inl ⟨reason, rfl, rfl⟩)
  · exact Or.inr (Or.inr (Or.inr ⟨by simpa using hdml, rfl⟩))

end

/-! ### The server -/

/-- **The state between requests**, with all undo logs. -/
structure Server (E : Type) [BootEngine E] where
  rowStore : PagedRowStore
  walEngine : E
  constraints : ConstraintManager
  txUndoLog : (connectionId : String) → List (String × Option RowData)
  stamped : rowStore.Stamped
  durable : BootEngine.maxRowXid walEngine < rowStore.nextXid

section

variable {E : Type} [BootEngine E] (s : Server E) (connectionId : String) {st : Guarded E}

def Server.session : Guarded E where
  rowStore := s.rowStore
  walEngine := s.walEngine
  txUndoLog := s.txUndoLog connectionId
  constraints := s.constraints

theorem Server.sound : (s.session connectionId).Sound :=
  ⟨s.stamped, s.durable⟩

def Server.state : State E := ⟨s.rowStore, s.walEngine, []⟩

/-- **A transaction outside of all connections.** -/
def Server.perform (as : List Action) : Server E :=
  let st := performAll s.rowStore.nextXid as s.state.started
  have hstate : s.state.Sound := ⟨s.stamped, s.durable⟩
  have h : st.Sound := hstate.performAll as
  { s with
    rowStore := st.rowStore
    walEngine := st.walEngine
    stamped := h.stamped
    durable := h.durable }

theorem Server.writes_perform (as : List Action) :
    PagedRowStore.Writes s.rowStore.nextXid s.rowStore (s.perform as).rowStore (rowWrites as) := by
  have hsta : s.state.rowStore.Stamped := s.stamped
  have hw := State.transact_writes hsta as
  exact ⟨hw.newest, hw.pageSize, hw.maxRowsCap, hw.shelf, hw.readLatest⟩

def Server.resume (st : Guarded E) (h : st.Sound) : Server E where
  rowStore := st.rowStore
  walEngine := st.walEngine
  constraints := st.constraints
  txUndoLog := Function.update s.txUndoLog connectionId st.txUndoLog
  stamped := h.stamped
  durable := h.durable

theorem Server.session_resume {conn : String}
    (h : st.Sound) : (s.resume conn st h).session conn = st := by
  unfold Server.resume Server.session
  dsimp only
  rw [Function.update_self]

theorem finish_sound {req : Request} (h : st.Sound) : (st.finish req).Sound := by
  rw [Guarded.finish]
  split_ifs
  · exact h.rollback
  · exact ⟨h.stamped, h.durable⟩
  · exact h

variable [CheckPredicate] [ColumnOrder] [Unicode]

theorem respond_sound {val : String → RowData → Except String Unit} {req : Request}
    (h : st.Sound) : (st.respond val req).1.Sound := by
  have hdml : (sqlExecuteChecked val req.db req.statements st).1.Sound := by
    rw [sqlExecuteChecked_fst]
    exact h.transact _
  rcases st.respond_cases val req with
    he | ⟨reason, -, he⟩ | ⟨-, -, he⟩ | ⟨-, he⟩ <;> rw [he]
  · exact h
  · exact hdml
  · exact finish_sound hdml
  · exact finish_sound h

def Server.sqlExecute (validate : String → RowData → Except String Unit)
    (s : Server E) (req : Request) : Server E × Answer :=
  let result := (s.session req.connectionId).respond validate req
  (s.resume req.connectionId result.1 (respond_sound (s.sound req.connectionId)), result.2)

theorem Server.session_sqlExecute (val : String → RowData → Except String Unit)
    (s : Server E) (req : Request) :
    (s.sqlExecute val req).1.session req.connectionId =
      ((s.session req.connectionId).respond val req).1 :=
  s.session_resume (respond_sound (s.sound req.connectionId))

def Server.empty (walEngine : E) (h : BootEngine.maxRowXid walEngine = 0) : Server E where
  rowStore := PagedRowStore.new 256
  walEngine := walEngine
  constraints := ConstraintManager.new
  txUndoLog := fun _ => []
  stamped := PagedRowStore.stamped_new 256
  durable := h.trans_lt Nat.zero_lt_one

end

theorem maxRowXid_memory : BootEngine.maxRowXid ({} : InMemoryEngine) = 0 := rfl

theorem maxRowXid_versioned : BootEngine.maxRowXid ({} : VersionedEngine) = 0 := rfl

end VngDatabase.Dml
