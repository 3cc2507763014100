import VngDatabase.Query.Isolation
import VngDatabase.Daemon.Effects
import VngDatabase.Daemon.Snapshots

/-!
# Reading the same rows again

A transaction at the level `repeatable_read` is to find the rows as they were when it began.
-/

namespace VngDatabase.Daemon

open Text Sql Store Dml Tx Query DurabilityEngine Option
open Access (SessionSigner)

section

variable [F64] [QueryParser] {snapshotXid : Xid} {rocksdbRows : Option (List (String × RowData))}
  {queries : List String}

def askedRows (rs : PagedRowStore) (query : String) : List (String × RowData) :=
  match fastPath query with
  | some (sel, whereExpr) => (rs.scanAtSnapshot rs.currentXid).filter (sel.rowMatches whereExpr)
  | none => []

theorem executeSelect_of_askedRows {rs rs' : PagedRowStore} {query : String}
    (h : askedRows rs' query = askedRows rs query) (maxRows : ℕ) :
    executeSelect query rs' maxRows = executeSelect query rs maxRows := by
  unfold askedRows at h
  cases hfast : fastPath query with
  | none => exact executeSelect_congr hfast rs' rs maxRows
  | some p =>
    obtain ⟨sel, whereExpr⟩ := p
    simp only [hfast] at h
    rw [executeSelect_of_fastPath hfast, executeSelect_of_fastPath hfast, h]

theorem answer_at_snapshot {rs₀ rs : PagedRowStore} {query : String}
    (hscan : rs.scanAtSnapshot snapshotXid = rs₀.scanAtSnapshot rs₀.currentXid)
    (hask : rocksdbRows = none → askedRows rs query = askedRows rs₀ query) (eng : QueryEngine)
    (limit : ℕ) (db : String) (indexManager : Option IndexManager) (results : List ResultRow) :
    answer eng rs limit db (some snapshotXid) rocksdbRows indexManager results query =
      answer eng rs₀ limit db none rocksdbRows indexManager results query := by
  have hleg : executeOltpSelectLegacy query rs limit results db (some snapshotXid) rocksdbRows
      indexManager = executeOltpSelectLegacy query rs₀ limit results db none rocksdbRows
        indexManager := by
    have hrows : databaseRows rs db (some snapshotXid) rocksdbRows =
        databaseRows rs₀ db none rocksdbRows := by
      cases rocksdbRows with
      | some rows => rfl
      | none => rw [databaseRows, databaseRows, getD_some, getD_none, hscan]
    rw [executeOltpSelectLegacy, executeOltpSelectLegacy, hrows]
  have heng : askEngine eng query rs (limit - results.length) db (some snapshotXid)
      rocksdbRows = askEngine eng query rs₀ (limit - results.length) db none rocksdbRows := by
    rw [askEngine, askEngine, getD_some, getD_none, hscan]
  unfold answer
  dsimp only
  rw [hleg, heng]
  cases rocksdbRows with
  | some rows => rfl
  | none => rw [executeSelect_of_askedRows (hask rfl)]

theorem executeOltpSelect_at_snapshot {rs₀ rs : PagedRowStore}
    (hscan : rs.scanAtSnapshot snapshotXid = rs₀.scanAtSnapshot rs₀.currentXid)
    (hask : rocksdbRows = none → ∀ query ∈ queries, askedRows rs query = askedRows rs₀ query)
    (eng : QueryEngine) (limit : ℕ) (db : String) (indexManager : Option IndexManager) :
    executeOltpSelect eng queries rs limit db (some snapshotXid) rocksdbRows indexManager =
      executeOltpSelect eng queries rs₀ limit db none rocksdbRows indexManager := by
  unfold executeOltpSelect
  refine List.foldl_ext _ _ [] fun results query hque => ?_
  rw [answer_at_snapshot hscan fun hnone => hask hnone query hque]

def shownAmong (rows : List (String × RowData)) (query : String) : List (String × RowData) :=
  match QueryParser.parseOne query with
  | .ok (some sel) => rows.filter (isShown sel)
  | _ => []

omit [F64] in
theorem clientRows_congr {rows rows' : List (String × RowData)}
    (h : ∀ query ∈ queries, shownAmong rows' query = shownAmong rows query) (limit : ℕ) :
    clientRows limit queries rows' = clientRows limit queries rows := by
  unfold clientRows
  refine List.foldl_ext _ _ [] fun shown query hque => ?_
  have hsame := h query hque
  unfold shownAmong at hsame
  split
  · rename_i sel hprs
    simp only [hprs] at hsame
    rw [hsame]
  · rfl

end

namespace Node

section

variable {E C : Type} [SnapshotEngine E] [SchemaCatalog C] [CheckPredicate] [ColumnOrder]
  [Unicode] [F64] [QueryParser] [SqlRuntime] [SessionSigner]

def shownFor (db query : String) (n : Node E C) : List (String × RowData) :=
  shownAmong (databaseRows n.rowStore db none (n.rocksdbRows db n.rowStore.currentXid)) query

structure AsksAsBefore (n₀ n : Node E C) (db : String) (queries : List String) : Prop where
  asked : persistsRows n₀.walEngine = false →
    ∀ query ∈ queries, askedRows n.rowStore query = askedRows n₀.rowStore query
  shown : ∀ query ∈ queries, n.shownFor db query = n₀.shownFor db query

/-- **The queries find the rows of an earlier state.** -/
def Rereads (n n₀ : Node E C) (db conn : String) (queries : List String) : Prop :=
  ∀ w req rows shown, n.AsksQueries req → databaseHeader req.headers = db →
    n.queriesOf req = queries → (n.pool.acquire w.nowMs).2 = .ok conn →
    (n.sqlExecute w req).2 = .ok rows shown →
      rows = (if n.PlansRows queries then
          executeOltpSelect w.queryEngine queries n₀.rowStore req.limit db none
            (n₀.rocksdbRows db n₀.rowStore.currentXid) (some (SchemaCatalog.indexManager n.catalog))
        else []) ∧
      shown = n₀.shownRows req db queries

theorem AsksAsBefore.rereads {db conn : String} {queries : List String} {n₀ n : Node E C}
    (h : AsksAsBefore n₀ n db queries) (hpast : KeepsPast db n₀.toServer n.toServer)
    (hsnap : n.rrSnapshotXid conn = some n₀.rowStore.currentXid) :
    n.Rereads n₀ db conn queries := by
  rintro w req rows shown hasks rfl rfl hconn hans
  obtain ⟨pool, conn', hacq, hrows, hshn⟩ := sqlExecute_of_asksQueries hasks hans
  obtain rfl : conn' = conn := by
    rw [hacq] at hconn
    exact Except.ok.inj hconn
  have hlt : n₀.rowStore.currentXid < n₀.rowStore.nextXid :=
    Nat.sub_lt (Nat.zero_lt_of_lt n₀.durable) Nat.one_pos
  have hscan : n.rowStore.scanAtSnapshot n₀.rowStore.currentXid =
      n₀.rowStore.scanAtSnapshot n₀.rowStore.currentXid := SamePast.rows hpast _ hlt
  have hroc : n.rocksdbRows (databaseHeader req.headers) n₀.rowStore.currentXid =
      n₀.rocksdbRows (databaseHeader req.headers) n₀.rowStore.currentXid := by
    have hper : persistsRows n.walEngine = persistsRows n₀.walEngine := SamePast.persistsRows hpast
    have hdur := SamePast.durable hpast _ hlt
    unfold rocksdbRows
    rw [hper]
    split_ifs
    · exact congrArg some hdur
    · rfl
  constructor
  · rw [hrows, oltpRows, hsnap, getD_some, hroc, executeOltpSelect_at_snapshot hscan]
    intro hnone
    refine h.asked ?_
    unfold rocksdbRows at hnone
    split_ifs at hnone with hp
    simpa using hp
  · rw [hshn]
    exact clientRows_congr h.shown _

end

section

open Daemon.Sample
open scoped Dml.Sample

def askedAgain : ExecuteRequest := { headers := headers none, sqlBatch := "SELECT * FROM t" }

def insertedNode : Node InMemoryEngine Unit := ((node noRows).handle begun).handle inserted

theorem askedAgain_asksQueries {E : Type} [DatabaseEngine E] (n : Node E Unit) :
    n.AsksQueries askedAgain := by
  refine ⟨?_, Access.ProcedureRegistry.dispatch_of_not_isAboutProcedures _ ?_, ?_, ?_, ?_⟩ <;>
    decide +kernel

theorem rereading :
    (insertedNode.rrSnapshotXid "conn-1" = some (node noRows).rowStore.currentXid ∧
      insertedNode.queriesOf askedAgain = ["SELECT * FROM t"] ∧
      (insertedNode.pool.acquire 0).2 = .ok "conn-1" ∧
      (answered (insertedNode.sqlExecute calm askedAgain).2).map Prod.fst = some [⟨"t:1", row⟩]) ∧
    (staleNode.rrSnapshotXid "conn-1" = some (node keptRows).rowStore.currentXid ∧
      staleNode.queriesOf askedAgain = ["SELECT * FROM t"] ∧
      (staleNode.pool.acquire 0).2 = .ok "conn-1" ∧
      answered (staleNode.sqlExecute calm askedAgain).2 = some ([], [("t:1", row)])) ∧
    executeOltpSelect calm.queryEngine ["SELECT * FROM t"] (node noRows).rowStore
      askedAgain.limit "" none ((node noRows).rocksdbRows "" (node noRows).rowStore.currentXid)
      (some (SchemaCatalog.indexManager insertedNode.catalog)) = [] ∧
      (node keptRows).shownRows askedAgain "" ["SELECT * FROM t"] = [] := by
  decide +kernel

def insertedElsewhere : Circumstances × SqlRequest :=
  (calm, .execute { headers := bobHeaders, sqlBatch := "INSERT INTO u (id) VALUES (1)" })

end

end Node

end VngDatabase.Daemon
