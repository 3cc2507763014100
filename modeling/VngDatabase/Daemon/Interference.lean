import VngDatabase.Daemon.Answers
import VngDatabase.Daemon.Catalog
import VngDatabase.Daemon.Ingest

/-!
# Records among the rows of tables

Records that are loaded (`Daemon.Ingest`) have the keys that stand in the text, in the same row
store as the rows of tables, and in the engine they are rows of a database with the name of their
connector.
-/

namespace VngDatabase.Daemon

open Text Sql Store Query Dml Overlay DurabilityEngine BootEngine List Option Function
open Access (HeaderMap RuntimeAccessPrincipal SessionSigner)

inductive IngestRequest
  | csv (req : IngestCsvRequest)
  | csvParallel (req : IngestParallelRequest)
  | jsonParallel (req : IngestParallelRequest)

namespace IngestRequest

def format : IngestRequest → IngestFormat
  | csv _ | csvParallel _ => .csv
  | jsonParallel _ => .json

def connectorId : IngestRequest → String
  | csv req => req.connectorId
  | csvParallel req | jsonParallel req => req.connectorId

def records : IngestRequest → List IngestRecord
  | csv req => loadCsv req.csvData
  | csvParallel req => loadRecordsParallel (loadCsv req.data)
  | jsonParallel req => loadRecordsParallel (loadNdjson (req.keyField.getD "id") req.data)

def writes (req : IngestRequest) : List (String × Option RowData) :=
  req.records.map fun record =>
    (record.key, some (rowEntry req.format req.connectorId record).2)

end IngestRequest

def tenantKey (tenantId connectorId : String) : String :=
  "tenant/" ++ tenantId ++ "/" ++ connectorId

def IsDatabaseName (db : String) : Prop := ∃ headers : HeaderMap, databaseHeader headers = db

theorem isDatabaseName_empty : IsDatabaseName "" := ⟨fun _ => none, rfl⟩

/-- **A query over tables** that are there. -/
def Node.OverTables {E C : Type} [BootEngine E] [ObjectCatalog C] [QueryParser] (n : Node E C)
    (stmt : String) : Prop :=
  (∃ sel, QueryParser.parseOne stmt = .ok (some sel)) ∧
    QueryParser.collectQueryTableNames stmt ≠ [] ∧
    ∀ name ∈ QueryParser.collectQueryTableNames stmt, ∃ db schema ddl,
      (ObjectCatalog.ddlCatalog n.catalog).active (qualifiedKey db schema name) =
        some (.table, ddl)

namespace IngestNode

section

variable {E C : Type} [ListedEngine E]

def handle [SessionSigner] (n : IngestNode E C) (nowSecs : ℕ) (headers : HeaderMap) :
    IngestRequest → IngestNode E C × IngestAnswer
  | .csv req => n.ingestCsv nowSecs headers req
  | .csvParallel req => n.ingestCsvParallel nowSecs headers req
  | .jsonParallel req => n.ingestJsonParallel nowSecs headers req

def MayLoad [SessionSigner] (n : IngestNode E C) (nowSecs : ℕ) (headers : HeaderMap)
    (req : IngestRequest) (principal : RuntimeAccessPrincipal) : Prop :=
  Access.requireRuntimePrincipal n.auth headers nowSecs "ingest.connectors"
    (ingestScopeForConnector req.connectorId req.format) .write = .ok principal

theorem handle_eq_load [SessionSigner] {n : IngestNode E C} {now : ℕ} {hs : HeaderMap}
    {req : IngestRequest} {who : RuntimeAccessPrincipal}
    (h : n.MayLoad now hs req who) :
    (n.handle now hs req).1 =
      n.load req.format who req.connectorId req.records := by
  have hing (total : ℕ) : (n.ingest now hs req.format req.connectorId total
      req.records).1 = n.load req.format who req.connectorId req.records := by
    rw [ingest, h]
  cases req with
  | csv req => exact hing _
  | csvParallel req => exact hing _
  | jsonParallel req => exact hing _

def HasOther (n : IngestNode E C) (tenantId connectorId key : String) : Prop :=
  ∃ format tenantId' records, tenantId' ≠ tenantId ∧
    n.ingestRecords format (tenantKey tenantId' connectorId) = some records ∧
    ∃ record ∈ records, record.key = key

structure Untouched [ObjectCatalog C] [F64] [QueryParser] (engine : QueryEngine)
    (tenantId : String) (n n' : IngestNode E C) : Prop where
  answers : ∀ stmt, n.OverTables stmt → ∀ db, IsDatabaseName db → ∀ limit,
    n'.Answers engine stmt limit db = n.Answers engine stmt limit db
  records : ∀ format tenantId' connectorId, tenantId' ≠ tenantId →
    n'.ingestRecords format (tenantKey tenantId' connectorId) =
      n.ingestRecords format (tenantKey tenantId' connectorId)
  visible : ∀ key, (∃ connectorId, n.HasOther tenantId connectorId key) →
    n'.rowStore.readLatest key = n.rowStore.readLatest key
  durable : ∀ connectorId key, n.HasOther tenantId connectorId key →
    getRow n'.walEngine connectorId key = getRow n.walEngine connectorId key

/-- **The records are there already**, as far as others see. -/
structure Harmless [ObjectCatalog C] [QueryParser] (n : IngestNode E C) (tenantId : String)
    (req : IngestRequest) : Prop where
  answers : (∃ stmt, n.OverTables stmt) → if persistsRows n.walEngine then
    IsDatabaseName req.connectorId → ∀ key row, lastWrite req.writes key = some row →
      getRow n.walEngine req.connectorId key = row
    else n.rowStore.Leaves (fun _ => True) req.writes
  records : ∀ tenantId' connectorId, tenantId' ≠ tenantId →
    tenantKey tenantId' connectorId = tenantKey tenantId req.connectorId →
      n.ingestRecords req.format (tenantKey tenantId req.connectorId) = some req.records
  visible : n.rowStore.Leaves (fun key => ∃ connectorId, n.HasOther tenantId connectorId key)
    req.writes
  durable : persistsRows n.walEngine → ∀ key row, n.HasOther tenantId req.connectorId key →
    lastWrite req.writes key = some row → getRow n.walEngine req.connectorId key = row

def loaded (n : IngestNode E C) (req : IngestRequest) (principal : RuntimeAccessPrincipal) :
    IngestNode E C :=
  n.load req.format principal req.connectorId req.records

variable (n : IngestNode E C) (req : IngestRequest) (principal : RuntimeAccessPrincipal)

theorem loads_loaded : Loads n (n.loaded req principal)
    (req.records.map fun record =>
      (req.connectorId, rowEntry req.format req.connectorId record)) :=
  n.loads_load req.format principal req.connectorId req.records

theorem writes_loaded : ∃ xid, PagedRowStore.Writes xid n.rowStore
    (n.loaded req principal).rowStore req.writes := by
  obtain ⟨xid, hwr⟩ := (n.loads_loaded req principal).memory
  rw [memoryWrites, List.map_map] at hwr
  exact ⟨xid, hwr⟩

theorem getRow_loaded (hp : persistsRows n.walEngine) (db key : String) :
    getRow (n.loaded req principal).walEngine db key =
      if db = req.connectorId then (lastWrite req.writes key).getD (getRow n.walEngine db key)
      else getRow n.walEngine db key := by
  have hloa := n.loads_loaded req principal
  have hrows : durableRows (req.records.map fun record =>
      (req.connectorId, rowEntry req.format req.connectorId record)) =
      req.writes.map fun w => ((req.connectorId, w.1), w.2) := by
    rw [durableRows, IngestRequest.writes, List.map_map, List.map_map]
    rfl
  have hdur := hloa.durable hp
  rw [hrows] at hdur
  rw [getRow_of_supersede hp (hloa.persistsRows.trans hp) hdur]
  split_ifs with hdb
  · subst hdb
    rw [lastWrite_map_key (Prod.mk_right_injective req.connectorId)]
  · rw [lastWrite_eq_none, getD_none]
    rw [List.forall_mem_map]
    exact fun w _ heq => hdb (congrArg Prod.fst heq).symm

theorem getRow_loaded_eq_iff (of : String → String → Prop) :
    (∀ db key, of db key →
        getRow (n.loaded req principal).walEngine db key = getRow n.walEngine db key) ↔
      (persistsRows n.walEngine → ∀ key row, of req.connectorId key →
        lastWrite req.writes key = some row → getRow n.walEngine req.connectorId key = row) := by
  constructor
  · intro h hp key row hof hrow
    rw [← h _ _ hof, n.getRow_loaded req principal hp, if_pos rfl, hrow, getD_some]
  · intro h db key hof
    cases hp : persistsRows n.walEngine with
    | false => simp [getRow_eq, (n.loads_loaded req principal).persistsRows, hp]
    | true =>
      rw [n.getRow_loaded req principal hp]
      split_ifs with hdb
      · subst hdb
        cases hrow : lastWrite req.writes key with
        | none => rfl
        | some row => exact (h hp key row hof hrow).symm
      · rfl

theorem records_loaded_eq_iff (user : Access.TenantUserIdentity) :
    (∀ format tenantId' connectorId, tenantId' ≠ user.tenantId →
        (n.loaded req (.tenantUser user)).ingestRecords format (tenantKey tenantId' connectorId) =
          n.ingestRecords format (tenantKey tenantId' connectorId)) ↔
      ∀ tenantId' connectorId, tenantId' ≠ user.tenantId →
        tenantKey tenantId' connectorId = tenantKey user.tenantId req.connectorId →
          n.ingestRecords req.format (tenantKey user.tenantId req.connectorId) =
            some req.records := by
  have hloa : (n.loaded req (.tenantUser user)).ingestRecords =
      update n.ingestRecords req.format (update (n.ingestRecords req.format)
        (tenantKey user.tenantId req.connectorId) (some req.records)) := rfl
  rw [hloa]
  constructor
  · intro h tenantId' connectorId hne hkey
    have hsame := h req.format tenantId' connectorId hne
    rw [update_self, hkey, update_self] at hsame
    exact hsame.symm
  · intro h format tenantId' connectorId hne
    rcases eq_or_ne format req.format with rfl | hfor
    · rw [update_self]
      rcases eq_or_ne (tenantKey tenantId' connectorId)
        (tenantKey user.tenantId req.connectorId) with hkey | hkey
      · rw [hkey, update_self, h tenantId' connectorId hne hkey]
      · rw [update_of_ne hkey]
    · rw [update_of_ne hfor]

theorem sameRows_loaded_iff :
    (∀ db, IsDatabaseName db → Node.SameRows n.toNode (n.loaded req principal).toNode db) ↔
      if persistsRows n.walEngine then
        IsDatabaseName req.connectorId → ∀ key row, lastWrite req.writes key = some row →
          getRow n.walEngine req.connectorId key = row
      else n.rowStore.Leaves (fun _ => True) req.writes := by
  simp only [Node.SameRows]
  split_ifs with hp
  · have hiff := n.getRow_loaded_eq_iff req principal fun db _ => IsDatabaseName db
    constructor
    · intro h hname key row hrow
      exact hiff.mp (fun db key hdb => h db hdb key) hp key row hname hrow
    · intro h db hdb key
      exact hiff.mpr (fun _ key row hname => h hname key row) db key hdb
  · obtain ⟨xid, hwr⟩ := n.writes_loaded req principal
    rw [← hwr.readLatest_eq_iff]
    constructor
    · intro h key _
      exact h "" isDatabaseName_empty key
    · intro h _ _ key
      exact h key trivial

end

end IngestNode

namespace Records

open Daemon.Sample

scoped instance : QueryParser where
  parseOne sql :=
    if sql = "SELECT * FROM t" then .ok (some { columns := ["*"], table := some "t" })
    else if sql = "SELECT * FROM t JOIN t AS s ON f(1)" then
      .ok (some { columns := ["*"], table := some "t", join := some ⟨"t", some "f(1)"⟩ })
    else .error "no such statement"
  parsePredicate _ := .error "no condition"
  collectQueryTableNames _ := ["t"]

theorem listsAll_of_overTables {E C : Type} [BootEngine E] [ObjectCatalog C] {n : Node E C}
    (stmt : String) (h : n.OverTables stmt) :
    ∃ stmt, n.OverTables stmt ∧ ListsAll calm.queryEngine stmt := by
  refine ⟨"SELECT * FROM t JOIN t AS s ON f(1)", ⟨⟨_, rfl⟩, h.2⟩, ?_⟩
  exact ⟨_, rfl, by decide, rfl, rfl, rfl, fun _ _ => rfl⟩

def tableNode : IngestNode InMemoryEngine DdlCatalog where
  toServer := oneRow
  acid := .empty
  mutations := []
  catalog := (recordStatements ["CREATE TABLE t (id INT)"] .empty).1
  databases := ∅
  procedures := Access.ProcedureRegistry.registerBuiltins
  auth := auth
  dbGrants _ := ∅
  pool := .withDefaultPolicy
  connectionTxActive _ := none
  cluster := {}
  ingestRecords _ _ := none

def sameKey : IngestRequest := .csv ⟨"c", "id,amount\nt:1,42"⟩

def recordRow : RowData := (rowEntry .csv "c" ⟨"t:1", "42"⟩).2

def loadedNode : IngestNode InMemoryEngine DdlCatalog :=
  (tableNode.handle 0 (headers none) sameKey).1

def found (n : IngestNode InMemoryEngine DdlCatalog) : List ResultRow :=
  executeOltpSelect calm.queryEngine ["SELECT * FROM t"] n.rowStore 100 "" none
    (n.rocksdbRows "" n.rowStore.currentXid) (some (SchemaCatalog.indexManager n.catalog))

end Records

namespace IngestNode

open Daemon.Sample Records

theorem mayLoad_sameKey (n : IngestNode InMemoryEngine DdlCatalog) (h : n.auth = auth) :
    n.MayLoad 0 (headers none) sameKey (principalOf "ann") := by
  rw [MayLoad, h]
  decide +kernel

theorem overTables_tableNode : tableNode.OverTables "SELECT * FROM t" := by
  refine ⟨⟨_, rfl⟩, cons_ne_nil _ _, ?_⟩
  rintro name hname
  obtain rfl := mem_singleton.mp hname
  exact ⟨"default", "public", "CREATE TABLE t (id INT)", by decide +kernel⟩

theorem rows_loadedNode :
    found tableNode = [⟨"t:1", row⟩] ∧ found loadedNode = [⟨"t:1", recordRow⟩] ∧
      tableNode.rowStore.readLatest "t:1" = some row ∧
      loadedNode.rowStore.readLatest "t:1" = some recordRow ∧
      loadedNode.rowStore.maxRowsCap = 0 ∧ row ≠ recordRow := by
  decide +kernel

theorem harmless_loadedNode : loadedNode.Harmless "acme" sameKey := by
  obtain ⟨-, -, -, hrec, hcap, -⟩ := rows_loadedNode
  have hwr : sameKey.writes = [("t:1", some recordRow)] := by decide +kernel
  have hlea {U : String → Prop} : loadedNode.rowStore.Leaves U sameKey.writes := by
    refine (PagedRowStore.leaves_iff hcap).mpr fun key row _ hlast => ?_
    rw [hwr] at hlast
    obtain ⟨rfl, rfl⟩ := Prod.mk.inj (mem_singleton.mp (mem_of_lastWrite hlast))
    exact hrec
  exact ⟨fun _ => hlea, fun _ _ _ _ => by decide +kernel, hlea, nofun⟩

end IngestNode

end VngDatabase.Daemon
