import VngDatabase.Daemon.Handlers
import VngDatabase.Dml.Boot

/-!
# Records that are loaded

The handlers of `services/voltnuerongridd/src/handlers/ingest.rs` that load records from a text, and
the connectors of `crates/voltnuerongrid-ingest`.
-/

namespace VngDatabase.Daemon

open Text Sql Store Dml Overlay DurabilityEngine BootEngine List
open Access (AuthError HeaderMap RuntimeAccessPrincipal SessionSigner)

variable (format : IngestFormat) (connectorId : String)

structure IngestRecord where
  key : String
  payload : String
  deriving DecidableEq

inductive IngestFormat
  | csv
  | json
  deriving DecidableEq

def IngestFormat.name : IngestFormat → String
  | .csv => "csv"
  | .json => "json"

def csvRecord (line : List Char) : Option IngestRecord :=
  let trimmed := trim line
  let cols := (splitAtText [','] trimmed).getD (trimmed, [])
  let key := trim cols.1
  if key = [] then none else some ⟨String.ofList key, String.ofList (trim cols.2)⟩

def loadCsv (csvText : String) : List IngestRecord :=
  ((linesFrom [] csvText.toList).drop 1).filterMap csvRecord

def extractStringField (jsonLine : List Char) (field : String) : Option (List Char) :=
  (splitAtText ('"' :: field.toList ++ ['"']) jsonLine).bind fun (_, afterKey) =>
    match trimStart afterKey with
    | ':' :: afterColon =>
      match trimStart afterColon with
      | '"' :: rest => (splitAtText ['"'] rest).map Prod.fst
      | value =>
        let value := trim (value.takeWhile fun c =>
          !(c = ',' || c = '\x7d' || c = ']' || isWhitespace c))
        if value = [] then none else some value
    | _ => none

def loadNdjson (keyField ndjsonText : String) : List IngestRecord :=
  (linesFrom [] ndjsonText.toList).filterMap fun line =>
    let trimmed := trim line
    if trimmed = [] then none
    else (extractStringField trimmed keyField).map fun key =>
      ⟨String.ofList key, String.ofList trimmed⟩

def loadRecordsParallel (records : List IngestRecord) : List IngestRecord :=
  records.filter fun record => record.key ≠ "" ∧ record.payload ≠ ""

def rowEntry (connectorId : String) (record : IngestRecord) :
    String × RowData :=
  (record.key, (Finmap.insert "payload" record.payload ∅).insert "source"
    (format.name ++ ":" ++ connectorId))

def ingestActions (entries : List (String × RowData)) : List Action :=
  (entries.map fun entry => .put entry.1 entry.2) ++
    entries.map fun entry => .store connectorId entry.1 (some entry.2)

theorem rowWrites_ingestActions (cid : String) (es : List (String × RowData)) :
    rowWrites (ingestActions cid es) =
      es.map fun entry => (entry.1, some entry.2) := by
  have hsto : (es.map fun entry => Action.store cid entry.1
      (some entry.2)).filterMap Action.rowWrite = [] := by simp [Action.rowWrite]
  rw [rowWrites, ingestActions, filterMap_append, hsto, append_nil,
    filterMap_map, ← filterMap_eq_map]
  rfl

theorem storedRows_ingestActions (cid : String) (es : List (String × RowData)) :
    storedRows (ingestActions cid es) =
      es.map fun entry => ((cid, entry.1), some entry.2) := by
  have hputs : (es.map fun entry => Action.put entry.1 entry.2).filterMap
      Action.stored = [] := by simp [Action.stored]
  rw [storedRows, ingestActions, filterMap_append, hputs, nil_append,
    filterMap_map, ← filterMap_eq_map]
  rfl

structure IngestNode (E C : Type) [BootEngine E] extends Node E C where
  ingestRecords : IngestFormat → (storageKey : String) → Option (List IngestRecord)

structure IngestCsvRequest where
  connectorId : String
  csvData : String

structure IngestParallelRequest where
  connectorId : String
  data : String
  keyField : Option String := none

inductive IngestAnswer
  | denied (e : AuthError)
  | ok (totalRecords validRecords : ℕ)

def ingestScopeForConnector (format : IngestFormat) : String :=
  "ingest/connectors/" ++ connectorId ++ "/" ++ format.name

def ingestStorageKey (principal : RuntimeAccessPrincipal) (connectorId : String) : String :=
  match principal with
  | .operator _ => connectorId
  | .tenantUser user => "tenant/" ++ user.tenantId ++ "/" ++ connectorId

namespace IngestNode

variable {E C : Type} [DatabaseEngine E] (n : IngestNode E C)

def load (principal : RuntimeAccessPrincipal)
    (connectorId : String) (records : List IngestRecord) : IngestNode E C :=
  { n with
    toNode := n.toNode.withServer (n.toServer.perform
      (ingestActions connectorId (records.map (rowEntry format connectorId))))
    ingestRecords := Function.update n.ingestRecords format
      (Function.update (n.ingestRecords format) (ingestStorageKey principal connectorId)
        (some records)) }

variable [SessionSigner] (nowSecs : ℕ)

def ingest (n : IngestNode E C) (nowSecs : ℕ) (headers : HeaderMap) (format : IngestFormat)
    (connectorId : String) (total : ℕ) (records : List IngestRecord) :
    IngestNode E C × IngestAnswer :=
  match Access.requireRuntimePrincipal n.auth headers nowSecs "ingest.connectors"
      (ingestScopeForConnector connectorId format) .write with
  | .error e => (n, .denied e)
  | .ok principal => (n.load format principal connectorId records, .ok total records.length)

def ingestCsv (headers : HeaderMap) (req : IngestCsvRequest) :
    IngestNode E C × IngestAnswer :=
  let records := loadCsv req.csvData
  n.ingest nowSecs headers .csv req.connectorId records.length records

def ingestCsvParallel (headers : HeaderMap)
    (req : IngestParallelRequest) : IngestNode E C × IngestAnswer :=
  let records := loadCsv req.data
  n.ingest nowSecs headers .csv req.connectorId records.length (loadRecordsParallel records)

def ingestJsonParallel (headers : HeaderMap)
    (req : IngestParallelRequest) : IngestNode E C × IngestAnswer :=
  let records := loadNdjson (req.keyField.getD "id") req.data
  n.ingest nowSecs headers .json req.connectorId records.length (loadRecordsParallel records)

end IngestNode

structure CsvUpload where
  nowSecs : ℕ
  headers : HeaderMap
  req : IngestCsvRequest

namespace IngestNode

section

variable {E C : Type} [DatabaseEngine E] [SessionSigner] (n : IngestNode E C)

def uploadAll (uploads : List CsvUpload) : IngestNode E C :=
  uploads.foldl (fun n upload => (n.ingestCsv upload.nowSecs upload.headers upload.req).1) n

def Accepts (auth : Access.AuthState) (upload : CsvUpload) : Prop :=
  (Access.requireRuntimePrincipal auth upload.headers upload.nowSecs "ingest.connectors"
    (ingestScopeForConnector upload.req.connectorId .csv) .write).isOk = true

instance (auth : Access.AuthState) (upload : CsvUpload) : Decidable (Accepts auth upload) :=
  inferInstanceAs (Decidable (_ = _))

def uploadedRows (auth : Access.AuthState) (uploads : List CsvUpload) :
    List (String × String × RowData) :=
  (uploads.filter fun upload => Accepts auth upload).flatMap fun upload =>
    (loadCsv upload.req.csvData).map fun record =>
      (upload.req.connectorId, rowEntry .csv upload.req.connectorId record)

def memoryWrites (rows : List (String × String × RowData)) : List (String × Option RowData) :=
  rows.map fun row => (row.2.1, some row.2.2)

def durableRows (rows : List (String × String × RowData)) :
    List ((String × String) × Option RowData) :=
  rows.map fun row => ((row.1, row.2.1), some row.2.2)

/-- **These rows are loaded**, in memory and in an engine that keeps rows. -/
structure Loads (n n' : IngestNode E C) (rows : List (String × String × RowData)) : Prop where
  auth : n'.auth = n.auth
  memory : ∃ xid, PagedRowStore.Writes xid n.rowStore n'.rowStore (memoryWrites rows)
  persistsRows : persistsRows n'.walEngine = persistsRows n.walEngine
  durable : DurabilityEngine.persistsRows n.walEngine → scanPersistedRows n'.walEngine =
    (durableRows rows).foldl supersede (scanPersistedRows n.walEngine)

section

omit [SessionSigner]

theorem Loads.refl : Loads n n [] where
  auth := rfl
  memory := by
    have hpos : 0 < n.rowStore.nextXid := Nat.zero_lt_of_lt n.durable
    exact ⟨n.rowStore.nextXid - 1, .refl (Nat.sub_add_cancel hpos).symm⟩
  persistsRows := rfl
  durable _ := rfl

theorem Loads.trans {n n' n'' : IngestNode E C} {rows rows' : List (String × String × RowData)}
    (h : Loads n n' rows) (h' : Loads n' n'' rows') : Loads n n'' (rows ++ rows') where
  auth := h'.auth.trans h.auth
  memory := by
    obtain ⟨xid, hwr⟩ := h.memory
    obtain ⟨xid', hwr'⟩ := h'.memory
    refine ⟨xid', ?_⟩
    rw [memoryWrites, map_append]
    exact hwr.trans hwr'
  persistsRows := h'.persistsRows.trans h.persistsRows
  durable hp := by
    rw [h'.durable (h.persistsRows ▸ hp), h.durable hp, durableRows, durableRows, durableRows,
      map_append, foldl_append]

theorem loads_load
    (who : RuntimeAccessPrincipal) (cid : String) (rs : List IngestRecord) :
    Loads n (n.load format who cid rs)
      (rs.map fun record => (cid, rowEntry format cid record)) := by
  have hsnd : n.toServer.state.Sound := ⟨n.stamped, n.durable⟩
  have hmm : rowWrites (ingestActions cid (rs.map (rowEntry format cid))) =
      memoryWrites (rs.map fun record =>
        (cid, rowEntry format cid record)) := by
    rw [rowWrites_ingestActions, memoryWrites, map_map, map_map]
    rfl
  have hdur : storedRows
      (ingestActions cid (rs.map (rowEntry format cid))) =
      durableRows (rs.map fun record =>
        (cid, rowEntry format cid record)) := by
    rw [storedRows_ingestActions, durableRows, map_map, map_map]
    rfl
  refine ⟨rfl, ⟨n.rowStore.nextXid, ?_⟩, ?_, fun hp => ?_⟩
  · rw [← hmm]
    exact n.toServer.writes_perform _
  · exact State.persistsRows_transact _ n.toServer.state
  · rw [← hdur]
    exact hsnd.scanPersistedRows_transact hp _

end

theorem loads_ingestCsv (upload : CsvUpload) :
    Loads n (n.ingestCsv upload.nowSecs upload.headers upload.req).1
      (uploadedRows n.auth [upload]) := by
  cases hpr : Access.requireRuntimePrincipal n.auth upload.headers upload.nowSecs
      "ingest.connectors" (ingestScopeForConnector upload.req.connectorId .csv) .write with
  | error e =>
    have href : ¬Accepts n.auth upload := by
      rw [Accepts, hpr]
      exact Bool.false_ne_true
    have hrows : uploadedRows n.auth [upload] = [] := by simp [uploadedRows, href]
    simp only [ingestCsv, ingest, hpr, hrows]
    exact .refl n
  | ok principal =>
    have hacc : Accepts n.auth upload := by
      rw [Accepts, hpr]
      rfl
    have hrows : uploadedRows n.auth [upload] = (loadCsv upload.req.csvData).map fun record =>
        (upload.req.connectorId, rowEntry .csv upload.req.connectorId record) := by
      simp [uploadedRows, hacc]
    simp only [ingestCsv, ingest, hpr, hrows]
    exact n.loads_load .csv principal upload.req.connectorId (loadCsv upload.req.csvData)

theorem loads_uploadAll (uploads : List CsvUpload) :
    Loads n (n.uploadAll uploads) (uploadedRows n.auth uploads) := by
  induction uploads generalizing n with
  | nil => exact .refl n
  | cons upload uploads ih =>
    have hupl := loads_ingestCsv n upload
    have huplo := ih (n.ingestCsv upload.nowSecs upload.headers upload.req).1
    rw [hupl.auth] at huplo
    have hrows : uploadedRows n.auth (upload :: uploads) =
        uploadedRows n.auth [upload] ++ uploadedRows n.auth uploads := by
      rw [uploadedRows, uploadedRows, uploadedRows, ← flatMap_append, ← filter_append]
      rfl
    rw [hrows]
    exact hupl.trans huplo

def InPlace (cap : ℕ) (rows : List (String × String × RowData)) : Prop :=
  if cap = 0 then
    ∀ k, lastWrite (memoryWrites rows) k = lastWrite ((durableRows rows).map loadWrite) k
  else ∀ k, restored cap (memoryWrites rows) k =
    restored cap (((durableRows rows).foldl supersede []).map loadWrite) k

omit [SessionSigner] in
theorem inPlace_of_connectorId_eq_empty {rows : List (String × String × RowData)}
    (h : ∀ row ∈ rows, row.1 = "") : InPlace 0 rows := by
  rw [InPlace, if_pos rfl]
  intro k
  have hsame : (durableRows rows).map loadWrite = memoryWrites rows := by
    rw [durableRows, map_map, memoryWrites]
    refine map_congr_left fun row hrow => ?_
    rw [Function.comp_apply, loadWrite, h row hrow, dbPrefixKey_empty]
  rw [hsame]

structure Fresh (cap : ℕ) (n : IngestNode E C) : Prop where
  rowStore : n.rowStore = freshStore cap
  persistsRows : DurabilityEngine.persistsRows n.walEngine
  noRows : scanPersistedRows n.walEngine = []

/-- **Loaded rows survive a restart in place** iff they show under its keys what they show in
memory. -/
theorem restart_in_place_iff [Unicode] {cap : ℕ} {n : IngestNode E C} (h : Fresh cap n)
    (uploads : List CsvUpload) :
    (∀ k, (bootStore cap (n.uploadAll uploads).walEngine).readLatest k =
      (n.uploadAll uploads).rowStore.readLatest k) ↔ InPlace cap (uploadedRows n.auth uploads) := by
  obtain ⟨-, ⟨xid, hwr⟩, hper, hdur⟩ := n.loads_uploadAll uploads
  generalize n.uploadAll uploads = n' at hwr hper hdur ⊢
  generalize uploadedRows n.auth uploads = rows at hwr hdur ⊢
  have hmm (k : String) : n'.rowStore.readLatest k = restored cap (memoryWrites rows) k :=
    readLatest_eq_restored hwr (h.rowStore ▸ rfl) (h.rowStore ▸ rfl) (h.rowStore ▸ rfl) k
  have hboot (k : String) : (bootStore cap n'.walEngine).readLatest k =
      restored cap (((durableRows rows).foldl supersede []).map loadWrite) k := by
    rw [readLatest_bootStore, bootWrites, if_pos (hper.trans h.persistsRows),
      hdur h.persistsRows, h.noRows]
  simp only [hmm, hboot, InPlace]
  split_ifs with hcap
  · subst hcap
    refine forall_congr' fun k => ?_
    have hlast : lastWrite (((durableRows rows).foldl supersede []).map loadWrite) k =
        lastWrite ((durableRows rows).map loadWrite) k :=
      lastWrite_map_foldl_supersede (fun id : String × String => dbPrefixKey id.1 id.2) []
        (durableRows rows) k
    have hnone : ∀ w ∈ memoryWrites rows, w.2 ≠ none := by
      rw [memoryWrites, forall_mem_map]
      exact fun _ _ => Option.some_ne_none _
    have hnone' : ∀ w ∈ (durableRows rows).map loadWrite, w.2 ≠ none := by
      rw [durableRows, map_map, forall_mem_map]
      exact fun _ _ => Option.some_ne_none _
    have hsup : overlay (((durableRows rows).foldl supersede []).map loadWrite)
        (fun _ => none) k = overlay ((durableRows rows).map loadWrite) (fun _ => none) k := by
      rw [overlay, hlast, overlay]
    rw [restored_zero, restored_zero, hsup, eq_comm, overlay_none_eq_iff hnone hnone']
  · exact forall_congr' fun k => eq_comm

end

end IngestNode

namespace Sample

def ingestNode {E : Type} [DatabaseEngine E] (s : Server E) : IngestNode E Unit where
  toNode := node s
  ingestRecords _ _ := none

def upload : CsvUpload := ⟨0, headers none, ⟨connectorId, "id,amount\n1,42"⟩⟩

def amountRow : RowData :=
  (rowEntry .csv connectorId ⟨"1", "42"⟩).2

end Sample

namespace IngestNode

open Daemon.Sample
open scoped Dml.Sample

theorem fresh_ingestNode : Fresh 0 (ingestNode emptyVersionedServer) := ⟨rfl, rfl, rfl⟩

theorem record_moved :
    ((ingestNode emptyVersionedServer).uploadAll [upload "orders"]).rowStore.readLatest "1" =
      some (amountRow "orders") ∧
    (bootStore 0 ((ingestNode emptyVersionedServer).uploadAll
      [upload "orders"]).walEngine).readLatest "1" = none ∧
    (bootStore 0 ((ingestNode emptyVersionedServer).uploadAll
      [upload "orders"]).walEngine).readLatest "orders.1" = some (amountRow "orders") := by
  decide +kernel

theorem record_in_place :
    Fresh 0 (ingestNode emptyVersionedServer) ∧
      ∀ k, (bootStore 0 ((ingestNode emptyVersionedServer).uploadAll
        [upload ""]).walEngine).readLatest k =
          ((ingestNode emptyVersionedServer).uploadAll [upload ""]).rowStore.readLatest k := by
  refine ⟨fresh_ingestNode, (restart_in_place_iff fresh_ingestNode [upload ""]).mpr ?_⟩
  exact inPlace_of_connectorId_eq_empty (by decide +kernel)

end IngestNode

end VngDatabase.Daemon
