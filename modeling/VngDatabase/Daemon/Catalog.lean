import VngDatabase.Daemon.Execute
import VngDatabase.Store.DdlCatalog

/-!
# The catalog of a node

What part of the catalog (`SchemaCatalog`) is the catalog of objects of the store, and what the
handler does to that part: the loop of `sql_execute` that records the statements of a batch
(`recordStatements`) and the statements that are a batch of their own (`ObjectCatalog`).
-/

namespace VngDatabase.Daemon

open Text Store Query

def objectKindName : ObjectKind → String
  | .table => "table"
  | .view => "view"
  | .materializedView => "materialized_view"
  | .incrementalMatview => "incremental_matview"
  | .function => "function"
  | .trigger => "trigger"
  | .event => "event"
  | .schema => "schema"
  | .index => "index"

def recordStatement (stmt : String) (cat : DdlCatalog) : DdlCatalog × Option String :=
  match parseDdlInfo stmt with
  | none => (cat, none)
  | some info =>
    match info.operation with
    | .create =>
      -- indexes are not in this catalog
      if info.objectKind = .index then (cat, none)
      else
        match cat.recordCreate info.objectKind info.databaseName info.schemaName info.objectName
          stmt info.replaceOk with
        | (cat, .alreadyExists) =>
          (cat, some (objectKindName info.objectKind ++ " '" ++ info.objectName ++
            "' already exists"))
        | (cat, _) =>
          if info.objectKind = .materializedView ∧
              contains (toAsciiUppercase stmt) "WITH INCREMENTAL" then
            ((cat.recordCreate .incrementalMatview info.databaseName info.schemaName
              info.objectName stmt true).1, none)
          else (cat, none)
    | .drop => ((cat.recordDrop info.databaseName info.schemaName info.objectName).1, none)
    | .alter => ((cat.recordAlter info.databaseName info.schemaName info.objectName stmt).1, none)

def recordStatements (stmts : List String) (cat : DdlCatalog) : DdlCatalog × Option String :=
  stmts.foldl (fun (cat, warning) stmt =>
    let recorded := recordStatement stmt cat
    (recorded.1, recorded.2.or warning)) (cat, none)

class ObjectCatalog (C : Type) extends SchemaCatalog C where
  ddlCatalog : C → DdlCatalog
  withDdlCatalog : C → DdlCatalog → C
  ddlCatalog_withDdlCatalog : ∀ c cat, ddlCatalog (withDdlCatalog c cat) = cat
  indexManager_withDdlCatalog : ∀ c cat, indexManager (withDdlCatalog c cat) = indexManager c
  expandSelect_congr : ∀ c c', (ddlCatalog c).active = (ddlCatalog c').active →
    expandSelect c = expandSelect c'
  ddlCatalog_recordDdl : ∀ c db rs stmts,
    ddlCatalog (recordDdl c db rs stmts).1 = (recordStatements stmts (ddlCatalog c)).1
  warning_recordDdl : ∀ c db rs stmts,
    (recordDdl c db rs stmts).2 = (recordStatements stmts (ddlCatalog c)).2
  ddlCatalog_recordDrop : ∀ c view,
    ddlCatalog (recordDrop c view) = ((ddlCatalog c).recordDrop "" "" view).1
  ddlCatalog_purgeDatabase : ∀ c database,
    ddlCatalog (purgeDatabase c database) = (ddlCatalog c).purgeDatabase database

namespace Sample

scoped instance : ObjectCatalog DdlCatalog where
  expandSelect _ query := query
  rewriteDmlForView _ stmt := stmt
  validateRowAgainstDdl _ _ _ := .ok ()
  materializedView _ _ := none
  indexManager _ := ⟨[], List.nodup_nil⟩
  recordDdl cat _ _ stmts := recordStatements stmts cat
  recordDrop cat view := (cat.recordDrop "" "" view).1
  purgeDatabase := DdlCatalog.purgeDatabase
  ddlCatalog := id
  withDdlCatalog _ cat := cat
  ddlCatalog_withDdlCatalog _ _ := rfl
  indexManager_withDdlCatalog _ _ := rfl
  expandSelect_congr _ _ _ := rfl
  ddlCatalog_recordDdl _ _ _ _ := rfl
  warning_recordDdl _ _ _ _ := rfl
  ddlCatalog_recordDrop _ _ := rfl
  ddlCatalog_purgeDatabase _ _ := rfl

end Sample

end VngDatabase.Daemon
