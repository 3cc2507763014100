import VngDatabase.Text

/-!
# The catalog of objects

The `DdlCatalog` of `crates/voltnuerongrid-store/src/ddl_catalog.rs`: objects under their qualified
names, each with the statement it was created with. An object that is dropped keeps its entry, with
a mark.
-/

namespace VngDatabase.Store

open Text

/-! ### Entries -/

variable (raw sql : String)

inductive ObjectKind
  | table
  | view
  | materializedView
  | incrementalMatview
  | function
  | trigger
  | event
  | schema
  | index
  deriving DecidableEq

structure DdlCatalogEntry where
  objectName : String
  databaseName : String
  schemaName : String
  objectKind : ObjectKind
  originalStatement : String
  dropped : Bool
  deriving DecidableEq

inductive CatalogResult
  | created
  | replaced
  | alterApplied
  | dropped
  | notFound
  | alreadyDropped
  | alreadyExists

def catalogName (s : String) : String := toAsciiLowercase (String.ofList (trim s.toList))

def qualifiedKey (db schema name : String) : String :=
  catalogName db ++ "." ++ catalogName schema ++ "." ++ catalogName name

inductive DdlOperation
  | create
  | drop
  | alter
  deriving DecidableEq

structure DdlObjectInfo where
  operation : DdlOperation
  objectKind : ObjectKind
  objectName : String
  databaseName : String
  schemaName : String
  replaceOk : Bool
  deriving DecidableEq

def DdlObjectInfo.key (info : DdlObjectInfo) : String :=
  qualifiedKey info.databaseName info.schemaName info.objectName

def nameToken : String :=
  toAsciiLowercase (String.ofList (trimMatches (fun c => c = ')' || c = ';' || c = ',') raw.toList))

/-- The name may have points. -/
def parseQualifiers : String × String × String :=
  let base := nameToken (beforeFirst '(' raw)
  match splitAtText ['.'] base.toList with
  | none => ("default", "public", base)
  | some (first, rest) =>
    match splitAtText ['.'] rest with
    | none => ("default", String.ofList first, String.ofList rest)
    | some (second, third) => (String.ofList first, String.ofList second, String.ofList third)

def parseSchemaQualifiers : String × String × String :=
  let base := nameToken raw
  match (split ['.'] base.toList).map String.ofList with
  | [db, schema] => (db, schema, schema)
  | _ => ("default", base, base)

def ddlWords : List String → Option (DdlOperation × ObjectKind × String × Bool)
  | "create" :: "table" :: name :: _ => some (.create, .table, name, false)
  | "create" :: "view" :: name :: _ => some (.create, .view, name, false)
  | "create" :: "materialized" :: "view" :: name :: _ =>
    some (.create, .materializedView, name, false)
  | "create" :: "function" :: name :: _ => some (.create, .function, name, false)
  | "create" :: "trigger" :: name :: _ => some (.create, .trigger, name, false)
  | "create" :: "event" :: name :: _ => some (.create, .event, name, false)
  | "create" :: "or" :: "replace" :: "function" :: name :: _ =>
    some (.create, .function, name, true)
  | "create" :: "or" :: "replace" :: "view" :: name :: _ => some (.create, .view, name, true)
  | "create" :: "or" :: "replace" :: "table" :: name :: _ => some (.create, .table, name, true)
  | "create" :: "schema" :: name :: _ => some (.create, .schema, name, false)
  | "create" :: "index" :: name :: _ => some (.create, .index, name, false)
  | "create" :: "unique" :: "index" :: name :: _ => some (.create, .index, name, false)
  | "drop" :: kind :: "if" :: "exists" :: name :: _ =>
    (droppable kind).map fun kind => (.drop, kind, name, false)
  | "drop" :: kind :: name :: _ => (droppable kind).map fun kind => (.drop, kind, name, false)
  | "alter" :: "table" :: name :: _ => some (.alter, .table, name, false)
  | _ => none
where
  droppable (kind : String) : Option ObjectKind :=
    if kind = "index" then some .index
    else if kind = "table" then some .table
    else if kind = "view" then some .view
    else if kind = "function" then some .function
    else if kind = "trigger" then some .trigger
    else if kind = "event" then some .event
    else if kind = "schema" then some .schema
    else none

def parseDdlInfo : Option DdlObjectInfo :=
  (ddlWords (splitWhitespace (toAsciiLowercase (String.ofList (trim sql.toList))))).map
    fun (operation, objectKind, name, replaceOk) =>
      let (databaseName, schemaName, objectName) :=
        if objectKind = .schema then parseSchemaQualifiers name else parseQualifiers name
      ⟨operation, objectKind, objectName, databaseName, schemaName, replaceOk⟩

def parseAlterAddColumn : Option (String × String) :=
  let lower := (trim sql.toList).map Char.toLower
  (lower.dropPrefix? "alter table ".toList).bind fun rest =>
    (splitAtText " add ".toList rest).bind fun (_, after) =>
      let colRest := ((trim after).dropPrefix? "column ".toList).getD (trim after)
      let colName := trim (colRest.takeWhile (· ≠ ' '))
      let colDef := match splitAtText [' '] colRest with
        | some (_, definition) => trim definition
        | none => "text".toList
      if colName = [] then none
      else (splitAtText colName lower).map fun (before, _) =>
        let original := trim (sql.toList.drop (before.length + colName.length))
        (String.ofList colName, String.ofList (if original = [] then colDef else original))

def parseAlterDropColumn : Option String :=
  let lower := (trim sql.toList).map Char.toLower
  (lower.dropPrefix? "alter table ".toList).bind fun rest =>
    (splitAtText " drop ".toList rest).bind fun (_, after) =>
      let column := ((trim after).dropPrefix? "column ".toList).getD (trim after)
      let colName := trimEndMatches (· = ';') (trim column)
      if colName = [] then none else some (String.ofList colName)

def applyAddColumnToDdl (originalDdl colName colDef : String) : String :=
  match splitAtText [')'] originalDdl.toList.reverse with
  | none => originalDdl ++ ", " ++ colName ++ " " ++ colDef
  | some (after, before) =>
    String.ofList (trimEndMatches (· ∈ [' ', '\t', '\n', '\r', ',']) before.reverse) ++
      ", " ++ colName ++ " " ++ colDef ++ ")" ++ String.ofList after.reverse

def removeColumnFromDdl (originalDdl colName : String) : String :=
  match splitAtText ['('] originalDdl.toList with
  | none => originalDdl
  | some (before, rest) =>
    -- a closing parenthesis in front of the first opening one makes the source panic
    match splitAtText [')'] rest.reverse with
    | none => originalDdl
    | some (after, columns) =>
      let remaining := (split [','] columns.reverse).filter fun definition =>
        (splitWhitespace (String.ofList (definition.map Char.toLower))).head?.getD "" ≠
          toAsciiLowercase colName
      String.ofList (before ++ '(' :: (List.intersperse [','] remaining).flatten ++
        ')' :: after.reverse)

def alteredStatement (original statement : String) : String :=
  let lower := toAsciiLowercase (String.ofList (trim statement.toList))
  if contains lower " add " then
    match parseAlterAddColumn statement with
    | some (colName, colDef) => applyAddColumnToDdl original colName colDef
    | none => original
  else if contains lower " drop " then
    match parseAlterDropColumn statement with
    | some colName => removeColumnFromDdl original colName
    | none => original
  else original

structure DdlCatalog where
  entries : AList fun _ : String => DdlCatalogEntry

namespace DdlCatalog

variable (cat : DdlCatalog)

def empty : DdlCatalog := ⟨∅⟩

def recordCreate (kind : ObjectKind) (db schema name statement : String) (replaceOk : Bool) :
    DdlCatalog × CatalogResult :=
  let key := qualifiedKey db schema name
  let entry : DdlCatalogEntry :=
    ⟨catalogName name, catalogName db, catalogName schema, kind, statement, false⟩
  match cat.entries.lookup key with
  | some existing =>
    if !existing.dropped && !replaceOk then (cat, .alreadyExists)
    else (⟨cat.entries.insert key entry⟩, .replaced)
  | none => (⟨cat.entries.insert key entry⟩, .created)

def recordDrop (db schema name : String) : DdlCatalog × CatalogResult :=
  let key := qualifiedKey db schema name
  match cat.entries.lookup key with
  | none => (cat, .notFound)
  | some e =>
    if e.dropped then (cat, .alreadyDropped)
    else (⟨cat.entries.insert key { e with dropped := true }⟩, .dropped)

def recordAlter (db schema name statement : String) : DdlCatalog × CatalogResult :=
  let key := qualifiedKey db schema name
  match cat.entries.lookup key with
  | none => (cat, .notFound)
  | some e =>
    if e.dropped then (cat, .alreadyDropped)
    else (⟨cat.entries.insert key
      { e with originalStatement := alteredStatement e.originalStatement statement }⟩,
      .alterApplied)

def allEntries : List DdlCatalogEntry := cat.entries.entries.map Sigma.snd

def purgeDatabase (databaseName : String) : DdlCatalog :=
  ⟨⟨cat.entries.entries.filter fun e =>
      toAsciiLowercase e.2.databaseName ≠ catalogName databaseName,
    cat.entries.nodupKeys.sublist List.filter_sublist⟩⟩

def active (key : String) : Option (ObjectKind × String) :=
  (cat.entries.lookup key).bind fun e =>
    if e.dropped then none else some (e.objectKind, e.originalStatement)

variable {cat}

theorem active_recordCreate_replace (kind : ObjectKind) (db schema name stmt : String)
    (key : String) :
    (cat.recordCreate kind db schema name stmt true).1.active key =
      if key = qualifiedKey db schema name then some (kind, stmt) else cat.active key := by
  have hins (entry : DdlCatalogEntry) (hent : entry.dropped = false) :
      (DdlCatalog.mk (cat.entries.insert (qualifiedKey db schema name) entry)).active key =
        if key = qualifiedKey db schema name then
          some (entry.objectKind, entry.originalStatement) else cat.active key := by
    unfold active
    split_ifs with hkey
    · rw [hkey, AList.lookup_insert, Option.bind_some, hent]
      rfl
    · rw [AList.lookup_insert_ne hkey]
  unfold recordCreate
  dsimp only
  split
  · rw [Bool.not_true, Bool.and_false, if_neg Bool.false_ne_true]
    exact hins _ rfl
  · exact hins _ rfl

end DdlCatalog

end VngDatabase.Store
