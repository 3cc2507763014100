import VngDatabase.Sql.Tokenizer

/-!
# The statements that change rows

The parsers for `INSERT`, `UPDATE` and `DELETE` of `crates/voltnuerongrid-sql/src/ast.rs`.
Statements of other kinds are one constructor, `Statement.other`.
-/

namespace VngDatabase.Sql

open Text

/-! ### Statements -/

variable (tokens : List Token)

structure InsertStatement where
  table : String
  columns : List String
  values : List (List String)
  deriving DecidableEq

structure UpdateStatement where
  table : String
  assignments : List (String × String)
  whereClause : Option String
  deriving DecidableEq

structure DeleteStatement where
  table : String
  whereClause : Option String
  deriving DecidableEq

inductive Statement
  | insert (stmt : InsertStatement)
  | update (stmt : UpdateStatement)
  | delete (stmt : DeleteStatement)
  | other
  deriving DecidableEq

/-! ### Tokens in a parser's eyes -/

def tokenAsName : Token → Option String
  | .identifier s | .keyword s => some s
  | _ => none

def isKeywordToken (kw : String) : Token → Bool
  | .keyword k => eqIgnoreAsciiCase k kw
  | _ => false

def tokenAsValue : Token → Option String
  | .stringLiteral s => some s
  | .number n => some n
  | .keyword k => if eqIgnoreAsciiCase k "NULL" then some "NULL" else none
  | _ => none

def skipToken (p : Token → Bool) : List Token → List Token
  | [] => []
  | t :: ts => if p t then ts else t :: ts

def tokensToRaw : String :=
  String.intercalate " " <| tokens.map fun
    | .keyword s | .identifier s | .number s | .symbol s => s
    | .stringLiteral s => "'" ++ s ++ "'"
    | _ => ""

def whereClause : Option String :=
  match tokens.dropWhile (!isKeywordToken "WHERE" ·) with
  | [] => none
  | _ :: rest => some (tokensToRaw rest)

def columnList : List Token → List String × List Token
  | [] => ([], [])
  | t :: ts =>
    if t = .symbol ")" then ([], ts)
    else if t = .symbol "," then columnList ts
    else ((tokenAsName t).toList ++ (columnList ts).1, (columnList ts).2)

/-- Tokens that are no values are passed over. -/
def valueRows : Option (List String) → List Token → List (List String)
  | none, [] => []
  | some row, [] => [row]
  | none, t :: ts =>
    if t = .symbol "(" then valueRows (some []) ts
    else if t = .symbol "," then valueRows none ts
    else []
  | some row, t :: ts =>
    if t = .symbol ")" then row :: valueRows none ts
    else valueRows (some (row ++ (tokenAsValue t).toList)) ts

def parseInsert : Except String InsertStatement :=
  match skipToken (isKeywordToken "INTO") (tokens.drop 1) with
  | [] => .error "INSERT missing table name"
  | t :: ts =>
    match tokenAsName t with
    | none => .error "INSERT missing table name"
    | some table =>
      let (columns, ts) :=
        if ts.head? = some (.symbol "(") then columnList ts.tail else ([], ts)
      match ts with
      | [] => .error "INSERT missing VALUES keyword"
      | t :: ts =>
        if isKeywordToken "VALUES" t then .ok ⟨table, columns, valueRows none ts⟩
        else .error "INSERT missing VALUES keyword"

inductive SetState
  | column
  /-- Behind a column, in front of an optional `=`. -/
  | equals (col : String)
  | value (col : String)
  /-- Behind a value, in front of an optional comma. -/
  | comma

/-- A column without a value is passed over. -/
def assignments : SetState → List Token → List (String × String)
  | _, [] => []
  | .column, t :: ts =>
    match tokenAsName t with
    | some col => assignments (.equals col) ts
    | none => assignments .column ts
  | .equals col, t :: ts =>
    if t = .symbol "=" then assignments (.value col) ts
    else match tokenAsValue t with
      | some val => (col, val) :: assignments .comma ts
      | none => assignments .column ts
  | .value col, t :: ts =>
    match tokenAsValue t with
    | some val => (col, val) :: assignments .comma ts
    | none => assignments .column ts
  | .comma, t :: ts =>
    if t = .symbol "," then assignments .column ts
    else match tokenAsName t with
      | some col => assignments (.equals col) ts
      | none => assignments .column ts

/-- No name is an empty one. -/
def tableName : List Token → String × List Token
  | [] => ("", [])
  | t :: ts =>
    match tokenAsName t with
    | some table => (table, ts)
    | none => ("", t :: ts)

def parseUpdate : UpdateStatement :=
  let (table, ts) := tableName (tokens.drop 1)
  let ts := skipToken (isKeywordToken "SET") ts
  { table := table
    assignments := assignments .column (ts.takeWhile (!isKeywordToken "WHERE" ·))
    whereClause := whereClause ts }

def parseDelete : DeleteStatement :=
  let (table, ts) := tableName (skipToken (isKeywordToken "FROM") (tokens.drop 1))
  { table := table
    whereClause := whereClause ts }

def parseTokens : List Token → Except String Statement
  | .keyword k :: tokens =>
    let verb := toAsciiUppercase k
    if verb = "INSERT" then (parseInsert (.keyword k :: tokens)).map .insert
    else if verb = "UPDATE" then .ok (.update (parseUpdate (.keyword k :: tokens)))
    else if verb = "DELETE" then .ok (.delete (parseDelete (.keyword k :: tokens)))
    else .ok .other
  | _ => .ok .other

def parseOne [Unicode] (sql : String) : Except String Statement :=
  match semanticTokens sql with
  | [] => .error "empty input"
  | tokens => parseTokens tokens

end VngDatabase.Sql
