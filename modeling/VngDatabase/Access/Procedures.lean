import VngDatabase.Text

/-!
# Stored procedures

The registry of stored procedures (`services/voltnuerongridd/src/helpers/stored_proc.rs`), which
`sql_execute` asks first.
-/

namespace VngDatabase.Access

open Text

variable (cs : List Char)

structure StoredProcedure where
  name : String
  params : List String
  body : String
  builtin : Bool
  deriving DecidableEq

def StoredProcedure.expand (proc : StoredProcedure) (args : List String) : String :=
  String.ofList <| args.zipIdx.foldl (fun body arg =>
    replace ("$" ++ toString (arg.2 + 1)).toList arg.1.toList body) proc.body.toList

/-! ### Reading a call -/

/-- `buf` is the argument being read. -/
def splitArgsFrom (inSingle inDouble : Bool) (buf : List Char) : List Char → List String
  | [] => if trim buf = [] then [] else [String.ofList (trim buf)]
  | ch :: cs =>
    if ch = '\'' ∧ ¬inDouble then splitArgsFrom (!inSingle) inDouble (buf ++ [ch]) cs
    else if ch = '"' ∧ ¬inSingle then splitArgsFrom inSingle (!inDouble) (buf ++ [ch]) cs
    else if ch = ',' ∧ ¬inSingle ∧ ¬inDouble then
      String.ofList (trim buf) :: splitArgsFrom inSingle inDouble [] cs
    else splitArgsFrom inSingle inDouble (buf ++ [ch]) cs

def parseCallArgs : Option (String × List String) :=
  (splitAtText ['('] cs).bind fun (name, tail) =>
    (splitAtText [')'] tail.reverse).map fun (_, args) =>
      let args := trim args.reverse
      (String.ofList (trim name), if args = [] then [] else splitArgsFrom false false [] args)

def extractDollarQuotedBody : Option String :=
  ((trim cs).dropPrefix? ['$', '$']).bind fun inner =>
    (splitAtText ['$', '$'] inner).map fun (body, _) => String.ofList (trim body)

/-! ### The registry -/

abbrev ProcedureRegistry := Finmap fun _ : String => StoredProcedure

def startsWithIgnoreCase (sql pat : String) : Bool := startsWith (toAsciiUppercase sql) pat

namespace ProcedureRegistry

variable (reg : ProcedureRegistry)

def registerBuiltins : ProcedureRegistry :=
  Finmap.insert "insert_rows"
    { name := "insert_rows"
      params := ["table_name", "num_records"]
      body := "-- built-in: handled by insert_rows shim"
      builtin := true } ∅

def register (proc : StoredProcedure) :
    Except String ProcedureRegistry :=
  if (reg.lookup proc.name).any (·.builtin) then
    .error ("cannot redefine built-in procedure '" ++ proc.name ++ "'")
  else .ok (reg.insert proc.name proc)

def dropProcedure (name : String) : Except String ProcedureRegistry :=
  match reg.lookup (toAsciiLowercase name) with
  | none => .error ("procedure '" ++ name ++ "' does not exist")
  | some proc =>
    if proc.builtin then .error ("cannot drop built-in procedure '" ++ name ++ "'")
    else .ok (reg.erase (toAsciiLowercase name))

/-- `none` for a procedure that is built in. -/
def resolveCall (sql : String) : Except String (Option String) :=
  match parseCallArgs (trim (sql.toList.drop 5)) with
  | none => .error ("malformed CALL statement: '" ++ sql ++ "'")
  | some (name, args) =>
    match reg.lookup (toAsciiLowercase name) with
    | none => .error ("unknown procedure '" ++ name ++ "'")
    | some proc =>
      if proc.builtin then .ok none
      else if args.length ≠ proc.params.length then
        .error ("procedure '" ++ proc.name ++ "' expects " ++ toString proc.params.length ++
          " argument(s), got " ++ toString args.length)
      else .ok (some (proc.expand args))

def parseParams : List String :=
  ((split [','] cs).map fun p => toAsciiLowercase (String.ofList (trim p))).filter (· ≠ "")

def registerSignature (afterCreate : List Char) :
    Except String (ProcedureRegistry × String) :=
  match splitAtText ['('] afterCreate with
  | none => .error "missing '(' in procedure signature"
  | some (beforeParen, tail) =>
    let name := toAsciiLowercase (String.ofList (trim beforeParen))
    if name = "" then .error "procedure name must not be empty"
    -- the source takes the slice between the parentheses and panics
    else if ')' ∈ beforeParen then .error "begin > end"
    else match splitAtText [')'] tail with
      | none => .error "missing ')' in procedure signature"
      | some (params, rest) =>
        match ((trim rest).map Char.toUpper).dropPrefix? ['A', 'S'] with
        | none => .error "expected 'AS' after procedure signature"
        | some _ =>
          match extractDollarQuotedBody ((trim rest).drop 2) with
          | none => .error "expected dollar-quoted body $$ … $$ after AS"
          | some body =>
            (reg.register ⟨name, parseParams params, body, false⟩).map fun reg => (reg, name)

def registerFromDdl (sql : String) :
    Except String (ProcedureRegistry × String) :=
  if startsWithIgnoreCase sql "CREATE OR REPLACE PROCEDURE " then
    reg.registerSignature (sql.toList.drop 28)
  else if startsWithIgnoreCase sql "CREATE PROCEDURE " then
    reg.registerSignature (sql.toList.drop 17)
  else .error "not a CREATE PROCEDURE statement"

inductive Dispatch
  | answered (reg : ProcedureRegistry) (reason : String)
  | refused (reason : String)
  | carryOut (sqlBatch : String)

def isCreateProcedure (sql : String) : Bool :=
  startsWithIgnoreCase sql "CREATE OR REPLACE PROCEDURE " ||
    startsWithIgnoreCase sql "CREATE PROCEDURE "

def dropTarget (sql : String) : String :=
  toAsciiLowercase (String.ofList (trim (trimEndMatches (· = ';') (trim (sql.toList.drop 15)))))

def dispatch (sqlBatch : String) : Dispatch :=
  let sql := String.ofList (trim sqlBatch.toList)
  if isCreateProcedure sql then
    match reg.registerFromDdl sql with
    | .ok (reg, name) => .answered reg ("procedure '" ++ name ++ "' registered")
    | .error msg => .refused msg
  else if startsWithIgnoreCase sql "DROP PROCEDURE " then
    match reg.dropProcedure (dropTarget sql) with
    | .ok reg => .answered reg ("procedure '" ++ dropTarget sql ++ "' dropped")
    | .error msg => .refused msg
  else if startsWithIgnoreCase sql "CALL " then
    match reg.resolveCall sql with
    | .ok (some expanded) => .carryOut expanded
    | .ok none => .carryOut sqlBatch
    | .error msg => .refused msg
  else .carryOut sqlBatch

def isAboutProcedures (sqlBatch : String) : Bool :=
  let sql := String.ofList (trim sqlBatch.toList)
  isCreateProcedure sql || startsWithIgnoreCase sql "DROP PROCEDURE " ||
    startsWithIgnoreCase sql "CALL "

theorem dispatch_of_not_isAboutProcedures {sqlBatch : String}
    (h : isAboutProcedures sqlBatch = false) : reg.dispatch sqlBatch = .carryOut sqlBatch := by
  simp only [isAboutProcedures, Bool.or_eq_false_iff] at h
  obtain ⟨⟨hcr, hdrop⟩, hcall⟩ := h
  simp only [dispatch, hcr, hdrop, hcall, Bool.false_eq_true, if_false]

end ProcedureRegistry

end VngDatabase.Access
