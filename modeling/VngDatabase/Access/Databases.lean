import VngDatabase.Access.Auth
import VngDatabase.Sql.Analyzer
import VngDatabase.Sql.Extract

/-!
# Databases and who may use them

The names of databases and the list of them (`crates/voltnuerongrid-meta/src/lib.rs`), the
statements that create and drop one, and the grants that decide who may name one in the header of a
request (`auth.rs` and `handlers/sql.rs` of `services/voltnuerongridd/src`).
-/

namespace VngDatabase.Access

open Text Sql List

/-! ### Names -/

variable {dbGrants : DbGrants}

inductive DatabaseNameError
  | empty
  | tooLong (len : ℕ)
  | invalidStart (ch : Char)
  | invalidChar (ch : Char)
  | reserved (name : String)

def isNameChar (ch : Char) : Bool := ch.isAlphanum || ch = '_'

def reservedNames : List String := ["metadata", "information_schema", "pg_catalog", "vng_system"]

@[irreducible]
def nameError (lower : String) : Option DatabaseNameError :=
  match lower.toList with
  | [] => some .empty
  | first :: _ =>
    if 63 < lower.utf8ByteSize then some (.tooLong lower.utf8ByteSize)
    else if !first.isAlpha && first ≠ '_' then some (.invalidStart first)
    else match lower.toList.find? fun ch => !isNameChar ch with
      | some ch => some (.invalidChar ch)
      | none => if lower ∈ reservedNames then some (.reserved lower) else none

structure DatabaseName where
  text : String
  valid : nameError text = none
  deriving DecidableEq

namespace DatabaseName

@[irreducible]
def parse (input : String) : Except DatabaseNameError DatabaseName :=
  let lower := toAsciiLowercase (String.ofList (trim input.toList))
  match h : nameError lower with
  | some e => .error e
  | none => .ok ⟨lower, h⟩

variable (d : DatabaseName)

theorem text_ne_empty : d.text ≠ "" := by
  intro he
  have hvld := d.valid
  rw [he, nameError] at hvld
  cases hvld

theorem isNameChar_of_mem {ch : Char} (h : ch ∈ d.text.toList) : isNameChar ch := by
  have hvld := d.valid
  unfold nameError at hvld
  cases hfind : d.text.toList.find? fun ch => !isNameChar ch with
  | none => simpa using find?_eq_none.mp hfind ch h
  | some ch' =>
    rw [hfind] at hvld
    split at hvld
    · contradiction
    · split_ifs at hvld

theorem point_notMem : '.' ∉ d.text.toList := fun h => absurd (d.isNameChar_of_mem h) (by decide)

variable {d}

theorem text_of_parse {input : String} (h : parse input = .ok d) :
    d.text = toAsciiLowercase (String.ofList (trim input.toList)) := by
  simp only [parse] at h
  split at h
  · cases h
  · rw [← Except.ok.inj h]

theorem parse_text (h : toAsciiLowercase (String.ofList (trim d.text.toList)) = d.text) :
    parse d.text = .ok d := by
  obtain ⟨text, valid⟩ := d
  simp only [parse]
  split
  · rename_i e he
    rw [h, valid] at he
    cases he
  · simp only [h]

theorem point_notMem_of_parse {input : String} (h : parse input = .ok d) : '.' ∉ input.toList := by
  intro hmem
  refine d.point_notMem ?_
  rw [text_of_parse h, toAsciiLowercase, String.toList_ofList, String.toList_ofList]
  exact mem_map.mpr ⟨'.', mem_trim hmem (by decide), by decide⟩

theorem exists_of_isUnder {k : String} (h : isUnder d.text k) :
    ∃ rest, k.toList = d.text.toList ++ '.' :: rest := by
  obtain ⟨rawKey, rfl⟩ := isUnder_iff.mp h
  exact ⟨rawKey.toList, toList_dbPrefixKey d.text_ne_empty rawKey⟩

theorem eq_of_startsWith {name k : String} (h : isUnder d.text k) (hname : '.' ∉ name.toList)
    (hk : startsWith k (name ++ ".")) : name = d.text := by
  obtain ⟨rest, hrest⟩ := exists_of_isUnder h
  obtain ⟨rest', hrest'⟩ := isPrefixOf_iff_prefix.mp hk
  have htext : (name ++ ".").toList = name.toList ++ ['.'] := by simp
  rw [htext, append_assoc, singleton_append, hrest] at hrest'
  exact String.toList_inj.mp (eq_of_append_cons_eq hname d.point_notMem hrest')

theorem not_isUnder {k : String} (word : String) (hword : word.toList.all isNameChar)
    (hk : startsWith k (word ++ ":")) : ¬isUnder d.text k := by
  intro h
  obtain ⟨rest, hrest⟩ := exists_of_isUnder h
  obtain ⟨rest', hrest'⟩ := isPrefixOf_iff_prefix.mp hk
  have htext : (word ++ ":").toList = word.toList ++ [':'] := by simp
  rw [htext, append_assoc, singleton_append, hrest] at hrest'
  -- both texts go on after the first word, one with a colon and one with a point
  have hdrop := congrArg (dropWhile isNameChar) hrest'
  rw [dropWhile_append_of_pos (all_eq_true.mp hword),
    dropWhile_append_of_pos fun _ => d.isNameChar_of_mem,
    dropWhile_cons_of_neg (by decide), dropWhile_cons_of_neg (by decide)] at hdrop
  exact absurd (head_eq_of_cons_eq hdrop) (by decide)

end DatabaseName

inductive DatabaseCatalogError
  | invalidName (e : DatabaseNameError)
  | alreadyExists (name : String)
  | notFound (name : String)

abbrev DatabaseCatalog := Finset DatabaseName

namespace DatabaseCatalog

def create (databases : DatabaseCatalog) (name : String) :
    Except DatabaseCatalogError DatabaseCatalog :=
  match DatabaseName.parse name with
  | .error e => .error (.invalidName e)
  | .ok parsed =>
    if parsed ∈ databases then .error (.alreadyExists parsed.text)
    else .ok (insert parsed databases)

def dropDatabase (databases : DatabaseCatalog) (name : String) (ifExists : Bool) :
    Except DatabaseCatalogError (DatabaseCatalog × Option DatabaseName) :=
  match DatabaseName.parse name with
  | .error e => .error (.invalidName e)
  | .ok parsed =>
    if parsed ∈ databases then .ok (databases.erase parsed, some parsed)
    else if ifExists then .ok (databases, none)
    else .error (.notFound parsed.text)

theorem point_notMem_of_dropDatabase {databases : DatabaseCatalog} {name : String}
    {ifExists : Bool} {result : DatabaseCatalog × Option DatabaseName}
    (h : databases.dropDatabase name ifExists = .ok result) : '.' ∉ name.toList := by
  rw [dropDatabase] at h
  cases hpar : DatabaseName.parse name with
  | error e =>
    rw [hpar] at h
    cases h
  | ok parsed => exact DatabaseName.point_notMem_of_parse hpar

end DatabaseCatalog

inductive DbDdlStatement
  | createDatabase (name : String) (ifNotExists : Bool)
  | dropDatabase (name : String) (ifExists : Bool)

def cleanDatabaseName (word : String) : Option String :=
  let isQuote := fun ch : Char => ch = '"' || ch = '\'' || ch = Char.ofNat 96
  let name := String.ofList (trimMatches isQuote (toAsciiLowercase word).toList)
  if name = "" then none else some name

@[irreducible]
def parseDbDdlStatement (sql : String) : Option DbDdlStatement :=
  let words := ((splitWhitespace sql).map fun w =>
    String.ofList (trimEndMatches (· = ';') w.toList)).filter (· ≠ "")
  match words with
  | first :: second :: third :: rest =>
    if toAsciiUppercase first = "CREATE" ∧ toAsciiUppercase second = "DATABASE" then
      match toAsciiUppercase third, rest with
      | "IF", not :: exist :: name :: _ =>
        if toAsciiUppercase not = "NOT" ∧ toAsciiUppercase exist = "EXISTS" then
          (cleanDatabaseName name).map fun name => .createDatabase name true
        else (cleanDatabaseName third).map fun name => .createDatabase name false
      | _, _ => (cleanDatabaseName third).map fun name => .createDatabase name false
    else if toAsciiUppercase first = "DROP" ∧ toAsciiUppercase second = "DATABASE" then
      match toAsciiUppercase third, rest with
      | "IF", exist :: name :: _ =>
        if toAsciiUppercase exist = "EXISTS" then
          (cleanDatabaseName name).map fun name => .dropDatabase name true
        else (cleanDatabaseName third).map fun name => .dropDatabase name false
      | _, _ => (cleanDatabaseName third).map fun name => .dropDatabase name false
    else none
  | _ => none

abbrev DbGrants := String → Finset String

def principalHasDatabaseAccess (principal : RuntimeAccessPrincipal) (database : String)
    (matrix : RbacPrivilegeMatrix) (dbGrants : DbGrants) : Bool :=
  match principal with
  | .operator op =>
    op.role = .dba || matrix.allows op.role.asStr ("database/" ++ database) "sql" .execute ||
      matrix.allows op.role.asStr "database/*" "sql" .execute
  | .tenantUser user => user.role ∈ dbGrants database

@[irreducible]
def privilegeTarget (verb sql : String) : Option (String × String) :=
  let words := splitWhitespace (toAsciiLowercase sql)
  let role := words[1]?.getD ""
  let db := ((words.findIdx? (· = "database")).bind fun i => words[i + 1]?).getD ""
  if words.head? = some verb ∧ role ≠ "" ∧ db ≠ "" then some (role, db) else none

def handleGrantSql (dbGrants : DbGrants) (sql : String) : DbGrants :=
  match privilegeTarget "grant" sql with
  | some (role, db) => Function.update dbGrants db (insert role (dbGrants db))
  | none => dbGrants

def handleRevokeSql (dbGrants : DbGrants) (sql : String) : DbGrants :=
  match privilegeTarget "revoke" sql with
  | some (role, db) => Function.update dbGrants db ((dbGrants db).erase role)
  | none => dbGrants

def applyPrivilege (dbGrants : DbGrants) (sql : String) : DbGrants :=
  if classifyStatement sql = .grant then handleGrantSql dbGrants sql
  else if classifyStatement sql = .revoke then handleRevokeSql dbGrants sql
  else dbGrants

def grants (role database sql : String) : Bool :=
  classifyStatement sql = .grant && privilegeTarget "grant" sql = some (role, database)

theorem notMem_handleGrantSql {role database sql : String}
    (h : role ∉ dbGrants database) (hsql : privilegeTarget "grant" sql ≠ some (role, database)) :
    role ∉ handleGrantSql dbGrants sql database := by
  rw [handleGrantSql]
  cases htgt : privilegeTarget "grant" sql with
  | none => exact h
  | some target =>
    obtain ⟨role', db⟩ := target
    dsimp only
    rw [Function.update_apply]
    split_ifs with hdb
    · subst hdb
      rw [Finset.mem_insert, not_or]
      refine ⟨?_, h⟩
      rintro rfl
      exact hsql htgt
    · exact h

theorem notMem_handleRevokeSql {role database : String}
    (h : role ∉ dbGrants database) (sql : String) :
    role ∉ handleRevokeSql dbGrants sql database := by
  rw [handleRevokeSql]
  cases privilegeTarget "revoke" sql with
  | none => exact h
  | some target =>
    dsimp only
    rw [Function.update_apply]
    split_ifs with hdb
    · subst hdb
      exact fun hmem => h (Finset.mem_of_mem_erase hmem)
    · exact h

theorem notMem_applyPrivilege {role database sql : String}
    (h : role ∉ dbGrants database) (hsql : ¬grants role database sql) :
    role ∉ applyPrivilege dbGrants sql database := by
  rw [applyPrivilege]
  split_ifs with hkind
  · refine notMem_handleGrantSql h ?_
    simpa [grants, hkind] using hsql
  · exact notMem_handleRevokeSql h sql
  · exact h

theorem notMem_foldl_applyPrivilege {role database : String}
    {stmts : List String} (h : role ∉ dbGrants database)
    (hstm : ∀ stmt ∈ stmts, ¬grants role database stmt) :
    role ∉ stmts.foldl applyPrivilege dbGrants database := by
  induction stmts generalizing dbGrants with
  | nil => exact h
  | cons stmt stmts ih =>
    rw [forall_mem_cons] at hstm
    rw [foldl_cons]
    exact ih (notMem_applyPrivilege h hstm.1) hstm.2

end VngDatabase.Access
