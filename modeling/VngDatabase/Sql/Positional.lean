import VngDatabase.Sql.Ast

/-!
# The literals of an INSERT

What `parse_insert` (`crates/voltnuerongrid-sql/src/ast.rs`) makes of the literals of a statement,
which is given as a tree (`InsertSyntax`).
-/

namespace VngDatabase.Sql

open Text List Option

/-! ### The syntax of the statement -/

/-- **A name**: a word, a quoted text, or a keyword in its place. -/
inductive Name
  | identifier (s : String)
  | keyword (k : String)

def Name.text : Name → String
  | .identifier s | .keyword s => s

def Name.token : Name → Token
  | .identifier s => .identifier s
  | .keyword k => .keyword k

inductive Sign
  | plus
  | minus

def Sign.text : Sign → String
  | .plus => "+"
  | .minus => "-"

inductive Literal
  | string (s : String)
  | number (sign : Option Sign) (digits : String)
  | true
  | false
  | null

namespace Literal

def text : Literal → String
  | string s => s
  | number sign digits => (sign.map Sign.text).getD "" ++ digits
  | true => "TRUE"
  | false => "FALSE"
  | null => "NULL"

def tokens : Literal → List Token
  | string s => [.stringLiteral s]
  | number sign digits => (sign.map fun s => .symbol s.text).toList ++ [.number digits]
  | true => [.keyword "TRUE"]
  | false => [.keyword "FALSE"]
  | null => [.keyword "NULL"]

/-- **One token with its value?** A sign is a token of its own. -/
def Plain : Literal → Prop
  | number sign _ => sign = none
  | true | false => False
  | string _ | null => True

def value (lit : Literal) : Option String := (lit.tokens.filterMap tokenAsValue).head?

end Literal

/-- **An `INSERT` with a column list** and rows. -/
structure InsertSyntax where
  into : Bool
  schema : Option Name
  table : Name
  columns : List Name
  rows : List (List Literal)
  tail : List Token
  table_ne_into : into ∨ ¬isKeywordToken "INTO" (schema.getD table).token
  width : ∀ row ∈ rows, row.length = columns.length
  tail_head : ∀ t ∈ tail.head?, t ≠ .symbol "(" ∧ t ≠ .symbol ","

def withCommas (parts : List (List Token)) : List Token := [Token.symbol ","].intercalate parts

def rowTokens (row : List Literal) : List Token :=
  .symbol "(" :: (withCommas (row.map Literal.tokens) ++ [.symbol ")"])

def InsertSyntax.tokens (ins : InsertSyntax) : List Token :=
  .keyword "INSERT" :: ((if ins.into then [.keyword "INTO"] else []) ++
    (ins.schema.map fun s => [s.token, .symbol "."]).getD [] ++
    ins.table.token :: .symbol "(" :: (withCommas (ins.columns.map fun c => [c.token]) ++
      .symbol ")" :: .keyword "VALUES" :: (withCommas (ins.rows.map rowTokens) ++ ins.tail)))

theorem tokenAsName_token (name : Name) : tokenAsName name.token = some name.text := by
  cases name <;> rfl

theorem withCommas_cons_cons (part part' : List Token) (parts : List (List Token)) :
    withCommas (part :: part' :: parts) = part ++ .symbol "," :: withCommas (part' :: parts) := by
  simp [withCommas]

theorem columnList_append (cols : List Name) (rest : List Token) :
    columnList (withCommas (cols.map fun c => [c.token]) ++ .symbol ")" :: rest) =
      (cols.map Name.text, rest) := by
  have hname (c : Name) (ts : List Token) : columnList (c.token :: ts) =
      (c.text :: (columnList ts).1, (columnList ts).2) := by
    cases c <;> simp [columnList, Name.token, Name.text, tokenAsName]
  induction cols with
  | nil => simp [withCommas, columnList]
  | cons c cols ih =>
    cases cols with
    | nil => simp [withCommas, hname, columnList]
    | cons c' cols =>
      simp only [map_cons] at ih ⊢
      rw [withCommas_cons_cons, append_assoc, singleton_append, hname, cons_append,
        columnList, if_neg (by decide), if_pos rfl, ih]

theorem valueRows_append {ts : List Token} (h : Token.symbol ")" ∉ ts) (row : List String)
    (rest : List Token) :
    valueRows (some row) (ts ++ rest) =
      valueRows (some (row ++ ts.filterMap tokenAsValue)) rest := by
  induction ts generalizing row with
  | nil => simp
  | cons t ts ih =>
    rw [mem_cons, not_or] at h
    rw [cons_append, valueRows, if_neg (Ne.symm h.1), ih h.2, append_assoc]
    cases ht : tokenAsValue t <;> simp [ht]

theorem notMem_withCommas (row : List Literal) :
    Token.symbol ")" ∉ withCommas (row.map Literal.tokens) := by
  have hlit (lit : Literal) : Token.symbol ")" ∉ lit.tokens := by
    rcases lit with _ | ⟨_ | _ | _, _⟩ | _ | _ | _ <;> simp [Literal.tokens, Sign.text]
  induction row with
  | nil => simp [withCommas]
  | cons lit row ih =>
    cases row with
    | nil => simpa [withCommas] using hlit lit
    | cons lit' row =>
      simp only [map_cons] at ih ⊢
      rw [withCommas_cons_cons]
      simp [hlit lit, ih]

theorem filterMap_withCommas (row : List Literal) :
    (withCommas (row.map Literal.tokens)).filterMap tokenAsValue = row.filterMap Literal.value := by
  have hlit (lit : Literal) : lit.tokens.filterMap tokenAsValue = lit.value.toList := by
    rcases lit with _ | ⟨_ | _ | _, _⟩ | _ | _ | _ <;> rfl
  induction row with
  | nil => rfl
  | cons lit row ih =>
    have hcons : (lit :: row).filterMap Literal.value =
        lit.value.toList ++ row.filterMap Literal.value := by
      cases h : lit.value <;> simp [h]
    rw [hcons, ← ih]
    cases row with
    | nil => simp [withCommas, hlit]
    | cons lit' row =>
      simp only [map_cons]
      rw [withCommas_cons_cons, filterMap_append, hlit]
      rfl

theorem valueRows_rowTokens (row : List Literal) (rest : List Token) :
    valueRows none (rowTokens row ++ rest) =
      row.filterMap Literal.value :: valueRows none rest := by
  rw [rowTokens, cons_append, valueRows, if_pos rfl, append_assoc,
    valueRows_append (notMem_withCommas row), filterMap_withCommas, nil_append,
    singleton_append, valueRows, if_pos rfl]

theorem valueRows_withCommas (rows : List (List Literal)) {tail : List Token}
    (h : ∀ t ∈ tail.head?, t ≠ .symbol "(" ∧ t ≠ .symbol ",") :
    valueRows none (withCommas (rows.map rowTokens) ++ tail) =
      rows.map (List.filterMap Literal.value) := by
  have htail : valueRows none tail = [] := by
    cases tail with
    | nil => rfl
    | cons t tail =>
      have ht := h t rfl
      rw [valueRows, if_neg ht.1, if_neg ht.2]
  induction rows with
  | nil => simpa [withCommas] using htail
  | cons row rows ih =>
    cases rows with
    | nil => simp [withCommas, valueRows_rowTokens, htail]
    | cons row' rows =>
      simp only [map_cons] at ih ⊢
      rw [withCommas_cons_cons, append_assoc, valueRows_rowTokens, cons_append, valueRows,
        if_neg (by decide), if_pos rfl, ih]

theorem parseInsert_tokens (ins : InsertSyntax) : parseInsert ins.tokens =
    if ins.schema = none then .ok ⟨ins.table.text, ins.columns.map Name.text,
      ins.rows.map (List.filterMap Literal.value)⟩
    else .error "INSERT missing VALUES keyword" := by
  have hskip : skipToken (isKeywordToken "INTO") (ins.tokens.drop 1) =
      (ins.schema.map fun s => [s.token, .symbol "."]).getD [] ++
        ins.table.token :: .symbol "(" :: (withCommas (ins.columns.map fun c => [c.token]) ++
          .symbol ")" :: .keyword "VALUES" ::
            (withCommas (ins.rows.map rowTokens) ++ ins.tail)) := by
    have hname := ins.table_ne_into
    cases hinto : ins.into with
    | true =>
      simp only [InsertSyntax.tokens, hinto, if_true, drop_one, tail_cons,
        cons_append, nil_append, skipToken]
      exact if_pos (by decide)
    | false =>
      simp only [hinto, Bool.false_eq_true, false_or] at hname
      cases hsch : ins.schema <;>
        simp [InsertSyntax.tokens, hinto, skipToken, hsch] at hname ⊢ <;> simp [hname]
  rw [parseInsert, hskip]
  cases ins.schema with
  | none =>
    simp only [map_none, getD_none, nil_append, tokenAsName_token,
      head?_cons, tail_cons, columnList_append, if_true,
      valueRows_withCommas ins.rows ins.tail_head]
    exact if_pos (by decide)
  | some schema =>
    simp only [map_some, getD_some, cons_append, nil_append,
      tokenAsName_token, head?_cons, reduceCtorEq, if_false]
    exact if_neg (by decide)

theorem Literal.value_eq_iff (lit : Literal) : lit.value = some lit.text ↔ lit.Plain := by
  have hsign (sign digits : String) (h : sign ≠ "") : digits ≠ sign ++ digits := by
    intro heq
    have hlen := congrArg String.length heq
    rw [String.length_append] at hlen
    exact h (String.length_eq_zero_iff.mp (by omega))
  rcases lit with s | ⟨_ | _ | _, n⟩ | _ | _ | _
  · exact iff_of_true rfl trivial
  · exact iff_of_true (congrArg some String.empty_append.symm) rfl
  · refine iff_of_false (fun h => ?_) (some_ne_none _)
    exact hsign "+" n (by decide) (some.inj h)
  · refine iff_of_false (fun h => ?_) (some_ne_none _)
    exact hsign "-" n (by decide) (some.inj h)
  · exact iff_of_false (some_ne_none _).symm id
  · exact iff_of_false (some_ne_none _).symm id
  · exact iff_of_true rfl trivial

theorem filterMap_eq_map_iff {α β : Type} {f : α → Option β} {g : α → β} {l : List α} :
    l.filterMap f = l.map g ↔ ∀ x ∈ l, f x = some (g x) := by
  induction l with
  | nil => simp
  | cons x l ih =>
    rw [filterMap_cons, forall_mem_cons, map_cons, ← ih]
    cases hx : f x with
    | none =>
      refine iff_of_false (fun (h : l.filterMap f = g x :: l.map g) => ?_) (by simp)
      have hle := length_filterMap_le f l
      rw [h, length_cons, length_map] at hle
      omega
    | some y => simp

/-- **Each value is read under its own column** iff all literals are plain and the table has no
schema. -/
theorem parseInsert_iff [Unicode] (ins : InsertSyntax) (sql : String)
    (h : semanticTokens sql = ins.tokens) :
    parseInsert (semanticTokens sql) =
        .ok ⟨ins.table.text, ins.columns.map Name.text, ins.rows.map (List.map Literal.text)⟩ ↔
      ins.schema = none ∧ ∀ row ∈ ins.rows, ∀ lit ∈ row, lit.Plain := by
  rw [h, parseInsert_tokens]
  split_ifs with hsch
  · simp only [Except.ok.injEq, InsertStatement.mk.injEq, true_and, hsch, map_inj_left,
      filterMap_eq_map_iff, Literal.value_eq_iff]
  · simp [hsch]

def twoColumns (first second : Literal) : InsertSyntax where
  into := true
  schema := none
  table := .identifier "t"
  columns := [.identifier "a", .identifier "b"]
  rows := [[first, second]]
  tail := []
  table_ne_into := .inl rfl
  width := by simp
  tail_head := by simp

theorem parseInsert_plain_literals : letI := Unicode.ascii
    parseInsert (semanticTokens "INSERT INTO t (a, b) VALUES ('x', 5)") =
      .ok ⟨"t", ["a", "b"], [["x", "5"]]⟩ :=
  letI := Unicode.ascii
  (parseInsert_iff (twoColumns (.string "x") (.number none "5")) _ (by decide +kernel)).mpr
    ⟨rfl, by simp [twoColumns, Literal.Plain]⟩

/-- The value `5` of `b` is read as one of `a`, without its sign. -/
theorem parseInsert_moves_up : letI := Unicode.ascii
    semanticTokens "INSERT INTO t (a, b) VALUES (TRUE, -5)" =
        (twoColumns .true (.number (some .minus) "5")).tokens ∧
      parseInsert (semanticTokens "INSERT INTO t (a, b) VALUES (TRUE, -5)") =
        .ok ⟨"t", ["a", "b"], [["5"]]⟩ := by
  decide +kernel

end VngDatabase.Sql
