import VngDatabase.Text

/-!
# The SQL tokenizer

The tokenizer of `crates/voltnuerongrid-sql/src/tokenizer.rs`, which never fails: what it does not
recognise becomes an unknown token.
-/

namespace VngDatabase.Sql

open Text List

/-- **Unicode's letters and digits.** On ASCII there is no choice. -/
class Unicode where
  isAlphabetic : Char → Bool
  isNumeric : Char → Bool
  isAlphabetic_ascii : ∀ c : Char, c.toNat < 128 → isAlphabetic c = c.isAlpha
  isNumeric_ascii : ∀ c : Char, c.toNat < 128 → isNumeric c = c.isDigit

@[reducible]
def Unicode.ascii : Unicode where
  isAlphabetic := Char.isAlpha
  isNumeric := Char.isDigit
  isAlphabetic_ascii _ _ := rfl
  isNumeric_ascii _ _ := rfl

/-! ### Tokens -/

def keywords : List String :=
  ["SELECT", "FROM", "WHERE", "JOIN", "INNER", "LEFT", "RIGHT", "FULL",
    "OUTER", "CROSS", "ON", "AS", "GROUP", "BY", "ORDER", "HAVING",
    "LIMIT", "OFFSET", "UNION", "ALL", "DISTINCT", "EXISTS", "NOT",
    "IN", "BETWEEN", "LIKE", "IS", "NULL", "AND", "OR", "CASE",
    "WHEN", "THEN", "ELSE", "END", "OVER", "PARTITION", "ROWS",
    "RANGE", "UNBOUNDED", "PRECEDING", "FOLLOWING", "CURRENT",
    "INSERT", "INTO", "VALUES", "UPDATE", "SET", "DELETE",
    "CREATE", "TABLE", "VIEW", "MATERIALIZED", "FUNCTION",
    "DROP", "ALTER", "ADD", "COLUMN", "PRIMARY", "KEY",
    "FOREIGN", "REFERENCES", "UNIQUE", "INDEX", "DEFAULT",
    "BEGIN", "COMMIT", "ROLLBACK", "SAVEPOINT", "RELEASE",
    "TRANSACTION", "ISOLATION", "LEVEL", "READ", "WRITE",
    "SERIALIZABLE", "REPEATABLE", "UNCOMMITTED", "COMMITTED",
    "TRUE", "FALSE", "ASC", "DESC", "NULLS", "FIRST", "LAST",
    "WITH", "RECURSIVE", "WINDOW", "FILTER", "WITHIN", "ROW",
    "SUM", "COUNT", "AVG", "MIN", "MAX", "COALESCE", "CAST",
    "EXTRACT", "TRIM", "UPPER", "LOWER", "SUBSTRING", "REPLACE",
    "CONCAT", "CONCAT_WS", "LENGTH", "ROUND", "FLOOR", "CEIL", "ABS",
    "NOW", "CURRENT_TIMESTAMP", "CURRENT_DATE", "CURRENT_TIME",
    "IFNULL", "NVL", "NVL2", "IFF", "DECODE", "ZEROIFNULL", "NULLIFZERO",
    "DATEDIFF", "DATEADD", "TO_CHAR", "TO_DATE", "TO_TIMESTAMP",
    "TO_TIMESTAMP_NTZ", "TO_TIMESTAMP_TZ", "TO_NUMBER", "TO_VARCHAR",
    "INSTR", "POSITION", "LISTAGG", "ANY_VALUE", "APPROX_COUNT_DISTINCT",
    "ARRAY_CONSTRUCT", "OBJECT_CONSTRUCT", "OBJECT_AGG", "MAP_CONSTRUCT",
    "ARRAY_TO_STRING", "STRING_TO_ARRAY", "REGEXP_SUBSTR", "REGEXP_INSTR",
    "REGEXP_COUNT",
    "IF", "TRUNCATE", "EXPLAIN", "ANALYZE", "SCHEMA", "DATABASE"]

def isKeyword (word : String) : Bool := word ∈ keywords

inductive Token
  | keyword (k : String)
  | identifier (i : String)
  | number (n : String)
  | stringLiteral (s : String)
  | symbol (s : String)
  | whitespace
  | lineComment (c : String)
  | blockComment (c : String)
  | unknown (u : String)
  deriving DecidableEq

def Token.isSemantic : Token → Bool
  | .whitespace | .lineComment _ | .blockComment _ => false
  | _ => true

/-! ### The parts of a token -/

/-- An unterminated comment stops before the last character. -/
def blockComment : List Char → List Char × List Char
  | c :: d :: cs =>
    if c = '*' ∧ d = '/' then ([], cs)
    else ((c :: (blockComment (d :: cs)).1), (blockComment (d :: cs)).2)
  | cs => ([], cs)

theorem length_blockComment_le (cs : List Char) : (blockComment cs).2.length ≤ cs.length := by
  fun_induction blockComment cs with
  | case1 c d cs _ => simp only [length_cons]; omega
  | case2 c d cs _ ih => simp only [length_cons] at ih ⊢; omega
  | case3 cs _ => exact le_rfl

/-- A doubled quote stands for one. -/
def stringBody : List Char → List Char × List Char
  | [] => ([], [])
  | '\'' :: '\'' :: cs => ('\'' :: (stringBody cs).1, (stringBody cs).2)
  | '\'' :: cs => ([], cs)
  | c :: cs => (c :: (stringBody cs).1, (stringBody cs).2)

theorem length_stringBody_le (cs : List Char) : (stringBody cs).2.length ≤ cs.length := by
  fun_induction stringBody cs with
  | case1 => exact le_rfl
  | case2 cs ih => simp only [length_cons]; omega
  | case3 cs _ => simp only [length_cons]; omega
  | case4 c cs _ _ ih => simp only [length_cons]; omega

def exponent : List Char → List Char × List Char
  | [] => ([], [])
  | c :: cs =>
    if c = 'e' ∨ c = 'E' then
      match cs with
      | [] => ([c], [])
      | s :: ds =>
        if s = '+' ∨ s = '-' then (c :: s :: ds.takeWhile Char.isDigit, ds.dropWhile Char.isDigit)
        else (c :: (s :: ds).takeWhile Char.isDigit, (s :: ds).dropWhile Char.isDigit)
    else ([], c :: cs)

theorem length_exponent_le (cs : List Char) : (exponent cs).2.length ≤ cs.length := by
  have hdrop (l : List Char) : (l.dropWhile Char.isDigit).length ≤ l.length :=
    (dropWhile_suffix _).length_le
  rcases cs with _ | ⟨c, _ | ⟨s, ds⟩⟩
  · exact le_rfl
  · rw [exponent]
    split_ifs <;> simp
  · have hds := hdrop ds
    have hsds := hdrop (s :: ds)
    rw [length_cons] at hsds
    rw [exponent]
    split_ifs <;> simp only [length_cons] <;> omega

def isNumberPart (c : Char) : Bool := c.isDigit || c = '.'

def startsNumber (c : Char) (cs : List Char) : Bool :=
  c.isDigit || (c = '.' && cs.head?.any Char.isDigit)

def twoCharSymbols : List String := ["<>", ">=", "<=", "!=", "::", "->", "->>", "||"]

def oneCharSymbols : List Char := "()[]\x7b\x7d.,;*+-/%^=<>|&~?@#!:\\".toList

variable [Unicode]

def startsWord (c : Char) : Bool := Unicode.isAlphabetic c || c = '_'

def isWordPart (c : Char) : Bool := Unicode.isAlphabetic c || Unicode.isNumeric c || c = '_'

def wordToken (word : String) : Token :=
  let upper := toAsciiUppercase word
  if isKeyword upper then .keyword upper else .identifier word

def nextToken (c : Char) (cs : List Char) : Token × List Char :=
  if isAsciiWhitespace c then (.whitespace, cs.dropWhile isAsciiWhitespace)
  else if c = '-' ∧ cs.head? = some '-' then
    (.lineComment (String.ofList (cs.tail.takeWhile (· ≠ '\n'))), cs.tail.dropWhile (· ≠ '\n'))
  else if c = '/' ∧ cs.head? = some '*' then
    (.blockComment (String.ofList (blockComment cs.tail).1), (blockComment cs.tail).2)
  else if c = '\'' then (.stringLiteral (String.ofList (stringBody cs).1), (stringBody cs).2)
  else if c = '"' ∨ c = '\x60' then
    (.identifier (String.ofList (cs.takeWhile (· ≠ c))), (cs.dropWhile (· ≠ c)).tail)
  else if startsNumber c cs then
    let rest := cs.dropWhile isNumberPart
    (.number (String.ofList (c :: cs.takeWhile isNumberPart ++ (exponent rest).1)),
      (exponent rest).2)
  else if startsWord c then
    (wordToken (String.ofList (c :: cs.takeWhile isWordPart)), cs.dropWhile isWordPart)
  else if String.ofList (c :: cs.take 1) ∈ twoCharSymbols then
    (.symbol (String.ofList (c :: cs.take 1)), cs.tail)
  else if c ∈ oneCharSymbols then (.symbol (String.ofList [c]), cs)
  else (.unknown (String.ofList [c]), cs)

def tokenizeFrom : ℕ → List Char → List Token
  | 0, _ => []
  | _, [] => []
  | n + 1, c :: cs => (nextToken c cs).1 :: tokenizeFrom n (nextToken c cs).2

def tokenizeChars (cs : List Char) : List Token := tokenizeFrom cs.length cs

def tokenize (sql : String) : List Token := tokenizeChars sql.toList

def semanticTokens (sql : String) : List Token := (tokenize sql).filter Token.isSemantic

theorem length_nextToken_lt (c : Char) (cs : List Char) :
    (nextToken c cs).2.length < (c :: cs).length := by
  have hdrop (p : Char → Bool) (l : List Char) : (l.dropWhile p).length ≤ l.length :=
    (dropWhile_suffix p).length_le
  have htail (l : List Char) : l.tail.length ≤ l.length := by simp
  rw [length_cons, Nat.lt_succ_iff, nextToken]
  split_ifs
  · exact hdrop _ _
  · exact (hdrop _ _).trans (htail _)
  · exact (length_blockComment_le _).trans (htail _)
  · exact length_stringBody_le _
  · exact (htail _).trans (hdrop _ _)
  · exact (length_exponent_le _).trans (hdrop _ _)
  · exact hdrop _ _
  · exact htail _
  · exact le_rfl
  · exact le_rfl

theorem tokenizeFrom_eq {n m : ℕ} {cs : List Char} (hn : cs.length ≤ n) (hm : cs.length ≤ m) :
    tokenizeFrom n cs = tokenizeFrom m cs := by
  induction n generalizing cs m with
  | zero =>
    rw [length_eq_zero_iff.mp (Nat.le_zero.mp hn)]
    cases m <;> rfl
  | succ n ih =>
    cases cs with
    | nil => cases m <;> rfl
    | cons c cs =>
      obtain ⟨m, rfl⟩ := Nat.exists_eq_add_of_lt (Nat.lt_of_lt_of_le (Nat.succ_pos _) hm)
      have hlt := length_nextToken_lt c cs
      rw [length_cons] at hlt hn hm
      rw [Nat.zero_add, tokenizeFrom, tokenizeFrom, ih (m := m) (by omega) (by omega)]

theorem tokenizeChars_cons (c : Char) (cs : List Char) :
    tokenizeChars (c :: cs) = (nextToken c cs).1 :: tokenizeChars (nextToken c cs).2 := by
  have hlt := length_nextToken_lt c cs
  rw [length_cons] at hlt
  rw [tokenizeChars, length_cons, tokenizeFrom, tokenizeChars,
    tokenizeFrom_eq (Nat.le_of_lt_succ hlt) le_rfl]

end VngDatabase.Sql
