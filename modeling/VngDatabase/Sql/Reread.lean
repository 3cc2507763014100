import VngDatabase.Fields
import VngDatabase.Sql.Positional
import VngDatabase.Sql.Spelling

/-!
# A row as a statement of its own

For the statement log each row of an `INSERT` is printed as a statement of its own
(`extract_all_insert_rows` in `services/voltnuerongridd/src/helpers/sql_parse.rs`).
-/

namespace VngDatabase.Sql

open Text List Option Function

def Reprints (v : String) : Prop :=
  trim v.toList = v.toList ∧ (parsesAsF64 v.toList → isDecimal v.toList)

def reprinted (v : String) : Literal := if parsesAsF64 v.toList then .number none v else .string v

theorem filterMap_value_reprinted (vals : List String) :
    (vals.map reprinted).filterMap Literal.value = vals := by
  have hval : Literal.value ∘ reprinted = some := by
    funext v
    rw [comp_apply, reprinted]
    split_ifs <;> rfl
  rw [filterMap_map, hval, filterMap_some]

def Name.ofWord (word : String) : Name :=
  if isKeyword (toAsciiUppercase word) then .keyword (toAsciiUppercase word) else .identifier word

theorem token_ofWord (word : String) : (Name.ofWord word).token = wordToken word := by
  rw [Name.ofWord, wordToken]
  split_ifs <;> rfl

theorem toAsciiLowercase_text_ofWord (word : String) :
    toAsciiLowercase (Name.ofWord word).text = toAsciiLowercase word := by
  have hcase (c : Char) : c.toUpper.toLower = c.toLower := by
    have hasc : ∀ n : Fin 128, (Char.ofNat n).toUpper.toLower = (Char.ofNat n).toLower := by
      decide +kernel
    by_cases hc : c.toNat < 128
    · have hn := hasc ⟨c.toNat, hc⟩
      rwa [Char.ofNat_toNat] at hn
    · have hupp : c.toUpper = c := by
        rw [Char.toUpper, dif_neg]
        rintro ⟨-, hz⟩
        have hle : c.toNat ≤ 122 := hz
        omega
      rw [hupp]
  rw [Name.ofWord]
  split_ifs
  · rw [Name.text, toAsciiUppercase, toAsciiLowercase, String.toList_ofList, List.map_map,
      toAsciiLowercase]
    exact congrArg String.ofList (map_congr_left fun c _ => hcase c)
  · rfl

theorem insertColumn_ofWord (cols : List String) (i : ℕ) :
    insertColumn (cols.map fun c => (Name.ofWord c).text) i = insertColumn cols i := by
  rw [insertColumn, insertColumn, getElem?_map]
  cases cols[i]? with
  | none => rfl
  | some c => simp [toAsciiLowercase_text_ofWord]

def headerTokens (columns : List Name) : List Token :=
  if columns = [] then []
  else .symbol "(" :: (withCommas (columns.map fun c => [c.token]) ++ [.symbol ")"])

theorem parseTokens_singleRow {t : Token} {table : String} (ht : tokenAsName t = some table)
    (cols : List Name) (row : List Literal) :
    parseTokens (.keyword "INSERT" :: .keyword "INTO" :: t :: (headerTokens cols ++
        .keyword "VALUES" :: (rowTokens row ++ [.symbol ";"]))) =
      .ok (.insert ⟨table, cols.map Name.text, [row.filterMap Literal.value]⟩) := by
  have hrow := valueRows_rowTokens row [.symbol ";"]
  have hend : valueRows none [.symbol ";"] = [] := by decide
  rw [hend] at hrow
  have hins : toAsciiUppercase "INSERT" = "INSERT" := by decide
  have hinto : isKeywordToken "INTO" (.keyword "INTO") := by decide
  have hvals : isKeywordToken "VALUES" (.keyword "VALUES") := by decide
  rw [parseTokens, if_pos hins, parseInsert, drop_one, tail_cons, skipToken, if_pos hinto]
  dsimp only
  rw [ht]
  by_cases hcols : cols = []
  · simp [headerTokens, hcols, hvals, hrow, Except.map]
  · have hlist := columnList_append cols (.keyword "VALUES" :: (rowTokens row ++ [.symbol ";"]))
    simp [headerTokens, hcols, hlist, hvals, hrow, Except.map]

def unqualified (table : List Char) : List Char :=
  if '.' ∈ table then (table.dropWhile (· ≠ '.')).tail else table

def columnsText (columns : List String) : List Char :=
  if columns = [] then []
  else ' ' :: '(' :: ([',', ' '].intercalate (columns.map String.toList) ++ [')'])

def valuesText (vals : List String) : List Char :=
  "VALUES".toList ++ ' ' :: '(' ::
    ([',', ' '].intercalate (vals.map fun v => (quoteValue v).toList) ++ [')', ';'])

def singleRowText (table : List Char) (columns vals : List String) : List Char :=
  "INSERT".toList ++ ' ' :: ("INTO".toList ++ ' ' ::
    (table ++ (columnsText columns ++ ' ' :: valuesText vals)))

theorem singleSql_eq (table : String) (cols vals : List String) :
    "INSERT INTO " ++ table ++
        (if cols = [] then "" else " (" ++ ", ".intercalate cols ++ ")") ++ " VALUES (" ++
        ", ".intercalate (vals.map quoteValue) ++ ");" =
      String.ofList (singleRowText table.toList cols vals) := by
  rw [← String.toList_inj, String.toList_ofList]
  -- The equations of these texts would be proved by decoding their literals.
  delta singleRowText columnsText valuesText
  have hcom : ", ".toList = [',', ' '] := by decide
  split_ifs <;>
    simp [String.toList_intercalate, hcom, comp_def]

def printedTable (sql : String) (ins : InsertStatement) : String :=
  match splitAtTable sql.toList with
  | some (_, _, name, _) => String.ofList name
  | none => ins.table

section

variable [Unicode] {table : List Char}

theorem semantic_joined {α : Type} (text : α → List Char) (toks : α → List Token) {xs : List α}
    (h : ∀ x ∈ xs, ∀ rest : List Char, (∀ c ∈ rest.head?, isPunctuation c) →
      semantic (text x ++ rest) = toks x ++ semantic rest) (rest : List Char) :
    semantic ([',', ' '].intercalate (xs.map text) ++ ')' :: rest) =
      withCommas (xs.map toks) ++ .symbol ")" :: semantic rest := by
  induction xs with
  | nil => exact semantic_punctuation rfl rest
  | cons x xs ih =>
    have hx := h x mem_cons_self
    cases xs with
    | nil =>
      rw [map_singleton, map_singleton, intercalate_singleton, withCommas,
        intercalate_singleton, hx _ (by simp [isPunctuation]), semantic_punctuation rfl]
    | cons x' xs =>
      have hrest := ih fun y hy => h y (mem_cons_of_mem x hy)
      simp only [map_cons] at hrest ⊢
      rw [intercalate_cons_cons, withCommas_cons_cons, append_assoc, append_assoc,
        hx _ (by simp [isPunctuation]), cons_append, semantic_punctuation rfl,
        cons_append, semantic_blank, nil_append, hrest, append_assoc]
      rfl

theorem semantic_quoteValue {v : String} (h : Reprints v) {rest : List Char}
    (hrest : ∀ c ∈ rest.head?, isPunctuation c) :
    semantic ((quoteValue v).toList ++ rest) = (reprinted v).tokens ++ semantic rest := by
  rw [quoteValue, reprinted, h.1]
  split_ifs with hnum
  · rw [String.ofList_toList, semantic_decimal (h.2 hnum) hrest, String.ofList_toList]
    rfl
  · have hquo : rest.head? ≠ some '\'' := fun hq => absurd (hrest _ hq) (by decide)
    have hstr := semantic_string hquo v.toList
    rw [String.ofList_toList] at hstr
    simpa [Literal.tokens, escapeQuotes] using hstr

theorem not_isWordPart {c : Char} (h : c = ' ' ∨ isPunctuation c) : ¬isWordPart c := by
  rw [isPunctuation_iff] at h
  rcases h with rfl | rfl | rfl | rfl | rfl <;>
    simp [isWordPart, Unicode.isAlphabetic_ascii, Unicode.isNumeric_ascii]

theorem semantic_keyword {word : String} (hne : word ≠ "") (h : word.toList.all Char.isAlpha)
    (hkey : wordToken word = .keyword word) (rest : List Char) :
    semantic (word.toList ++ ' ' :: rest) = .keyword word :: semantic rest := by
  have halp : ∀ c ∈ word.toList, Unicode.isAlphabetic c := by
    intro c hc
    have hlet := all_eq_true.mp h c hc
    have hasc : c.toNat < 128 := by
      have hval := hlet
      simp only [Char.isAlpha, Char.isUpper, Char.isLower, Bool.or_eq_true, Bool.and_eq_true,
        decide_eq_true_eq] at hval
      have hle : c.toNat ≤ 122 := hval.elim (fun hup => hup.2.trans (by decide)) fun hlow => hlow.2
      omega
    rw [Unicode.isAlphabetic_ascii c hasc, hlet]
  have hpl : IsPlainWord word.toList := by
    refine ⟨?_, fun c hc => by simp [isWordPart, halp c hc]⟩
    cases hword : word.toList with
    | nil => exact absurd (String.toList_inj.mp (hword.trans String.toList_empty.symm)) hne
    | cons c cs =>
      have hc := halp c (hword ▸ mem_cons_self)
      exact ⟨c, rfl, by simp [startsWord, hc]⟩
  have hbl : ∀ c ∈ (' ' :: rest).head?, ¬isWordPart c := fun c hc =>
    not_isWordPart (.inl (some.inj hc).symm)
  rw [semantic_word hpl hbl, String.ofList_toList, hkey, semantic_blank]

theorem semantic_columnsText {cols : List String} (h : ∀ c ∈ cols, IsPlainWord c.toList)
    (rest : List Char) : semantic (columnsText cols ++ ' ' :: rest) =
      headerTokens (cols.map Name.ofWord) ++ semantic rest := by
  rw [columnsText, headerTokens]
  by_cases hnil : cols = []
  · rw [if_pos hnil, if_pos (by simp [hnil]), nil_append, semantic_blank, nil_append]
  · have hword : ∀ c ∈ cols, ∀ rest : List Char, (∀ d ∈ rest.head?, isPunctuation d) →
        semantic (c.toList ++ rest) = [(Name.ofWord c).token] ++ semantic rest := by
      intro c hc rest hrest
      rw [semantic_word (h c hc) fun d hd => not_isWordPart (.inr (hrest d hd)),
        String.ofList_toList, token_ofWord]
      rfl
    have hjoi := semantic_joined String.toList _ hword (' ' :: rest)
    rw [if_neg hnil, if_neg (by simpa using hnil), cons_append, semantic_blank,
      cons_append, semantic_punctuation rfl, append_assoc, singleton_append, hjoi,
      semantic_blank, List.map_map]
    simp [comp_def]

theorem semantic_valuesText {vals : List String} (h : ∀ v ∈ vals, Reprints v) :
    semantic (valuesText vals) =
      .keyword "VALUES" :: (rowTokens (vals.map reprinted) ++ [.symbol ";"]) := by
  have hjoi := semantic_joined (fun v => (quoteValue v).toList)
    (fun v => (reprinted v).tokens) (fun v hv _ hrest => semantic_quoteValue (h v hv) hrest) [';']
  have hsemi : semantic [';'] = [.symbol ";"] := semantic_punctuation rfl []
  delta valuesText
  rw [semantic_keyword (by decide) (by decide) (by decide +kernel),
    semantic_punctuation rfl, hjoi, hsemi, rowTokens, List.map_map]
  simp [Function.comp_def]

theorem parseOne_singleRowText {t : Token} {name : String}
    {cols vals : List String} (hname : tokenAsName t = some name)
    (hread : ∀ rest, semantic (table ++ ' ' :: rest) = t :: semantic rest)
    (hcols : ∀ c ∈ cols, IsPlainWord c.toList) (hvals : ∀ v ∈ vals, Reprints v) :
    parseOne (String.ofList (singleRowText table cols vals)) =
      .ok (.insert ⟨name, cols.map fun c => (Name.ofWord c).text, [vals]⟩) := by
  have hhea : semantic (table ++ (columnsText cols ++ ' ' :: valuesText vals)) =
      t :: semantic (columnsText cols ++ ' ' :: valuesText vals) := by
    rw [columnsText]
    split_ifs
    · rw [List.nil_append, hread, semantic_blank]
    · rw [List.cons_append, hread, semantic_blank]
  have htok : semanticTokens (String.ofList (singleRowText table cols vals)) =
      .keyword "INSERT" :: .keyword "INTO" :: t :: (headerTokens (cols.map Name.ofWord) ++
        .keyword "VALUES" :: (rowTokens (vals.map reprinted) ++ [.symbol ";"])) := by
    rw [semanticTokens, tokenize, String.toList_ofList, ← semantic]
    delta singleRowText
    rw [semantic_keyword (by decide) (by decide) (by decide +kernel),
      semantic_keyword (by decide) (by decide) (by decide +kernel), hhea,
      semantic_columnsText hcols, semantic_valuesText hvals]
  have hprs := parseTokens_singleRow hname (cols.map Name.ofWord) (vals.map reprinted)
  rw [filterMap_value_reprinted, List.map_map] at hprs
  rw [parseOne, htok]
  exact hprs

structure TableText (table : List Char) : Prop where
  noEnd : ∀ c ∈ table, ¬endsTableName c
  noBlank : ∀ c ∈ table.head?, ¬isWhitespace c
  name : ∃ t name, tokenAsName t = some name ∧
    ∀ rest, semantic (unqualified table ++ ' ' :: rest) = t :: semantic rest

theorem TableText.ne_nil (ht : TableText table) : table ≠ [] := by
  rintro rfl
  obtain ⟨t, name, -, hread⟩ := ht.name
  have hbl : semantic [' '] = t :: semantic [] := hread []
  rw [semantic_blank] at hbl
  simpa using congrArg length hbl

theorem splitAtTable_singleRowText (ht : TableText table) (cols vals : List String) :
    splitAtTable (singleRowText table cols vals) = some ("INSERT INTO".toList, [' '], table,
      columnsText cols ++ ' ' :: valuesText vals) := by
  obtain ⟨rest, hrest⟩ : ∃ rest, columnsText cols ++ ' ' :: valuesText vals = ' ' :: rest := by
    rw [columnsText]
    split_ifs
    · exact ⟨_, rfl⟩
    · exact ⟨_, rfl⟩
  obtain ⟨c, cs, rfl⟩ := exists_cons_of_ne_nil ht.ne_nil
  have hc := ht.noBlank c rfl
  have hspl : splitAtText "INTO".toList ("INSERT ".toList ++ ("INTO".toList ++
      (' ' :: c :: (cs ++ ' ' :: rest)).map Char.toUpper)) =
      some ("INSERT ".toList, (' ' :: c :: (cs ++ ' ' :: rest)).map Char.toUpper) :=
    splitAtText_append (by decide) (by decide) _
  have hupp : (singleRowText (c :: cs) cols vals).map Char.toUpper = "INSERT ".toList ++
      ("INTO".toList ++ (' ' :: c :: (cs ++ ' ' :: rest)).map Char.toUpper) := by
    delta singleRowText
    rw [hrest]
    rfl
  have hname : ∀ d ∈ c :: cs, (!endsTableName d) := fun d hd => by simpa using ht.noEnd d hd
  have hdrop : (singleRowText (c :: cs) cols vals).drop 11 =
      ' ' :: (c :: cs ++ ' ' :: rest) := by
    delta singleRowText
    rw [hrest]
    rfl
  have htrim : trimStart (' ' :: (c :: cs ++ ' ' :: rest)) = c :: cs ++ ' ' :: rest := by
    rw [trimStart, dropWhile_cons_of_pos (by decide), cons_append,
      dropWhile_cons_of_neg hc]
  have hbla : (' ' :: (c :: cs ++ ' ' :: rest)).takeWhile isWhitespace = [' '] := by
    rw [takeWhile_cons_of_pos (by decide), cons_append, takeWhile_cons_of_neg hc]
  rw [splitAtTable, hupp, hspl, map_some]
  have hlen : "INSERT ".toList.length + 4 = 11 := by decide
  dsimp only
  rw [hlen, hdrop, htrim, hbla, takeWhile_append_of_pos hname, dropWhile_append_of_pos hname, hrest]
  delta singleRowText
  simp [endsTableName]

theorem stripSchemaQualifierFromInsert_singleRowText (ht : TableText table)
    (cols vals : List String) :
    stripSchemaQualifierFromInsert (String.ofList (singleRowText table cols vals)) =
      String.ofList (singleRowText (unqualified table) cols vals) := by
  rw [stripSchemaQualifierFromInsert, String.toList_ofList, splitAtTable_singleRowText ht,
    unqualified]
  dsimp only
  split_ifs with hdot
  · delta singleRowText
    simp
  · rfl

structure Reprintable (sql : String) (ins : InsertStatement) : Prop where
  table : TableText (printedTable sql ins).toList
  columns : ∀ c ∈ ins.columns, IsPlainWord c.toList
  values : ∀ row ∈ ins.values, ∀ v ∈ row, Reprints v

theorem extractAllInsertRows_of_parseOne {sql : String} {ins : InsertStatement}
    (h : parseOne (stripSchemaQualifierFromInsert sql) = .ok (.insert ins)) :
    extractAllInsertRows sql = insertRows (printedTable sql ins) ins := by
  rw [extractAllInsertRows, h]
  rfl

theorem reread_of_reprintable (sql : String)
    (h : ∀ ins, parseOne (stripSchemaQualifierFromInsert sql) = .ok (.insert ins) →
      Reprintable sql ins) :
    ∀ row ∈ extractAllInsertRows sql, ∃ row', extractAllInsertRows row.singleSql = [row'] ∧
      row'.rowKey = row.rowKey ∧ row'.data = row.data := by
  intro row hrow
  cases hprs : parseOne (stripSchemaQualifierFromInsert sql) with
  | error e => simp [extractAllInsertRows, hprs] at hrow
  | ok stmt =>
    cases stmt with
    | insert ins =>
      obtain ⟨htab, hcols, hvalu⟩ := h ins hprs
      rw [extractAllInsertRows_of_parseOne hprs] at hrow
      generalize printedTable sql ins = table at htab hrow
      obtain ⟨vals, hvals, hval⟩ := mem_filterMap.mp hrow
      cases vals with
      | nil => cases hval
      | cons v vs =>
        obtain rfl := some.inj hval
        obtain ⟨t, name, hname, hread⟩ := htab.name
        have haga := parseOne_singleRowText hname hread hcols (hvalu _ hvals)
        rw [← stripSchemaQualifierFromInsert_singleRowText htab] at haga
        dsimp only
        rw [singleSql_eq, extractAllInsertRows_of_parseOne haga, printedTable,
          String.toList_ofList, splitAtTable_singleRowText htab]
        dsimp only
        rw [String.ofList_toList]
        refine ⟨_, rfl, rfl, ?_⟩
        simp only [insertColumn_ofWord]
    | update upd => simp [extractAllInsertRows, hprs] at hrow
    | delete del => simp [extractAllInsertRows, hprs] at hrow
    | other => simp [extractAllInsertRows, hprs] at hrow

end

theorem text_row_reread : letI := Unicode.ascii
    (extractAllInsertRows "INSERT INTO t (id) VALUES ('a', 5)").length = 1 ∧
      ∀ row ∈ extractAllInsertRows "INSERT INTO t (id) VALUES ('a', 5)",
        ∃ row', extractAllInsertRows row.singleSql = [row'] ∧ row'.rowKey = row.rowKey ∧
          row'.data = row.data := by
  let _ := Unicode.ascii
  refine ⟨by decide +kernel, reread_of_reprintable _ fun ins hins => ?_⟩
  have hprs : parseOne (stripSchemaQualifierFromInsert "INSERT INTO t (id) VALUES ('a', 5)") =
      .ok (.insert ⟨"t", ["id"], [["a", "5"]]⟩) := by decide +kernel
  obtain rfl : ⟨"t", ["id"], [["a", "5"]]⟩ = ins := by
    rw [hprs] at hins
    exact Statement.insert.inj (Except.ok.inj hins)
  have hword : IsPlainWord ['t'] := ⟨⟨'t', rfl, rfl⟩, fun c hc => mem_singleton.mp hc ▸ rfl⟩
  have hpri : (printedTable "INSERT INTO t (id) VALUES ('a', 5)"
      ⟨"t", ["id"], [["a", "5"]]⟩).toList = ['t'] := by decide +kernel
  refine ⟨?_, by simp [IsPlainWord]; decide, by simp [Reprints]; decide +kernel⟩
  rw [hpri]
  refine ⟨by simp [endsTableName], by simp [isWhitespace], .identifier "t", "t", rfl,
    fun rest => ?_⟩
  have hstop : ∀ c ∈ (' ' :: rest).head?, ¬isWordPart c := fun c hc =>
    not_isWordPart (.inl (some.inj hc).symm)
  have hread := semantic_word hword hstop
  rw [semantic_blank] at hread
  exact hread

/-- The sign is lost, and with it the row's key. -/
theorem sign_lost_on_rereading : letI := Unicode.ascii
    (extractAllInsertRows "INSERT INTO t (id) VALUES ('-5')").map InsertRow.rowKey = ["t:-5"] ∧
      (extractAllInsertRows "INSERT INTO t (id) VALUES ('-5')").map InsertRow.singleSql =
        ["INSERT INTO t (id) VALUES (-5);"] ∧
      (extractAllInsertRows "INSERT INTO t (id) VALUES (-5);").map InsertRow.rowKey = ["t:5"] := by
  decide +kernel

end VngDatabase.Sql
