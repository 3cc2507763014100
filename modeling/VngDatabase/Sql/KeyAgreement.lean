import VngDatabase.Sql.Extract

/-!
# The key of a row in three statements

`INSERT`, `UPDATE` and `DELETE` each find the key of a row on their own
(`services/voltnuerongridd/src/helpers/sql_parse.rs`): by the text of the table's name after the
last dot, by the first token of the name, and by the first token in lower case.
-/

namespace VngDatabase.Sql

open Text List

section

variable {ts more : List Token} {first lit : Token} {v : String}

def whereIdTokens (lit : Token) (more : List Token) : List Token :=
  .keyword "WHERE" :: .identifier "id" :: .symbol "=" :: lit :: more

theorem whereLiteral_whereIdTokens (ts : List Token)
    (hlit : lit = .stringLiteral v ∨ lit = .number v)
    (hts : ∀ t ∈ ts, ¬isKeywordToken "WHERE" t) (more : List Token) :
    whereLiteral false false (ts ++ whereIdTokens lit more) = some v := by
  induction ts with
  | nil =>
    have hwhr : eqIgnoreAsciiCase "WHERE" "WHERE" := by decide
    rcases hlit with rfl | rfl <;> simp [whereIdTokens, whereLiteral, hwhr]
  | cons t ts ih =>
    rw [forall_mem_cons] at hts
    have hrest := ih hts.2
    cases t with
    | keyword k =>
      have hk : eqIgnoreAsciiCase k "WHERE" = false := Bool.eq_false_iff.mpr hts.1
      simpa [whereLiteral, hk] using hrest
    | _ => simpa [whereLiteral] using hrest

variable [Unicode] {ins upd del table name : String}

theorem key_of_update (hname : tokenAsName first = some name)
    (hlit : lit = .stringLiteral v ∨ lit = .number v)
    (hpl : ∀ t ∈ first :: ts, ¬isKeywordToken "WHERE" t)
    (hupd : semanticTokens upd = .keyword "UPDATE" :: first :: (ts ++ whereIdTokens lit more)) :
    (extractUpdateRowFromSql upd).map Prod.fst = some (name ++ ":" ++ v) := by
  have hlite : whereLiteral false false (semanticTokens upd) = some v := by
    rw [hupd]
    exact whereLiteral_whereIdTokens (.keyword "UPDATE" :: first :: ts) hlit
      (forall_mem_cons.mpr ⟨by decide, hpl⟩) more
  have hverb : toAsciiUppercase "UPDATE" = "UPDATE" := by decide
  have hprs : (parseOneUpdate upd).map UpdateStatement.table = some name := by
    simp [parseOneUpdate, parseOne, hupd, parseTokens, hverb, parseUpdate, tableName, hname]
  obtain ⟨u, hu, rfl⟩ := Option.map_eq_some_iff.mp hprs
  simp [extractUpdateRowFromSql, hu, hlite]

theorem key_of_delete (hname : tokenAsName first = some name)
    (hlit : lit = .stringLiteral v ∨ lit = .number v)
    (hpl : ∀ t ∈ first :: ts, ¬isKeywordToken "WHERE" t) (hfrom : ¬isKeywordToken "FROM" first)
    (hst0 : startsWith (toAsciiUppercase (String.ofList (trimStart del.toList))) "DELETE")
    (hdel : semanticTokens del =
      .keyword "DELETE" :: .keyword "FROM" :: first :: (ts ++ whereIdTokens lit more)) :
    extractDeleteKeyFromSql del = some (toAsciiLowercase (afterLast '.' name) ++ ":" ++ v) := by
  have hlite : whereLiteral false false (semanticTokens del) = some v := by
    rw [hdel]
    exact whereLiteral_whereIdTokens (.keyword "DELETE" :: .keyword "FROM" :: first :: ts) hlit
      (forall_mem_cons.mpr ⟨by decide, forall_mem_cons.mpr ⟨by decide, hpl⟩⟩) more
  have htab : tableAfterFrom false (semanticTokens del) =
      some (toAsciiLowercase (afterLast '.' name)) := by
    have hverb : isKeywordToken "FROM" (.keyword "DELETE") = false := by decide
    have hverb' : tokenAsName (.keyword "DELETE") = some "DELETE" := rfl
    have hkey : isKeywordToken "FROM" (.keyword "FROM") := by decide
    simp [hdel, tableAfterFrom, hverb, hverb', hkey, hfrom, hname]
  rw [extractDeleteKeyFromSql, if_pos hst0]
  simp [hlite, htab]

/-- **The three statements agree on the key** iff the table has no schema, and is in lower case. -/
theorem keys_agree_iff {st : InsertStatement} {vals : List String} {rows : List (List String)}
    {intro blanks rest : List Char} {ts' more' : List Token} (db : String)
    (htable : splitAtTable ins.toList = some (intro, blanks, table.toList, rest))
    (hparse : parseOne (stripSchemaQualifierFromInsert ins) = .ok (.insert st))
    (hvalues : st.values = (v :: vals) :: rows)
    (hname : tokenAsName first = some name) (hfrom : ¬isKeywordToken "FROM" first)
    (hlit : lit = .stringLiteral v ∨ lit = .number v)
    (hplain : ∀ t ∈ first :: ts, ¬isKeywordToken "WHERE" t)
    (hplain' : ∀ t ∈ first :: ts', ¬isKeywordToken "WHERE" t)
    (hupd : semanticTokens upd = .keyword "UPDATE" :: first :: (ts ++ whereIdTokens lit more))
    (hstart : startsWith (toAsciiUppercase (String.ofList (trimStart del.toList))) "DELETE")
    (hdel : semanticTokens del =
      .keyword "DELETE" :: .keyword "FROM" :: first :: (ts' ++ whereIdTokens lit more')) :
    (∃ k, (extractAllInsertRows ins).head?.map (dbPrefixKey db ·.rowKey) = some k ∧
      (extractUpdateRowFromSql upd).map (dbPrefixKey db ·.1) = some k ∧
      (extractDeleteKeyFromSql del).map (dbPrefixKey db) = some k) ↔
    afterLast '.' table = name ∧ toAsciiLowercase (afterLast '.' name) = name := by
  have hins : (extractAllInsertRows ins).head?.map InsertRow.rowKey =
      some (afterLast '.' table ++ ":" ++ v) := by
    simp [extractAllInsertRows, hparse, htable, insertRows, hvalues]
  obtain ⟨row, hrow, hrowK⟩ := Option.map_eq_some_iff.mp hins
  obtain ⟨u, hu, hkey⟩ := Option.map_eq_some_iff.mp (key_of_update hname hlit hplain hupd)
  have hcan (a b : String) :
      dbPrefixKey db (a ++ ":" ++ v) = dbPrefixKey db (b ++ ":" ++ v) ↔ a = b := by
    rw [(dbPrefixKey_injective db).eq_iff, ← String.toList_inj, ← String.toList_inj]
    simp
  rw [hrow, hu, key_of_delete hname hlit hplain' hfrom hstart hdel]
  simp only [Option.map_some, Option.some.injEq, hrowK, hkey, exists_eq_left', hcan]
  constructor
  · rintro ⟨rfl, h⟩
    exact ⟨rfl, h⟩
  · rintro ⟨rfl, h⟩
    exact ⟨rfl, h⟩

end

theorem keys_differ : letI := Unicode.ascii
    (extractAllInsertRows "INSERT INTO T (id) VALUES (1)").map InsertRow.rowKey = ["T:1"] ∧
      (extractUpdateRowFromSql "UPDATE T SET c = 2 WHERE id = 1").map Prod.fst = some "T:1" ∧
      extractDeleteKeyFromSql "DELETE FROM T WHERE id = 1" = some "t:1" := by
  decide +kernel

theorem keys_agree : letI := Unicode.ascii
    ∃ k, (extractAllInsertRows "INSERT INTO t (id) VALUES (1)").head?.map
        (dbPrefixKey "db" ·.rowKey) = some k ∧
      (extractUpdateRowFromSql "UPDATE t SET c = 2 WHERE id = 1").map
        (dbPrefixKey "db" ·.1) = some k ∧
      (extractDeleteKeyFromSql "DELETE FROM t WHERE id = 1").map (dbPrefixKey "db") = some k := by
  let _ := Unicode.ascii
  have htab : splitAtTable "INSERT INTO t (id) VALUES (1)".toList =
      some ("INSERT INTO".toList, [' '], "t".toList, " (id) VALUES (1)".toList) := by
    decide +kernel
  have hprs : parseOne (stripSchemaQualifierFromInsert "INSERT INTO t (id) VALUES (1)") =
      .ok (.insert ⟨"t", ["id"], [["1"]]⟩) := by decide +kernel
  have hupd : semanticTokens "UPDATE t SET c = 2 WHERE id = 1" =
      .keyword "UPDATE" :: .identifier "t" :: ([.keyword "SET", .identifier "c", .symbol "=",
        .number "2"] ++ whereIdTokens (.number "1") []) := by decide +kernel
  have hdel : semanticTokens "DELETE FROM t WHERE id = 1" = .keyword "DELETE" :: .keyword "FROM" ::
      .identifier "t" :: ([] ++ whereIdTokens (.number "1") []) := by decide +kernel
  exact (keys_agree_iff "db" htab hprs rfl rfl (by decide) (.inr rfl) (by decide) (by decide)
    hupd (by decide +kernel) hdel).mpr (by decide)

end VngDatabase.Sql
