import VngDatabase.Sql.Spelling

/-!
# Literals and comments

A quoted text is read as the literal it stands for, and what stands in a comment leaves no token,
except for the last character of a block comment that is never closed.
-/

namespace VngDatabase.Sql

open Text List

variable [Unicode] {cs rest body : List Char} {toks : List Token} {c : Char}

/-- The tokenizer **reads** a text up to `rest`. -/
inductive ReadsTo (rest : List Char) : List Char → List Token → Prop
  | done : ReadsTo rest rest []
  | next (c : Char) {cs : List Char} {toks : List Token} : ReadsTo rest (nextToken c cs).2 toks →
    ReadsTo rest (c :: cs) ((nextToken c cs).1 :: toks)

theorem ReadsTo.semantic_eq (h : ReadsTo rest cs toks) :
    semantic cs = toks.filter Token.isSemantic ++ semantic rest := by
  induction h with
  | done => rfl
  | @next c cs _ _ ih =>
    rw [semantic_cons (Prod.mk.eta (p := nextToken c cs)).symm, ih, filter_cons]
    split_ifs <;> rfl

/-- **A comment**, and what may stand after it. -/
inductive IsComment : (comment rest : List Char) → Prop
  | line {body rest : List Char} : '\n' ∉ body → rest = [] ∨ rest.head? = some '\n' →
    IsComment ('-' :: '-' :: body) rest
  | block {body rest : List Char} : ¬['*', '/'] <:+: body →
    IsComment ('/' :: '*' :: (body ++ ['*', '/'])) rest
  | unclosed {body : List Char} : ¬['*', '/'] <:+: body → IsComment ('/' :: '*' :: body) []

/-- A block comment that is **not closed** and does not end in a blank. -/
def LeavesLast (comment : List Char) : Prop :=
  ∃ body c, comment = '/' :: '*' :: (body ++ [c]) ∧ ¬['*', '/'] <:+: body ++ [c] ∧
    ¬isAsciiWhitespace c

omit [Unicode] in
theorem blockComment_closed (h : ¬['*', '/'] <:+: body) (rest : List Char) :
    blockComment (body ++ '*' :: '/' :: rest) = (body, rest) := by
  induction body with
  | nil => simp [blockComment]
  | cons c body ih =>
    have ih := ih fun hi => h (hi.trans (suffix_cons c body).isInfix)
    cases body with
    | nil => simp [blockComment]
    | cons d body =>
      have hcd : ¬(c = '*' ∧ d = '/') := by
        rintro ⟨rfl, rfl⟩
        exact h ⟨[], body, rfl⟩
      rw [cons_append, cons_append, blockComment, if_neg hcd, ← cons_append, ih]

omit [Unicode] in
theorem blockComment_unclosed (h : ¬['*', '/'] <:+: body ++ [c]) :
    (blockComment (body ++ [c])).2 = [c] := by
  induction body with
  | nil => rfl
  | cons d body ih =>
    have ih := ih fun hi => h (hi.trans (suffix_cons d _).isInfix)
    cases body with
    | nil =>
      have hdc : ¬(d = '*' ∧ c = '/') := by
        rintro ⟨rfl, rfl⟩
        exact h (infix_refl _)
      simp [blockComment, hdc]
    | cons e body =>
      have hde : ¬(d = '*' ∧ e = '/') := by
        rintro ⟨rfl, rfl⟩
        exact h ⟨[], body ++ [c], rfl⟩
      rw [cons_append, cons_append, blockComment, if_neg hde]
      exact ih

theorem semantic_singleton (c : Char) : semantic [c] = [] ↔ isAsciiWhitespace c := by
  have hnext : (nextToken c []).1.isSemantic = !isAsciiWhitespace c := by
    rw [nextToken]
    split_ifs with hw <;> simp_all [Token.isSemantic, wordToken]
    split_ifs <;> rfl
  have hnil : (nextToken c []).2 = [] :=
    length_eq_zero_iff.mp (Nat.lt_one_iff.mp (length_nextToken_lt c []))
  rw [semantic_cons Prod.mk.eta.symm, hnil, hnext]
  cases isAsciiWhitespace c
  · simp
  · exact iff_of_true rfl rfl

theorem semantic_line (hb : '\n' ∉ body) (hr : rest = [] ∨ rest.head? = some '\n') :
    semantic ('-' :: '-' :: (body ++ rest)) = semantic rest := by
  have hspan := @span_append rest (· ≠ '\n') body
    (fun c hc => by simpa using ne_of_mem_of_not_mem hc hb)
    (fun c hc => by
      rcases hr with rfl | hr
      · cases hc
      · simp [Option.some.inj (hc.symm.trans hr)])
  have hnext : nextToken '-' ('-' :: (body ++ rest)) =
      (.lineComment (String.ofList body), rest) := by
    rw [nextToken, if_neg (by decide), if_pos ⟨rfl, rfl⟩, tail_cons, hspan.1, hspan.2]
  rw [semantic_cons hnext, if_neg (by simp [Token.isSemantic])]

theorem semantic_block (cs : List Char) :
    semantic ('/' :: '*' :: cs) = semantic (blockComment cs).2 := by
  rw [semantic_cons (t := .blockComment (String.ofList (blockComment cs).1)) rfl, if_neg nofun]
  rfl

/-- **Literals and comments are opaque** but for the end of a comment that is not closed. -/
theorem literals_and_comments_iff :
    (∀ (s : String) (rest : List Char), rest.head?.any isAsciiWhitespace →
      (tokenizeChars ('\'' :: (escapeQuotes s.toList ++ '\'' :: rest))).head? =
        some (.stringLiteral s)) ∧
    ∀ text toks comment rest, ReadsTo (comment ++ rest) text toks → IsComment comment rest →
      (semantic text = toks.filter Token.isSemantic ++ semantic rest ↔ ¬LeavesLast comment) := by
  refine ⟨fun s rest hrest => ?_, fun text toks comment rest hread hc => ?_⟩
  · have hq : rest.head? ≠ some '\'' := fun h => by simp [h, isAsciiWhitespace] at hrest
    rw [tokenizeChars_cons, nextToken, if_neg (by decide), if_neg fun h => absurd h.1 (by decide),
      if_neg fun h => absurd h.1 (by decide), if_pos rfl, stringBody_escapeQuotes hq, head?_cons,
      String.ofList_toList]
  · rw [hread.semantic_eq, append_cancel_left_eq]
    cases hc with
    | line hb hr =>
      refine iff_of_true (semantic_line hb hr) ?_
      rintro ⟨body, c, h, -⟩
      simp at h
    | block hb =>
      refine iff_of_true ?_ ?_
      · rw [cons_append, cons_append, append_assoc, semantic_block]
        exact congrArg (fun p => semantic p.2) (blockComment_closed hb rest)
      · rintro ⟨body, c, h, hn, -⟩
        simp only [cons.injEq, true_and] at h
        exact hn (h ▸ (suffix_append _ _).isInfix)
    | unclosed hb =>
      rw [append_nil, semantic_block]
      rename_i body
      rcases eq_nil_or_concat' body with rfl | ⟨body, c, rfl⟩
      · refine iff_of_true rfl ?_
        rintro ⟨body, c, h, -⟩
        simp at h
      · rw [blockComment_unclosed hb]
        refine (semantic_singleton c).trans ⟨fun hw => ?_, fun h => ?_⟩
        · rintro ⟨body', c', h, -, hw'⟩
          obtain ⟨-, rfl⟩ : body = body' ∧ c = c' := by simpa using h
          exact hw' hw
        · by_contra hw
          exact h ⟨body, c, rfl, hb, hw⟩

omit [Unicode] in
theorem unclosed_comment_leaves_name : letI := Unicode.ascii
    semantic "/* x".toList = [.identifier "x"] := by
  decide +kernel

end VngDatabase.Sql
