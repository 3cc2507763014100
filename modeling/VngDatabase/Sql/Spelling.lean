import VngDatabase.Sql.Extract

/-!
# Text that is read back token by token

What the tokenizer makes of text that was printed: blanks leave no token (`semantic_blank`), a sign
is a token whatever follows it (`semantic_punctuation`), and a word, a number and a quoted string
are one token each if what follows does not go on with them.
-/

namespace VngDatabase.Sql

open Text List

/-! ### Where a token ends -/

variable {rest : List Char} {c : Char}

def isPunctuation (c : Char) : Bool := c ∈ ['(', ')', ',', ';']

theorem isPunctuation_iff : isPunctuation c ↔ c = '(' ∨ c = ')' ∨ c = ',' ∨ c = ';' := by
  simp [isPunctuation]

theorem span_append {p : Char → Bool} {word : List Char} (hword : ∀ c ∈ word, p c)
    (hrest : ∀ c ∈ rest.head?, ¬p c) :
    (word ++ rest).takeWhile p = word ∧ (word ++ rest).dropWhile p = rest := by
  rw [takeWhile_append_of_pos hword, dropWhile_append_of_pos hword]
  cases rest with
  | nil => simp
  | cons c rest =>
    have hc := hrest c rfl
    rw [takeWhile_cons_of_neg hc, dropWhile_cons_of_neg hc]
    simp

def IsExponent (x : List Char) : Prop :=
  x = [] ∨ ∃ e sign digits, x = e :: (sign ++ digits) ∧ (e = 'e' ∨ e = 'E') ∧
    (sign = [] ∨ sign = ['+'] ∨ sign = ['-']) ∧ digits ≠ [] ∧ ∀ d ∈ digits, d.isDigit

theorem isExponent_of_digits {x : List Char}
    (h : (match x with
      | [] => true
      | e :: r =>
        let digits := match r with
          | s :: ds => if s = '+' ∨ s = '-' then ds else s :: ds
          | [] => []
        (e = 'e' || e = 'E') && digits ≠ [] && digits.all Char.isDigit) = true) : IsExponent x := by
  rcases x with _ | ⟨e, _ | ⟨s, ds⟩⟩
  · exact .inl rfl
  · simp at h
  · simp only [Bool.and_eq_true, Bool.or_eq_true, decide_eq_true_eq, all_eq_true] at h
    obtain ⟨⟨he, hne⟩, hall⟩ := h
    split_ifs at hne hall with hs
    · refine .inr ⟨e, [s], ds, rfl, he, ?_, hne, hall⟩
      rcases hs with rfl | rfl <;> simp
    · exact .inr ⟨e, [], s :: ds, rfl, he, .inl rfl, hne, hall⟩

theorem exists_of_isDecimal {v : List Char} (h : isDecimal v) :
    ∃ c cs x, v = c :: (cs ++ x) ∧ startsNumber c cs ∧ (∀ d ∈ cs, isNumberPart d) ∧
      IsExponent x := by
  have htake (l : List Char) : ∀ d ∈ l.takeWhile Char.isDigit, d.isDigit :=
    all_eq_true.mp all_takeWhile
  have hv := takeWhile_append_dropWhile (p := Char.isDigit) (l := v)
  have hint := htake v
  rw [isDecimal, Bool.and_eq_true, decide_eq_true_eq] at h
  generalize v.takeWhile Char.isDigit = int at h hint hv
  -- what follows the first digits: a point and more digits, or neither
  have hrest : ∃ dot frac x, v.dropWhile Char.isDigit = dot ++ (frac ++ x) ∧
      (dot = ['.'] ∨ dot = [] ∧ frac = []) ∧ (∀ d ∈ frac, d.isDigit) ∧ int ++ frac ≠ [] ∧
      IsExponent x := by
    split at h
    · rename_i r hr
      refine ⟨['.'], r.takeWhile Char.isDigit, r.dropWhile Char.isDigit, ?_, .inl rfl, htake r, h.1,
        isExponent_of_digits h.2⟩
      rw [hr, takeWhile_append_dropWhile]
      rfl
    · exact ⟨[], [], _, rfl, .inr ⟨rfl, rfl⟩, by simp, h.1, isExponent_of_digits h.2⟩
  obtain ⟨dot, frac, x, hr, hdot, hfrac, hne, hx⟩ := hrest
  rw [hr] at hv
  cases int with
  | nil =>
    obtain ⟨d, ds, rfl⟩ := exists_cons_of_ne_nil hne
    obtain rfl : dot = ['.'] := hdot.resolve_right fun h => by simp at h
    refine ⟨'.', d :: ds, x, hv.symm, ?_, fun e he => ?_, hx⟩
    · simp [startsNumber, hfrac d]
    · simp [isNumberPart, hfrac e he]
  | cons c int =>
    refine ⟨c, int ++ dot ++ frac, x, by simp [← hv], by simp [startsNumber, hint c], ?_, hx⟩
    intro e he
    rw [isNumberPart, Bool.or_eq_true, decide_eq_true_eq]
    rw [mem_append, mem_append] at he
    rcases he with (he | he) | he
    · exact .inl (hint e (mem_cons_of_mem c he))
    · rcases hdot with rfl | ⟨rfl, -⟩
      · exact .inr (mem_singleton.mp he)
      · cases he
    · exact .inl (hfrac e he)

theorem exponent_append {x : List Char} (hx : IsExponent x)
    (hrest : ∀ c ∈ rest.head?, isPunctuation c) : exponent (x ++ rest) = (x, rest) := by
  rcases hx with rfl | ⟨e, sign, digits, rfl, he, hsign, hne, hdig⟩
  · cases rest with
    | nil => rfl
    | cons c rest =>
      have hc : ¬(c = 'e' ∨ c = 'E') := by
        rintro (rfl | rfl) <;> exact absurd (hrest _ rfl) (by decide)
      rw [nil_append, exponent.eq_def]
      exact if_neg hc
  · obtain ⟨d, ds, rfl⟩ := exists_cons_of_ne_nil hne
    have hd : ¬(d = '+' ∨ d = '-') := by
      rintro (rfl | rfl) <;> exact absurd (hdig _ mem_cons_self) (by decide)
    have hstop : ∀ c ∈ rest.head?, ¬c.isDigit := by
      intro c hc
      rcases isPunctuation_iff.mp (hrest c hc) with rfl | rfl | rfl | rfl <;> decide
    have hspan := span_append hdig hstop
    rw [cons_append, append_assoc, exponent.eq_def]
    dsimp only
    rw [if_pos he]
    rcases hsign with rfl | rfl | rfl
    · rw [nil_append, cons_append]
      dsimp only
      rw [if_neg hd, ← cons_append, hspan.1, hspan.2]
      rfl
    · simpa using hspan
    · simpa using hspan

def escapeQuotes (s : List Char) : List Char :=
  s.flatMap fun c => if c = '\'' then ['\'', '\''] else [c]

theorem stringBody_escapeQuotes (hrest : rest.head? ≠ some '\'')
    (s : List Char) : stringBody (escapeQuotes s ++ '\'' :: rest) = (s, rest) := by
  induction s with
  | nil =>
    cases rest with
    | nil => rfl
    | cons c rest =>
      have hc : c ≠ '\'' := fun h => hrest (congrArg some h)
      simp [escapeQuotes, stringBody, hc]
  | cons c s ih =>
    rw [escapeQuotes, flatMap_cons, ← escapeQuotes]
    by_cases hc : c = '\''
    · simp [hc, stringBody, ih]
    · simp [hc, stringBody, ih]

variable [Unicode]

def semantic (cs : List Char) : List Token := (tokenizeChars cs).filter Token.isSemantic

theorem semantic_cons {cs : List Char} {t : Token} (h : nextToken c cs = (t, rest)) :
    semantic (c :: cs) = if t.isSemantic then t :: semantic rest else semantic rest := by
  rw [semantic, tokenizeChars_cons, h, filter_cons]
  rfl

theorem semantic_blank (cs : List Char) : semantic (' ' :: cs) = semantic cs := by
  have hdrop : semantic (cs.dropWhile isAsciiWhitespace) = semantic cs := by
    cases cs with
    | nil => rfl
    | cons c cs =>
      rw [dropWhile_cons]
      split_ifs with hc
      · rw [semantic_cons (c := c) (if_pos hc), if_neg (by decide)]
      · rfl
  rw [semantic_cons (c := ' ') (if_pos rfl), if_neg (by decide), hdrop]

def opensOther (c : Char) : Bool := isAsciiWhitespace c || c ∈ ['-', '/', '\'', '"', '\x60']

theorem nextToken_of_not_opensOther (h : ¬opensOther c) (cs : List Char) :
    nextToken c cs =
      if startsNumber c cs then
        let rest := cs.dropWhile isNumberPart
        (.number (String.ofList (c :: cs.takeWhile isNumberPart ++ (exponent rest).1)),
          (exponent rest).2)
      else if startsWord c then
        (wordToken (String.ofList (c :: cs.takeWhile isWordPart)), cs.dropWhile isWordPart)
      else if String.ofList (c :: cs.take 1) ∈ twoCharSymbols then
        (.symbol (String.ofList (c :: cs.take 1)), cs.tail)
      else if c ∈ oneCharSymbols then (.symbol (String.ofList [c]), cs)
      else (.unknown (String.ofList [c]), cs) := by
  simp only [opensOther, Bool.or_eq_true, decide_eq_true_eq, mem_cons, not_mem_nil,
    or_false, not_or] at h
  obtain ⟨hbl, hline, hblo, hquo, hdou, hback⟩ := h
  rw [nextToken, if_neg hbl, if_neg fun h => hline h.1, if_neg fun h => hblo h.1,
    if_neg hquo, if_neg (not_or.mpr ⟨hdou, hback⟩)]

theorem semantic_punctuation (hc : isPunctuation c) (cs : List Char) :
    semantic (c :: cs) = .symbol (String.ofList [c]) :: semantic cs := by
  have hfac : ¬opensOther c ∧ c.isDigit = false ∧ c ≠ '.' ∧ c.toNat < 128 ∧ c.isAlpha = false ∧
      c ≠ '_' ∧ c ∈ oneCharSymbols ∧ ∀ s ∈ twoCharSymbols, s.toList.head? ≠ some c := by
    rcases isPunctuation_iff.mp hc with rfl | rfl | rfl | rfl <;> decide
  obtain ⟨hoth, hdig, hdot, hasc, halp, hund, hone, htwo⟩ := hfac
  have hnr : ¬startsNumber c cs := by simp [startsNumber, hdig, hdot]
  have hword : ¬startsWord c := by
    simp [startsWord, Unicode.isAlphabetic_ascii c hasc, halp, hund]
  have hpair : String.ofList (c :: cs.take 1) ∉ twoCharSymbols := fun h => htwo _ h (by simp)
  have hnext : nextToken c cs = (.symbol (String.ofList [c]), cs) := by
    rw [nextToken_of_not_opensOther hoth, if_neg hnr, if_neg hword, if_neg hpair, if_pos hone]
  rw [semantic_cons hnext]
  rfl

def IsPlainWord (word : List Char) : Prop :=
  (∃ c ∈ word.head?, startsWord c) ∧ ∀ c ∈ word, isWordPart c

theorem not_opensOther_of_startsWord (h : startsWord c) :
    ¬opensOther c ∧ c.isDigit = false ∧ c ≠ '.' := by
  have hlet : ∀ n : Fin 128, (Char.ofNat n).isAlpha ∨ Char.ofNat n = '_' →
      ¬opensOther (Char.ofNat n) ∧ (Char.ofNat n).isDigit = false ∧ Char.ofNat n ≠ '.' := by
    decide +kernel
  by_cases hasc : c.toNat < 128
  · have hc := hlet ⟨c.toNat, hasc⟩
    rw [Char.ofNat_toNat] at hc
    rw [startsWord, Unicode.isAlphabetic_ascii c hasc, Bool.or_eq_true, decide_eq_true_eq] at h
    exact hc h
  · refine ⟨fun hoth => hasc ?_, ?_, fun hdot => hasc (hdot ▸ by decide)⟩
    · simp only [opensOther, isAsciiWhitespace, Bool.or_eq_true, decide_eq_true_eq, mem_cons,
        not_mem_nil, or_false] at hoth
      rcases hoth with hbl | rfl | rfl | rfl | rfl | rfl
      · omega
      all_goals decide
    · rw [← Bool.not_eq_true]
      intro hdig
      have hle : c.toNat ≤ 57 := (Char.isDigit_iff_toNat.mp hdig).2
      omega

theorem semantic_word {word : List Char} (h : IsPlainWord word)
    (hrest : ∀ c ∈ rest.head?, ¬isWordPart c) :
    semantic (word ++ rest) = wordToken (String.ofList word) :: semantic rest := by
  obtain ⟨⟨c, hc, hst0⟩, hpar⟩ := h
  obtain ⟨cs, rfl⟩ := head?_eq_some_iff.mp hc
  obtain ⟨hoth, hdig, hdot⟩ := not_opensOther_of_startsWord hst0
  have hnr : ¬startsNumber c (cs ++ rest) := by simp [startsNumber, hdig, hdot]
  have hspan := span_append (fun d hd => hpar d (mem_cons_of_mem c hd)) hrest
  have hnext : nextToken c (cs ++ rest) = (wordToken (String.ofList (c :: cs)), rest) := by
    rw [nextToken_of_not_opensOther hoth, if_neg hnr, if_pos hst0, hspan.1, hspan.2]
  have hsem : (wordToken (String.ofList (c :: cs))).isSemantic := by
    rw [wordToken]
    split_ifs <;> rfl
  rw [cons_append, semantic_cons hnext, if_pos hsem]

theorem semantic_decimal {v : List Char} (h : isDecimal v)
    (hrest : ∀ c ∈ rest.head?, isPunctuation c) :
    semantic (v ++ rest) = .number (String.ofList v) :: semantic rest := by
  obtain ⟨c, cs, x, rfl, hst0, hcs, hx⟩ := exists_of_isDecimal h
  have hnr : startsNumber c (cs ++ (x ++ rest)) := by
    cases cs with
    | nil =>
      have hc : c.isDigit := by simpa [startsNumber] using hst0
      simp [startsNumber, hc]
    | cons d cs => exact hst0
  have hoth : ¬opensOther c := by
    have hdigi : ∀ n : Fin 58, (Char.ofNat n).isDigit → ¬opensOther (Char.ofNat n) := by
      decide +kernel
    rw [startsNumber, Bool.or_eq_true, Bool.and_eq_true, decide_eq_true_eq] at hst0
    rcases hst0 with hdig | ⟨rfl, -⟩
    · have hle : c.toNat ≤ 57 := (Char.isDigit_iff_toNat.mp hdig).2
      have hc := hdigi ⟨c.toNat, by omega⟩
      rw [Char.ofNat_toNat] at hc
      exact hc hdig
    · decide
  have hstop : ∀ d ∈ (x ++ rest).head?, ¬isNumberPart d := by
    intro d hd
    rcases hx with rfl | ⟨e, sign, digits, rfl, he, -, -, -⟩
    · rcases isPunctuation_iff.mp (hrest d hd) with rfl | rfl | rfl | rfl <;> decide
    · obtain rfl : e = d := Option.some.inj hd
      rcases he with rfl | rfl <;> decide
  have hspan := span_append hcs hstop
  have hnext : nextToken c (cs ++ (x ++ rest)) =
      (.number (String.ofList (c :: (cs ++ x))), rest) := by
    rw [nextToken_of_not_opensOther hoth, if_pos hnr]
    dsimp only
    rw [hspan.1, hspan.2, exponent_append hx hrest]
    rfl
  rw [cons_append, append_assoc, semantic_cons hnext]
  rfl

theorem semantic_string (hrest : rest.head? ≠ some '\'') (s : List Char) :
    semantic ('\'' :: (escapeQuotes s ++ '\'' :: rest)) =
      .stringLiteral (String.ofList s) :: semantic rest := by
  have hnext : nextToken '\'' (escapeQuotes s ++ '\'' :: rest) =
      (.stringLiteral (String.ofList s), rest) := by
    rw [nextToken, if_neg (by decide), if_neg fun h => absurd h.1 (by decide),
      if_neg fun h => absurd h.1 (by decide), if_pos rfl, stringBody_escapeQuotes hrest]
  rw [semantic_cons hnext]
  rfl

end VngDatabase.Sql
