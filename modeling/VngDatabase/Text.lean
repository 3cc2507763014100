import Mathlib

/-!
# Operations on text

The string operations of Rust's standard library that are used, on lists of characters. A position
in the source's strings is a pair here, the text before it and the text after it (`splitAtText`).
-/

namespace VngDatabase.Text

open List

/-! ### Case and blanks -/

variable {c : Char} {cs : List Char}

def toAsciiUppercase (s : String) : String := String.ofList (s.toList.map Char.toUpper)

def toAsciiLowercase (s : String) : String := String.ofList (s.toList.map Char.toLower)

def eqIgnoreAsciiCase (s t : String) : Bool := toAsciiLowercase s == toAsciiLowercase t

def isAsciiWhitespace (c : Char) : Bool := c.toNat ∈ [32, 9, 10, 12, 13]

/-- Unicode's `White_Space`. -/
def isWhitespace (c : Char) : Bool :=
  (9 ≤ c.toNat && c.toNat ≤ 13) || (0x2000 ≤ c.toNat && c.toNat ≤ 0x200a) ||
    c.toNat ∈ [32, 0x85, 0xa0, 0x1680, 0x2028, 0x2029, 0x202f, 0x205f, 0x3000]

def trimStart (cs : List Char) : List Char := cs.dropWhile isWhitespace

def trim (cs : List Char) : List Char := ((trimStart cs).reverse.dropWhile isWhitespace).reverse

def trimEndMatches (p : Char → Bool) (cs : List Char) : List Char :=
  (cs.reverse.dropWhile p).reverse

def trimMatches (p : Char → Bool) (cs : List Char) : List Char :=
  trimEndMatches p (cs.dropWhile p)

theorem mem_of_mem_trim (h : c ∈ trim cs) : c ∈ cs := by
  have hmid := (dropWhile_suffix _).subset (mem_reverse.mp h)
  exact (dropWhile_suffix _).subset (mem_reverse.mp hmid)

theorem mem_dropWhile {p : Char → Bool} (h : c ∈ cs) (hc : ¬p c) : c ∈ cs.dropWhile p := by
  rw [← takeWhile_append_dropWhile (p := p) (l := cs), mem_append] at h
  exact h.resolve_left fun htake => hc (all_eq_true.mp all_takeWhile c htake)

theorem mem_trim (h : c ∈ cs) (hc : ¬isWhitespace c) : c ∈ trim cs :=
  mem_reverse.mpr (mem_dropWhile (mem_reverse.mpr (mem_dropWhile h hc)) hc)

theorem toLower_ne_newline (h : c ≠ '\n') : c.toLower ≠ '\n' := by
  intro hl
  rw [Char.toLower] at hl
  split at hl
  · rename_i hc
    have hv : c.val + 32 = 10 := congrArg Char.val hl
    have hle : c.val ≤ 90 := hc.2
    grind
  · exact h hl

/-! ### Pieces of text -/

def startsWith (s pat : String) : Bool := pat.toList.isPrefixOf s.toList

def stripPrefix (s pat : String) : Option String :=
  (s.toList.dropPrefix? pat.toList).map String.ofList

def splitAtText (pat : List Char) : List Char → Option (List Char × List Char)
  | [] => if pat = [] then some ([], []) else none
  | c :: cs =>
    if pat.isPrefixOf (c :: cs) then some ([], (c :: cs).drop pat.length)
    else (splitAtText pat cs).map fun p => (c :: p.1, p.2)

def contains (s pat : String) : Bool := (splitAtText pat.toList s.toList).isSome

/-- `skip` characters are still to be passed over, `piece` is being read. -/
def splitFrom (sep : List Char) (skip : ℕ) (piece : List Char) : List Char → List (List Char)
  | [] => [piece]
  | c :: cs =>
    match skip with
    | skip + 1 => splitFrom sep skip piece cs
    | 0 =>
      if sep.isPrefixOf (c :: cs) then piece :: splitFrom sep (sep.length - 1) [] cs
      else splitFrom sep 0 (piece ++ [c]) cs

def split (sep : List Char) (cs : List Char) : List (List Char) := splitFrom sep 0 [] cs

def splitIgnoreCaseFrom (sep : List Char) (skip : ℕ) (piece : List Char) :
    List Char → List (List Char)
  | [] => [piece]
  | c :: cs =>
    match skip with
    | skip + 1 => splitIgnoreCaseFrom sep skip piece cs
    | 0 =>
      if sep.isPrefixOf ((c :: cs).map Char.toUpper) then
        piece :: splitIgnoreCaseFrom sep (sep.length - 1) [] cs
      else splitIgnoreCaseFrom sep 0 (piece ++ [c]) cs

def splitIgnoreCase (sep : List Char) (cs : List Char) : List (List Char) :=
  splitIgnoreCaseFrom sep 0 [] cs

def afterIgnoreCase (pat : List Char) (cs : List Char) : Option (List Char) :=
  (splitAtText pat (cs.map Char.toUpper)).map fun p => cs.drop (p.1.length + pat.length)

def replace (pat new : List Char) (cs : List Char) : List Char :=
  new.intercalate (split pat cs)

def afterLast (c : Char) (s : String) : String :=
  String.ofList (s.toList.reverse.takeWhile (· ≠ c)).reverse

def beforeFirst (c : Char) (s : String) : String := String.ofList (s.toList.takeWhile (· ≠ c))

def trimStartMatches (pat : List Char) : ℕ → List Char → List Char
  | 0, cs => cs
  | n + 1, cs =>
    if pat = [] then cs
    else match cs.dropPrefix? pat with
      | some rest => trimStartMatches pat n rest
      | none => cs

def trimEndText (pat cs : List Char) : List Char :=
  (trimStartMatches pat.reverse cs.length cs.reverse).reverse

/-- `word` is the run being read. -/
def wordsFrom (blank : Char → Bool) (word : List Char) : List Char → List (List Char)
  | [] => if word = [] then [] else [word]
  | c :: cs =>
    if blank c then
      if word = [] then wordsFrom blank [] cs else word :: wordsFrom blank [] cs
    else wordsFrom blank (word ++ [c]) cs

def splitWhitespace (s : String) : List String :=
  (wordsFrom isWhitespace [] s.toList).map String.ofList

def splitAsciiWhitespace (s : String) : List String :=
  (wordsFrom isAsciiWhitespace [] s.toList).map String.ofList

/-- `line` is the line being read. -/
def linesFrom (line : List Char) : List Char → List (List Char)
  | [] => if line = [] then [] else [line]
  | c :: cs =>
    if c = '\n' then
      (if line.getLast? = some '\r' then line.dropLast else line) :: linesFrom [] cs
    else linesFrom (line ++ [c]) cs

theorem startsWith_append (pat s : String) : startsWith (pat ++ s) pat := by
  rw [startsWith, isPrefixOf_iff_prefix]
  exact ⟨s.toList, String.toList_append.symm⟩

theorem startsWith_of_append {s pat pat' : String} (h : startsWith s (pat ++ pat')) :
    startsWith s pat := by
  rw [startsWith, isPrefixOf_iff_prefix] at h ⊢
  exact List.IsPrefix.trans ⟨pat'.toList, String.toList_append.symm⟩ h

theorem stripPrefix_append (pat s : String) : stripPrefix (pat ++ s) pat = some s := by
  have h : (pat ++ s).toList.dropPrefix? pat.toList = some s.toList :=
    dropPrefix?_eq_some_iff.mpr ⟨pat.toList, String.toList_append, beq_self_eq_true _⟩
  rw [stripPrefix, h, Option.map_some, String.ofList_toList]

theorem splitAtText_append_cons {pre : List Char} (h : c ∉ pre) (post : List Char) :
    splitAtText [c] (pre ++ c :: post) = some (pre, post) := by
  induction pre with
  | nil => simp [splitAtText]
  | cons d pre ih =>
    rw [mem_cons, not_or] at h
    rw [cons_append, splitAtText, ih h.2]
    simp [h.1]

theorem eq_of_append_cons_eq {pre pre' post post' : List Char} (h : c ∉ pre)
    (h' : c ∉ pre') (heq : pre ++ c :: post = pre' ++ c :: post') : pre = pre' := by
  have hspl := splitAtText_append_cons h post
  rw [heq, splitAtText_append_cons h' post', Option.some.injEq, Prod.mk.injEq] at hspl
  exact hspl.1.symm

theorem head?_append {s : String} (h : s ≠ "") (tail : List Char) :
    (s.toList ++ tail).head? = s.toList.head? := by
  cases hs : s.toList with
  | nil => exact absurd (String.toList_inj.mp (hs.trans String.toList_empty.symm)) h
  | cons c cs => rfl

theorem head?_of_startsWith {s pat : String} (h : startsWith s pat) (hne : pat ≠ "") :
    s.toList.head? = pat.toList.head? := by
  obtain ⟨rest, hrest⟩ := isPrefixOf_iff_prefix.mp h
  rw [← hrest, head?_append hne]

end VngDatabase.Text
