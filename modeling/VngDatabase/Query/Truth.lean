import VngDatabase.Kleene
import VngDatabase.Query.Predicate

/-!
# Conditions in three truth values

A condition in SQL is a formula (`conditionOf`) whose atoms are comparisons, `LIKE` and `IS NULL`
(`Atom`), and an atom with a `NULL` in it is unknown, except for `IS NULL` (`sqlAtom`).
-/

namespace VngDatabase.Query

open Text Kleene Formula List Option

/-! ### Patterns -/

/-- **What `LIKE` means**: `%` stands for any text and `_` for any character. -/
inductive Like : (pattern text : List Char) → Prop
  | nil : Like [] []
  | any {pattern text : List Char} (skipped : List Char) :
    Like pattern text → Like ('%' :: pattern) (skipped ++ text)
  | one {pattern text : List Char} (c : Char) :
    Like pattern text → Like ('_' :: pattern) (c :: text)
  | char {pattern text : List Char} {c : Char} : c ≠ '%' → c ≠ '_' → Like pattern text →
    Like (c :: pattern) (c :: text)

theorem like_of_globLikeChars {pattern text : List Char} (h : globLikeChars pattern text) :
    Like pattern text := by
  induction pattern generalizing text with
  | nil =>
    obtain rfl : text = [] := by simpa [globLikeChars] using h
    exact .nil
  | cons c pattern ih =>
    by_cases hany : c = '%'
    · subst hany
      simp only [globLikeChars, List.any_eq_true] at h
      obtain ⟨skip, -, hrest⟩ := h
      rw [← List.take_append_drop skip text]
      exact .any _ (ih hrest)
    by_cases hone : c = '_'
    · subst hone
      cases text with
      | nil => simp [globLikeChars] at h
      | cons d text => exact .one d (ih (by simpa [globLikeChars] using h))
    cases text with
    | nil => simp [globLikeChars] at h
    | cons d text =>
      obtain ⟨rfl, hrest⟩ : d = c ∧ globLikeChars pattern text := by
        simpa [globLikeChars, hany, hone] using h
      exact .char hany hone (ih hrest)

theorem globLikeChars_of_like {pattern text : List Char} (h : Like pattern text) :
    globLikeChars pattern text := by
  induction h with
  | nil => simp [globLikeChars]
  | @any pattern text skipped _ ih =>
    simp only [globLikeChars, List.any_eq_true]
    refine ⟨skipped.length, ?_, by simpa using ih⟩
    rw [List.mem_range, List.length_append]
    omega
  | one c _ ih => simpa [globLikeChars] using ih
  | char hany hone _ ih => simpa [globLikeChars, hany, hone] using ih

theorem globLikeChars_iff {pattern text : List Char} :
    globLikeChars pattern text ↔ Like pattern text :=
  ⟨like_of_globLikeChars, globLikeChars_of_like⟩

instance (pattern text : List Char) : Decidable (Like pattern text) :=
  decidable_of_iff _ globLikeChars_iff

/-- The matcher on the whole sequences, with a position in each; `none` is an index outside. -/
def globLikeCharsAt (t p : List Char) (ti pi : ℕ) : Option Bool :=
  if pi = p.length then some (ti = t.length)
  else if _ : pi < p.length then
    if p[pi] = '%' then
      (range (t.length - ti + 1)).anyM fun skip => globLikeCharsAt t p (ti + skip) (pi + 1)
    else if p[pi] = '_' then
      if ti < t.length then globLikeCharsAt t p (ti + 1) (pi + 1) else some false
    else if _ : ti < t.length then
      if t[ti] = p[pi] then globLikeCharsAt t p (ti + 1) (pi + 1) else some false
    else some false
  else none
termination_by p.length - pi

def globLike (text pattern : String) : Option Bool :=
  globLikeCharsAt text.toList pattern.toList 0 0

theorem anyM_eq_some {α : Type} {f : α → Option Bool} {g : α → Bool} {l : List α}
    (h : ∀ a ∈ l, f a = some (g a)) : l.anyM f = some (l.any g) := by
  induction l with
  | nil => rfl
  | cons a l ih =>
    rw [forall_mem_cons] at h
    rw [anyM, h.1, any_cons]
    cases g a
    · exact ih h.2
    · rfl

/-- The positions stay inside, and stand for what is left of the sequences. -/
theorem globLikeCharsAt_eq {t p q : List Char} {ti pi : ℕ} (hq : p.drop pi = q)
    (hp : pi ≤ p.length) (ht : ti ≤ t.length) :
    globLikeCharsAt t p ti pi = some (globLikeChars q (t.drop ti)) := by
  induction q generalizing ti pi with
  | nil =>
    obtain rfl : pi = p.length := hp.antisymm (drop_eq_nil_iff.mp hq)
    rw [globLikeCharsAt, if_pos rfl, globLikeChars]
    congr 2
    rw [drop_eq_nil_iff]
    exact propext ⟨fun h => h.ge, ht.antisymm⟩
  | cons c q ih =>
    have hlt : pi < p.length := by
      by_contra hn
      simp [drop_eq_nil_of_le (not_lt.mp hn)] at hq
    rw [drop_eq_getElem_cons hlt, cons.injEq] at hq
    obtain ⟨rfl, hq⟩ := hq
    rw [globLikeCharsAt, if_neg hlt.ne, dif_pos hlt]
    split_ifs with hany hone hti hti heq
    · rw [hany, globLikeChars, length_drop, anyM_eq_some]
      intro skip hs
      rw [drop_drop]
      exact ih hq hlt (by rw [mem_range] at hs; omega)
    · rw [hone, drop_eq_getElem_cons hti, globLikeChars]
      exact ih hq hlt hti
    · rw [hone, drop_eq_nil_of_le (not_lt.mp hti), globLikeChars]
    · rw [ih hq hlt hti, drop_eq_getElem_cons hti, heq]
      simp [globLikeChars]
    · rw [drop_eq_getElem_cons hti]
      generalize t[ti] = d at heq
      generalize t.drop (ti + 1) = rest
      simp [globLikeChars, heq]
    · rw [drop_eq_nil_of_le (not_lt.mp hti)]
      simp [globLikeChars]

/-- The pieces of a text that a character of the pattern **stands for**. -/
def PieceOf (c : Char) (piece : List Char) : Prop :=
  if c = '%' then True else if c = '_' then piece.length = 1 else piece = [c]

theorem like_iff_pieces {pattern text : List Char} :
    Like pattern text ↔ ∃ pieces, flatten pieces = text ∧ Forall₂ PieceOf pattern pieces := by
  constructor
  · intro h
    induction h with
    | nil => exact ⟨[], rfl, .nil⟩
    | any skipped _ ih =>
      obtain ⟨pieces, rfl, hp⟩ := ih
      exact ⟨skipped :: pieces, rfl, .cons (by simp [PieceOf]) hp⟩
    | one c _ ih =>
      obtain ⟨pieces, rfl, hp⟩ := ih
      exact ⟨[c] :: pieces, rfl, .cons (by simp [PieceOf]) hp⟩
    | @char _ _ c hany hone _ ih =>
      obtain ⟨pieces, rfl, hp⟩ := ih
      exact ⟨[c] :: pieces, rfl, .cons (by simp [PieceOf, hany, hone]) hp⟩
  · rintro ⟨pieces, rfl, h⟩
    induction h with
    | nil => exact .nil
    | @cons c piece _ _ hpiece _ ih =>
      rw [flatten_cons]
      rw [PieceOf] at hpiece
      split_ifs at hpiece with hany hone
      · exact hany ▸ .any piece ih
      · obtain ⟨d, rfl⟩ := length_eq_one_iff.mp hpiece
        exact hone ▸ .one d ih
      · exact hpiece ▸ .char hany hone ih

/-- **The matcher is exact**: it stays inside both sequences and answers whether the text is cut
into one piece for each character of the pattern. -/
theorem globLike_exact (text pattern : String) :
    ∃ found, globLike text pattern = some found ∧ (found ↔
      ∃ pieces, flatten pieces = text.toList ∧ Forall₂ PieceOf pattern.toList pieces) := by
  refine ⟨_, globLikeCharsAt_eq rfl (Nat.zero_le _) (Nat.zero_le _), ?_⟩
  rw [← like_iff_pieces, ← globLikeChars_iff]
  rfl

inductive SqlValue
  | int (i : ℤ)
  | text (s : String)
  | null
  deriving DecidableEq

namespace SqlValue

def toText : SqlValue → Option String
  | int i => some (toString i)
  | text s => some s
  | null => none

/-- Integers as such, all others as texts. -/
def order : SqlValue → SqlValue → Option Ordering
  | int x, int y => some (compare x y)
  | a, b => (a.toText).bind fun x => (b.toText).map fun y => compare x y

end SqlValue

inductive Operand
  | column (name : String)
  | literal (v : SqlValue)

def operandOf : Expr → Option Operand
  | .identifier name => some (.column name)
  | .compoundIdentifier parts => some (.column (parts.getLast?.getD ""))
  | .value (.number n) => (parseI64 n).map fun i => .literal (.int i)
  | .value (.text s) => some (.literal (.text s))
  | .value .null => some (.literal .null)
  | .nested e => operandOf e
  | .unaryOp .plus e => operandOf e
  | .unaryOp .minus (.value (.number n)) =>
    ((parseI64 n).filter (0 ≤ ·)).map fun i => .literal (.int (-i))
  | _ => none

def sqlColumn (env : RowEnv) (name : String) : SqlValue :=
  if name = "_key" then .text env.rowKey
  else match env.rowData.lookup name with
    | none => .null
    | some s => match parseI64 s with
      | some i => .int i
      | none => .text s

def Operand.value (env : RowEnv) : Operand → SqlValue
  | column name => sqlColumn env name
  | literal v => v

def BinaryOperator.holds : BinaryOperator → Ordering → Bool
  | eq, o => o = .eq
  | notEq, o => o ≠ .eq
  | lt, o => o = .lt
  | ltEq, o => o ≠ .gt
  | gt, o => o = .gt
  | gtEq, o => o ≠ .lt
  | _, _ => false

def BinaryOperator.isComparison : BinaryOperator → Bool
  | eq | notEq | lt | ltEq | gt | gtEq => true
  | _ => false

inductive Atom
  | compare (a : Operand) (op : BinaryOperator) (b : Operand)
  | like (a pattern : Operand)
  | isNull (a : Operand)

def Atom.operands : Atom → List Operand
  | compare a _ b => [a, b]
  | like a pattern => [a, pattern]
  | isNull a => [a]

/-- Nothing is known about a comparison with `NULL`. -/
def sqlAtom (env : RowEnv) : Atom → Option Bool
  | .compare a op b => ((a.value env).order (b.value env)).map op.holds
  | .like a pattern =>
    ((a.value env).toText).bind fun text => ((pattern.value env).toText).map fun pattern =>
      decide (Like pattern.toList text.toList)
  | .isNull a => some (a.value env = .null)

def conditionOf : Expr → Option (Formula Atom)
  | .binaryOp left .and right =>
    (conditionOf left).bind fun f => (conditionOf right).map fun g => .conj f g
  | .binaryOp left .or right =>
    (conditionOf left).bind fun f => (conditionOf right).map fun g => .disj f g
  | .binaryOp left op right =>
    if op.isComparison then
      (operandOf left).bind fun a => (operandOf right).map fun b => .atom (.compare a op b)
    else none
  | .unaryOp .not e => (conditionOf e).map .neg
  | .isNull e => (operandOf e).map fun a => .atom (.isNull a)
  | .isNotNull e => (operandOf e).map fun a => .neg (.atom (.isNull a))
  | .between negated e low high =>
    (operandOf e).bind fun a => (operandOf low).bind fun lo => (operandOf high).map fun hi =>
      .negatedIf negated (.conj (.atom (.compare a .gtEq lo)) (.atom (.compare a .ltEq hi)))
  | .inList negated e list =>
    (operandOf e).bind fun a => (list.mapM operandOf).map fun items =>
      .negatedIf negated (.oneOf (items.map fun b => .atom (.compare a .eq b)))
  | .like negated e pattern =>
    (operandOf e).bind fun a => (operandOf pattern).map fun p =>
      .negatedIf negated (.atom (.like a p))
  | .nested e => conditionOf e
  | _ => none

def readAtom (env : RowEnv) : Atom → Bool
  | .compare a op b => (((a.value env).order (b.value env)).map op.holds).getD false
  | .like a pattern =>
    decide (Like ((pattern.value env).toText.getD "").toList ((a.value env).toText.getD "").toList)
  | .isNull a => a.value env = .null

theorem reads_readAtom (env : RowEnv) (a : Atom) : Reads (sqlAtom env a) (readAtom env a) := by
  rintro b hb
  cases a with
  | compare a op c =>
    rw [sqlAtom] at hb
    rw [readAtom, hb, getD_some]
  | like a pattern =>
    obtain ⟨text, htext, hb⟩ := bind_eq_some_iff.mp hb
    obtain ⟨pattern', hpat, rfl⟩ := map_eq_some_iff.mp hb
    rw [readAtom, htext, hpat, getD_some, getD_some]
  | isNull a => exact some.inj hb

section

variable [F64] {env : RowEnv} {e : Expr} {op : BinaryOperator} {items : List Operand}
  {f : Formula Atom}

def SqlValue.toVal : SqlValue → Val
  | int i => .int i
  | text s => .text s
  | null => .null

/-- **An integer, or neither a number nor a truth value.** -/
def IsPlain (s : String) : Prop :=
  (parseI64 s).isSome ∨
    F64.parse s = none ∧ ¬eqIgnoreAsciiCase s "true" ∧ ¬eqIgnoreAsciiCase s "false"

def PlainOperand (env : RowEnv) : Operand → Prop
  | .column name => ∀ s, env.rowData.lookup name = some s → IsPlain s
  | .literal _ => True

theorem colValue_eq {name : String} (h : PlainOperand env (.column name)) :
    colValue env name = (sqlColumn env name).toVal := by
  rw [colValue, sqlColumn]
  split_ifs with hkey
  · rfl
  cases hlk : env.rowData.lookup name with
  | none => rfl
  | some s =>
    simp only [parseStrToValue]
    have hpl := h s hlk
    cases hint : parseI64 s with
    | some i =>
      have hs : s ≠ "" := by
        rintro rfl
        cases hint
      rw [if_neg hs]
      rfl
    | none =>
      rw [IsPlain, hint] at hpl
      obtain ⟨hflo, htrue, hfal⟩ := hpl.resolve_left (by simp)
      split_ifs with hs
      · rw [hs]
        rfl
      · simp only [hflo]
        rfl

omit [F64] in
theorem bounds_of_parseI64 {n : String} {i : ℤ} (h : parseI64 n = some i) :
    -2 ^ 63 ≤ i ∧ i < 2 ^ 63 := by
  unfold parseI64 at h
  dsimp only at h
  split_ifs at h with _ _ hbou hbou <;> rwa [← some.inj h]

theorem evalValue_eq {o : Operand} (ho : operandOf e = some o)
    (h : PlainOperand env o) : evalValue env e = (o.value env).toVal := by
  fun_induction operandOf e with
  | case1 name =>
    obtain rfl := some.inj ho
    exact colValue_eq h
  | case2 parts =>
    obtain rfl := some.inj ho
    exact colValue_eq h
  | case3 n =>
    obtain ⟨i, hi, rfl⟩ := map_eq_some_iff.mp ho
    rw [evalValue, literalValue, hi]
    rfl
  | case4 s =>
    obtain rfl := some.inj ho
    rfl
  | case5 =>
    obtain rfl := some.inj ho
    rfl
  | case6 e ih =>
    rw [evalValue]
    exact ih ho
  | case7 e ih =>
    rw [evalValue]
    exact ih ho
  | case8 n =>
    obtain ⟨i, hi, rfl⟩ := map_eq_some_iff.mp ho
    obtain ⟨hi, hpos⟩ := filter_eq_some_iff.mp hi
    have hbou := bounds_of_parseI64 hi
    have hpos : 0 ≤ i := by simpa using hpos
    have hmod : Int.bmod (-i) (2 ^ 64) = -i := by
      apply Int.bmod_eq_of_le <;> omega
    simp only [evalValue, literalValue, hi, hmod]
    rfl
  | case9 => cases ho

/-! ### How the evaluator reads a condition -/

theorem compareValues_toVal (a b : SqlValue) (op : BinaryOperator) :
    compareValues a.toVal op b.toVal = ((a.order b).map op.holds).getD false := by
  cases op <;> cases a <;> cases b <;> rfl

theorem likeMatch_toVal (v pattern : SqlValue) :
    likeMatch v.toVal pattern.toVal =
      decide (Like (pattern.toText.getD "").toList (v.toText.getD "").toList) := by
  have htext : ∀ w : SqlValue, valueToString w.toVal = w.toText.getD "" := by
    rintro (_ | _ | _) <;> rfl
  rw [likeMatch, htext, htext, Bool.eq_iff_iff, decide_eq_true_iff]
  exact globLikeChars_iff

theorem compareValues_eq {e' : Expr} {a b : Operand}
    (ha : operandOf e = some a) (hb : operandOf e' = some b)
    (hpl : ∀ o ∈ (Atom.compare a op b).operands, PlainOperand env o) :
    compareValues (evalValue env e) op (evalValue env e') = readAtom env (.compare a op b) := by
  rw [evalValue_eq ha (hpl a (by simp [Atom.operands])),
    evalValue_eq hb (hpl b (by simp [Atom.operands])), compareValues_toVal]
  rfl

theorem evalPredicate_comparison (env : RowEnv) (left right : Expr) (hop : op.isComparison) :
    evalPredicate env (.binaryOp left op right) =
      .ok (compareValues (evalValue env left) op (evalValue env right)) := by
  cases op with
  | and => cases hop
  | or => cases hop
  | other => cases hop
  | _ => rfl

theorem any_compareValues_eq {a : Operand} (ha : operandOf e = some a)
    {list : List Expr} (hite : list.mapM operandOf = some items)
    (hpl : ∀ b ∈ items, ∀ o ∈ (Atom.compare a .eq b).operands, PlainOperand env o) :
    (list.any fun item => compareValues (evalValue env e) .eq (evalValue env item)) =
      items.any fun b => readAtom env (.compare a .eq b) := by
  induction list generalizing items with
  | nil =>
    obtain rfl : [] = items := by simpa using hite
    rfl
  | cons item list ih =>
    obtain ⟨b, hb, items', hite', rfl⟩ :
        ∃ b, operandOf item = some b ∧ ∃ l, list.mapM operandOf = some l ∧ b :: l = items := by
      simpa [mapM_cons, bind_eq_some_iff] using hite
    rw [forall_mem_cons] at hpl
    rw [any_cons, any_cons, compareValues_eq ha hb hpl.1, ih hite' hpl.2]

omit [F64] in
theorem atoms_negatedIf {negated : Bool} : (negatedIf negated f).atoms = f.atoms := by
  cases negated <;> rfl

omit [F64] in
theorem mem_atoms_oneOf {a b : Operand} (h : b ∈ items) :
    .compare a .eq b ∈ (oneOf (items.map fun b => .atom (Atom.compare a .eq b))).atoms := by
  induction items with
  | nil => cases h
  | cons item items ih =>
    rw [map_cons, oneOf, atoms, atoms, singleton_append, mem_cons]
    rcases mem_cons.mp h with rfl | hmem
    · exact Or.inl rfl
    · exact Or.inr (ih hmem)

theorem evalPredicate_eq (hf : conditionOf e = some f)
    (h : ∀ a ∈ f.atoms, ∀ o ∈ a.operands, PlainOperand env o) :
    evalPredicate env e = .ok (f.eval (readAtom env)) := by
  fun_induction conditionOf e generalizing f with
  | case1 left right ihl ihr =>
    obtain ⟨fl, hl, hf⟩ := bind_eq_some_iff.mp hf
    obtain ⟨fr, hr, rfl⟩ := map_eq_some_iff.mp hf
    rw [atoms, forall_mem_append] at h
    rw [evalPredicate, ihl hl h.1, ihr hr h.2, eval]
    cases fl.eval (readAtom env) <;> rfl
  | case2 left right ihl ihr =>
    obtain ⟨fl, hl, hf⟩ := bind_eq_some_iff.mp hf
    obtain ⟨fr, hr, rfl⟩ := map_eq_some_iff.mp hf
    rw [atoms, forall_mem_append] at h
    rw [evalPredicate, ihl hl h.1, ihr hr h.2, eval]
    cases fl.eval (readAtom env) <;> rfl
  | case3 left op right hand hor hop =>
    obtain ⟨a, ha, hf⟩ := bind_eq_some_iff.mp hf
    obtain ⟨b, hb, rfl⟩ := map_eq_some_iff.mp hf
    rw [evalPredicate_comparison env left right hop,
      compareValues_eq ha hb (h _ (mem_singleton_self _))]
    rfl
  | case4 => cases hf
  | case5 e ih =>
    obtain ⟨g, hg, rfl⟩ := map_eq_some_iff.mp hf
    rw [evalPredicate, ih hg h]
    rfl
  | case6 e =>
    obtain ⟨a, ha, rfl⟩ := map_eq_some_iff.mp hf
    have hpl := h _ (mem_singleton_self _)
    rw [evalPredicate, evalValue_eq ha (hpl a (mem_singleton_self a)), eval, readAtom]
    cases a.value env <;> rfl
  | case7 e =>
    obtain ⟨a, ha, rfl⟩ := map_eq_some_iff.mp hf
    have hpl := h _ (mem_singleton_self _)
    rw [evalPredicate, evalValue_eq ha (hpl a (mem_singleton_self a)), eval, eval, readAtom]
    cases a.value env <;> rfl
  | case8 negated e low high =>
    obtain ⟨a, ha, hf⟩ := bind_eq_some_iff.mp hf
    obtain ⟨lo, hlo, hf⟩ := bind_eq_some_iff.mp hf
    obtain ⟨hi, hhi, rfl⟩ := map_eq_some_iff.mp hf
    rw [atoms_negatedIf, atoms, forall_mem_append] at h
    rw [evalPredicate, eval_negatedIf, eval, compareValues_eq ha hlo (h.1 _ (mem_singleton_self _)),
      compareValues_eq ha hhi (h.2 _ (mem_singleton_self _))]
    rfl
  | case9 negated e list =>
    obtain ⟨a, ha, hf⟩ := bind_eq_some_iff.mp hf
    obtain ⟨items, hite, rfl⟩ := map_eq_some_iff.mp hf
    rw [atoms_negatedIf] at h
    rw [evalPredicate, eval_negatedIf, eval_oneOf,
      any_compareValues_eq ha hite fun b hb => h _ (mem_atoms_oneOf hb), List.any_map]
    rfl
  | case10 negated e pattern =>
    obtain ⟨a, ha, hf⟩ := bind_eq_some_iff.mp hf
    obtain ⟨p, hp, rfl⟩ := map_eq_some_iff.mp hf
    rw [atoms_negatedIf] at h
    have hpl := h _ (mem_singleton_self _)
    rw [evalPredicate, eval_negatedIf, evalValue_eq ha (hpl a (by simp [Atom.operands])),
      evalValue_eq hp (hpl p (by simp [Atom.operands])), likeMatch_toVal]
    rfl
  | case11 e ih =>
    rw [evalPredicate]
    exact ih hf h
  | case12 => cases hf

end

section

open scoped Sample

def bareRow : RowEnv := ⟨"t:1", ∅⟩

def notThirty : Expr :=
  .unaryOp .not (.nested (.binaryOp (.identifier "age") .eq (.value (.number "30"))))

def anyName : Expr := .like false (.identifier "name") (.value (.text "%"))

def agedRow : RowEnv := ⟨"t:1", Finmap.insert "age" "31" ∅⟩

def notThirtyFormula : Formula Atom :=
  .neg (.atom (.compare (.column "age") .eq (.literal (.int 30))))

end

end VngDatabase.Query
