import VngDatabase.Text

/-!
# Writing through a view

`rewrite_dml_for_view` of `services/voltnuerongridd/src/handlers/sql.rs` puts the table of a view in
the place of its name.
-/

namespace VngDatabase.Sql

open Text List

variable (sql : String)

def extractViewSelectBody (originalStatement : String) : Option String :=
  (afterIgnoreCase " AS ".toList originalStatement.toList).bind fun after =>
    if trim after = [] then none else some (String.ofList (trim after))

def extractUpdatableViewBaseTable (originalStatement : String) : Option String :=
  (extractViewSelectBody originalStatement).bind fun selectBody =>
    let body := toAsciiUppercase selectBody
    if ["JOIN", "GROUP BY", "HAVING", "DISTINCT", "SUBQUERY", "UNION", "INTERSECT", "EXCEPT",
        "COUNT(", "SUM(", "AVG(", "MIN(", "MAX("].any (contains body) then none
    else (splitAtText " FROM ".toList body.toList).bind fun (_, after) =>
      let tableUpper := (trim after).takeWhile (¬isWhitespace ·)
      if tableUpper = [] then none else some (toAsciiLowercase (String.ofList tableUpper))

def isIdentChar (c : Char) : Bool := c.isAlphanum || c = '_'

def WordAt (name text : List Char) (pos : ℕ) : Prop :=
  name <+: text.drop pos ∧ (∀ c ∈ (text.take pos).getLast?, ¬isIdentChar c) ∧
    ∀ c ∈ (text.drop (pos + name.length)).head?, ¬isIdentChar c

instance (name text : List Char) (pos : ℕ) : Decidable (WordAt name text pos) :=
  -- asking the option, not every character
  @instDecidableAnd _ _ inferInstance
    (@instDecidableAnd _ _ (Option.decidableForallMem _) (Option.decidableForallMem _))

def matchPos (name text : List Char) : Option ℕ :=
  (range (text.length + 1 - name.length)).find? fun i => WordAt name text i

structure ViewEdit where
  pos : ℕ
  len : ℕ
  baseTable : String

def ViewEdit.apply (edit : ViewEdit) (sql : String) : String :=
  String.ofList (sql.toList.take edit.pos) ++ edit.baseTable ++
    String.ofList (sql.toList.drop (edit.pos + edit.len))

def nameOf (view : String × String) : List Char := view.1.toList.map Char.toLower

def editFor (view : String × String) : Option ViewEdit :=
  (matchPos (nameOf view) (sql.toList.map Char.toLower)).bind fun pos =>
    (extractUpdatableViewBaseTable view.2).map fun baseTable =>
      ⟨pos, (nameOf view).length, baseTable⟩

/-- Nothing at all if the source panics. -/
def scanViews (sql : String) : (viewCatalog : List (String × String)) → Option (Option ViewEdit)
  | [] => some none
  | view :: views =>
    if view.1 = "" then scanViews sql views
    -- the source slices the statement, by bytes, up to the length of the name
    else if sql.utf8ByteSize < view.1.utf8ByteSize then none
    else match editFor sql view with
      | some edit => some (some edit)
      | none => scanViews sql views

def isDml : Bool :=
  (splitWhitespace (toAsciiLowercase sql)).head?.getD "" ∈ ["insert", "update", "delete"]

def viewEdit (viewCatalog : List (String × String)) : Option (Option ViewEdit) :=
  if isDml sql then scanViews sql viewCatalog else some none

def rewriteDmlForView (viewCatalog : List (String × String)) : Option String :=
  (viewEdit sql viewCatalog).map fun edit => (edit.map (·.apply sql)).getD sql

/-- The first name that can be replaced stands at this place first. -/
def FirstAt (target : ℕ) (viewCatalog : List (String × String)) : Prop :=
  ∀ before view after, viewCatalog = before ++ view :: after → view.1 ≠ "" →
    (∀ v ∈ before, v.1 = "" ∨ editFor sql v = none) →
      view.1.utf8ByteSize ≤ sql.utf8ByteSize ∧ ∀ e ∈ editFor sql view, e.pos = target

theorem firstAt_cons {sql : String} {target : ℕ} {view : String × String}
    {views : List (String × String)} :
    FirstAt sql target (view :: views) ↔
      (view.1 ≠ "" → view.1.utf8ByteSize ≤ sql.utf8ByteSize ∧
        ∀ e ∈ editFor sql view, e.pos = target) ∧
      (view.1 = "" ∨ editFor sql view = none → FirstAt sql target views) := by
  constructor
  · refine fun h => ⟨fun hne => h [] view views rfl hne nofun, ?_⟩
    rintro hview before v after rfl hne hb
    exact h (view :: before) v after rfl hne (forall_mem_cons.mpr ⟨hview, hb⟩)
  · rintro ⟨hhead, htail⟩ before v after hcat hne hb
    rcases before with _ | ⟨w, before⟩
    · obtain ⟨rfl, rfl⟩ := cons.inj hcat
      exact hhead hne
    · obtain ⟨rfl, rfl⟩ := cons.inj hcat
      rw [forall_mem_cons] at hb
      exact htail hb.1 before v after rfl hne hb.2

theorem scanViews_confined_iff {sql : String} {target : ℕ} (viewCatalog : List (String × String)) :
    (∃ edit, scanViews sql viewCatalog = some edit ∧ ∀ e ∈ edit, e.pos = target) ↔
      FirstAt sql target viewCatalog := by
  induction viewCatalog with
  | nil => exact iff_of_true ⟨none, rfl, nofun⟩ fun before view after h => by simp at h
  | cons view views ih =>
    rw [firstAt_cons, scanViews]
    split_ifs with hemp hlong
    · rw [ih]
      simp [hemp]
    · exact iff_of_false (by simp) fun h => Nat.not_le.mpr hlong (h.1 hemp).1
    · cases hedit : editFor sql view with
      | some edit => simp [hemp, Nat.not_lt.mp hlong]
      | none =>
        rw [ih]
        simp [hemp, Nat.not_lt.mp hlong]

/-- **The rewriting is confined to the target** iff the first name that can be replaced stands
there. -/
theorem rewriteDmlForView_confined_iff (sql : String) (viewCatalog : List (String × String))
    (target : ℕ) :
    (∃ edit, viewEdit sql viewCatalog = some edit ∧
      rewriteDmlForView sql viewCatalog = some ((edit.map (·.apply sql)).getD sql) ∧
        ∀ e ∈ edit, e.pos = target) ↔
      (isDml sql → FirstAt sql target viewCatalog) := by
  rw [rewriteDmlForView, viewEdit]
  split_ifs with hdml
  · rw [← scanViews_confined_iff]
    constructor
    · exact fun ⟨edit, hedit, _, hpos⟩ _ => ⟨edit, hedit, hpos⟩
    · intro h
      obtain ⟨edit, hedit, hpos⟩ := h hdml
      exact ⟨edit, hedit, by rw [hedit, Option.map_some], hpos⟩
  · simp [hdml]

theorem literal_rewritten :
    rewriteDmlForView "UPDATE t SET c = 'v'" [("v", "CREATE VIEW v AS SELECT * FROM u")] =
        some "UPDATE t SET c = 'u'" ∧
      rewriteDmlForView "DELETE FROM t" [("monthly_totals", "")] = none := by
  decide +kernel

end VngDatabase.Sql
