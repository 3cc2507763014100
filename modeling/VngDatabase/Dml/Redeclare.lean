import VngDatabase.Dml.Unique
import VngDatabase.Store.Declarations

/-!
# A table that is declared again

The constraints of a table stay when it is dropped, and when it is created again those whose names
are taken are passed over. So rows are checked against the old constraints and the new ones.
-/

namespace VngDatabase.Dml

open Store Sql Text ConstraintManager List Option

variable {rows : List InsertRow} (datas : List RowData) {column : String}

section

variable {mgr : ConstraintManager} {c : ConstraintDescriptor} {data : RowData} {v t : String}

theorem foreignKeyViolation?_eq_none_iff :
    mgr.foreignKeyViolation? c v = none ↔
      ∀ refTable refColumn, c.refTable = some refTable → c.refColumn = some refColumn →
        mgr.parents refTable refColumn = [] ∨
          ∃ p ∈ mgr.parents refTable refColumn, v ∈ mgr.seen p.name := by
  rw [foreignKeyViolation?]
  cases c.refTable with
  | none => simp
  | some refTable =>
    cases c.refColumn with
    | none => simp
    | some refColumn =>
      simp only [ite_eq_right_iff, reduceCtorEq, imp_false, not_and_or, not_not, some.injEq]
      constructor
      · rintro h _ _ rfl rfl
        simpa using h
      · intro h
        simpa using h refTable refColumn rfl rfl

variable [CheckPredicate]

structure Meets (mgr : ConstraintManager) (data : RowData) (c : ConstraintDescriptor) : Prop where
  present : c.kind = .notNull ∨ c.kind = .primaryKey → (data.lookup c.column).getD "" ≠ ""
  value : ¬startsWith c.column "__" → ∀ v, data.lookup c.column = some v →
    mgr.violationOf c.column (some v) c = none

theorem violationOf_eq_none_iff :
    mgr.violationOf c.column (some v) c = none ↔
      (c.kind.isKey → v ∉ mgr.seen c.name) ∧
      (c.kind = .foreignKey → mgr.foreignKeyViolation? c v = none) ∧
      (c.kind = .check → ∀ expr, mgr.checkExprs c.name = some expr →
        CheckPredicate.evalCheckPredicate expr c.column v) := by
  unfold violationOf
  cases hk : c.kind with
  | check => cases mgr.checkExprs c.name <;> simp [ConstraintKind.isKey]
  | _ => simp [ConstraintKind.isKey]

variable [ColumnOrder] {validate : String → RowData → Except String Unit}

theorem insertRefusal_eq_none_iff (htab : tableOf data = t) (ht : t ≠ "") :
    insertRefusal validate mgr data = none ↔
      validate t data = .ok () ∧ ∀ c ∈ mgr.constraints, c.table = t → Meets mgr data c := by
  have hmis : missingColumn mgr t data = none ↔ ∀ c ∈ mgr.constraints, c.table = t →
      c.kind = .notNull ∨ c.kind = .primaryKey → (data.lookup c.column).getD "" ≠ "" := by
    rw [missingColumn, List.find?_eq_none, notNullColumns, List.forall_mem_map]
    simp only [mem_filter, Bool.and_eq_true, Bool.or_eq_true, decide_eq_true_eq, and_imp]
  have hvio : rowViolation mgr t none data = none ↔ ∀ c ∈ mgr.constraints, c.table = t →
      ¬startsWith c.column "__" → ∀ v, data.lookup c.column = some v →
        mgr.violationOf c.column (some v) c = none := by
    rw [rowViolation, findSome?_eq_none_iff]
    simp only [bind_none, reduceCtorEq, if_false, ConstraintManager.validate,
      findSome?_eq_none_iff, mem_constraintsOn, mem_userColumns]
    constructor
    · intro h c hc hct hcol v hv
      exact h (c.column, v) ⟨hv, hcol⟩ c ⟨hc, hct, rfl⟩
    · rintro h ⟨column, v⟩ ⟨hv, hcol⟩ c ⟨hc, hct, rfl⟩
      exact h c hc hct hcol v hv
  rw [insertRefusal, htab, if_neg ht]
  cases validate t data with
  | error msg => simp
  | ok u =>
    dsimp only
    cases hcol : missingColumn mgr t data with
    | some column =>
      simp only [reduceCtorEq, true_and, false_iff]
      intro h
      have hnone := hmis.mpr fun c hc hct => (h c hc hct).present
      rw [hnone] at hcol
      cases hcol
    | none =>
      rw [map_eq_none_iff, hvio]
      simp only [true_and]
      constructor
      · exact fun h c hc hct => ⟨hmis.mp hcol c hc hct, h c hc hct⟩
      · exact fun h c hc hct => (h c hc hct).value

end

section

variable [ColumnOrder] {mgr : ConstraintManager} {c : ConstraintDescriptor} {t v : String}

theorem constraints_recordRows : (recordRows mgr datas).constraints = mgr.constraints := by
  induction datas generalizing mgr with
  | nil => rfl
  | cons data datas ih => exact (ih.trans (constraints_recordRow mgr data))

theorem checkExprs_recordRows : (recordRows mgr datas).checkExprs = mgr.checkExprs := by
  induction datas generalizing mgr with
  | nil => rfl
  | cons data datas ih =>
    refine ih.trans ?_
    rw [recordRow]
    split_ifs
    · rfl
    · generalize userColumns data = columns
      induction columns generalizing mgr with
      | nil => rfl
      | cons column columns ih' => exact ih'

theorem mem_seen_recordRows (hc : c ∈ mgr.constraints) (hkey : c.kind.isKey) (ht : t ≠ "")
    {datas : List RowData} (hdat : ∀ data ∈ datas, tableOf data = t) :
    v ∈ (recordRows mgr datas).seen c.name ↔ v ∈ mgr.seen c.name ∨
      c.table = t ∧ ∃ data ∈ datas, data.lookup c.column = some v ∧ ¬startsWith c.column "__" := by
  induction datas generalizing mgr with
  | nil => simp
  | cons data datas ih =>
    rw [forall_mem_cons] at hdat
    have hc' : c ∈ (recordRow mgr data).constraints := (constraints_recordRow mgr data).symm ▸ hc
    have hrec : recordRow mgr data = (userColumns data).foldl
        (fun mgr col => mgr.recordCommittedValue t col.1 col.2) mgr := by
      rw [recordRow, hdat.1, if_neg ht]
    rw [recordRows, foldl_cons, ← recordRows, ih hc' hdat.2, hrec,
      mem_seen_foldl_recordCommittedValue hc hkey, mem_userColumns]
    simp only [mem_cons, exists_eq_or_imp]
    tauto

variable [CheckPredicate] {validate : String → RowData → Except String Unit}

def Accepts (validate : String → RowData → Except String Unit) (mgr : ConstraintManager)
    (rows : List InsertRow) : Prop :=
  acceptedRows (insertRefusal validate) mgr rows = rows

theorem accepts_iff :
    Accepts validate mgr rows ↔ ∀ before row after, rows = before ++ row :: after →
      insertRefusal validate (recordRows mgr (before.map InsertRow.data)) row.data = none := by
  rw [Accepts]
  induction rows generalizing mgr with
  | nil => simp [acceptedRows]
  | cons row rows ih =>
    rw [acceptedRows]
    constructor
    · intro h before row' after hrows
      split_ifs at h with href
      cases before with
      | nil =>
        obtain ⟨rfl, -⟩ := cons.inj hrows
        simpa using href
      | cons first before =>
        obtain ⟨rfl, htail⟩ := cons.inj hrows
        exact ih.mp (cons.inj h).2 before row' after htail
    · intro h
      have hfst := h [] row rows rfl
      have htail := ih.mpr fun before row' after hrows =>
        h (row :: before) row' after (congrArg (row :: ·) hrows)
      rw [map_nil, recordRows_nil] at hfst
      rw [hfst, isSome_none, if_neg Bool.false_ne_true, htail]

theorem accepts_iff_meets (ht : t ≠ "") (hrows : ∀ row ∈ rows, tableOf row.data = t) :
    Accepts validate mgr rows ↔ ∀ before row after, rows = before ++ row :: after →
      validate t row.data = .ok () ∧ ∀ c ∈ mgr.constraints, c.table = t →
        Meets (recordRows mgr (before.map InsertRow.data)) row.data c := by
  rw [accepts_iff]
  refine forall₄_congr fun before row after heq => ?_
  have hrow : row ∈ rows := heq ▸ mem_append_right before mem_cons_self
  rw [insertRefusal_eq_none_iff (hrows row hrow) ht, constraints_recordRows]

end

/-- **A row of an `INSERT`**: its columns are in lower case. -/
structure IsRowOf (t : String) (data : RowData) : Prop where
  table : data.lookup "__table" = some t
  lower : ∀ column ∈ data, toAsciiLowercase column = column

theorem IsRowOf.tableOf_eq {t : String} {data : RowData} (h : IsRowOf t data) :
    tableOf data = t := by
  rw [tableOf, h.table, getD_some]

def IsChecked (column : String) : Prop :=
  toAsciiLowercase column = column ∧ ¬startsWith column "__"

theorem IsRowOf.isChecked {t v : String} {data : RowData} (h : IsRowOf t data)
    (hcol : ¬startsWith column "__") (hv : data.lookup column = some v) : IsChecked column :=
  ⟨h.lower column (Finmap.mem_of_lookup_eq_some hv), hcol⟩

section

variable {mgr : ConstraintManager} {t : String} {pcs : List ParsedConstraint}
  {pc : ParsedConstraint} {offered : ParsedConstraint → Prop} {before : List RowData}
  {data : RowData} {c : ConstraintDescriptor} {validate : String → RowData → Except String Unit}

theorem mem_declare_withoutTable
    (hfree : c.name ∉ mgr.names) (hc : c ∈ (mgr.declare pcs).constraints) :
    c ∈ ((mgr.withoutTable t).declare pcs).constraints := by
  rcases mem_declare_iff.mp hc with hold | ⟨-, hnew⟩
  · exact absurd (mem_names hold) hfree
  · exact mem_declare_iff.mpr
      (Or.inr ⟨notMem_names_withoutTable hfree, hnew⟩)

theorem mem_declare_of_table_ne (hpcs : ∀ pc ∈ pcs, pc.table = t) (hne : c.table ≠ t) :
    c ∈ (mgr.declare pcs).constraints ↔ c ∈ mgr.constraints := by
  rw [mem_declare_iff, or_iff_left]
  rintro ⟨-, pc, hfind, rfl⟩
  rw [pc.table_descriptor] at hne
  exact hne (hpcs pc (mem_of_find?_eq_some hfind))

theorem eq_of_mem_declare_singleton (hct : c.table = t)
    (hc : c ∈ ((mgr.withoutTable t).declare [pc]).constraints) : c = pc.descriptor := by
  rcases mem_declare_iff.mp hc with hold | ⟨-, pc', hfind, rfl⟩
  · exact absurd hct (mem_withoutTable_iff.mp hold).2
  · rw [mem_singleton.mp (mem_of_find?_eq_some hfind)]

theorem mem_declare_singleton (hfree : pc.name ∉ mgr.names) :
    pc.descriptor ∈ (mgr.declare [pc]).constraints := by
  refine mem_declare_iff.mpr (Or.inr ⟨?_, pc, ?_, rfl⟩)
  · rwa [pc.name_descriptor]
  · simp

def namedRow (t : String) : RowData := Finmap.insert "__table" t ∅

theorem isRowOf_namedRow (t : String) : IsRowOf t (namedRow t) where
  table := Finmap.lookup_insert ∅
  lower column hcol := by
    rcases Finmap.mem_insert.mp hcol with rfl | h
    · decide +kernel
    · exact absurd h (Finmap.notMem_empty)

theorem IsRowOf.insert (h : IsRowOf t data) (hne : column ≠ "__table")
    (hlow : toAsciiLowercase column = column) (v : String) :
    IsRowOf t (Finmap.insert column v data) where
  table := (Finmap.lookup_insert_of_ne data hne.symm).trans h.table
  lower column' hcol' := by
    rcases Finmap.mem_insert.mp hcol' with rfl | h'
    · exact hlow
    · exact h.lower column' h'

theorem IsChecked.ne_table (h : IsChecked column) : column ≠ "__table" := by
  rintro rfl
  exact h.2 (by decide)

theorem exists_unseen (mgr : ConstraintManager) (ks : List ConstraintDescriptor) :
    ∃ v, ∀ k ∈ ks, v ∉ mgr.seen k.name := by
  obtain ⟨v, hv⟩ := Infinite.exists_notMem_finset (ks.toFinset.biUnion fun k => mgr.seen k.name)
  refine ⟨v, fun k hk hseen => hv ?_⟩
  exact Finset.mem_biUnion.mpr ⟨k, mem_toFinset.mpr hk, hseen⟩

variable [ColumnOrder]

theorem parents_recordRows (rt refColumn : String) :
    (recordRows mgr datas).parents rt refColumn = mgr.parents rt refColumn := by
  rw [parents, constraints_recordRows, ← parents]

theorem mem_seen_declared {k : ConstraintDescriptor} {rt rc v : String} (ht : t ≠ "")
    (hbef : ∀ data ∈ before, tableOf data = t)
    (hk : k ∈ (mgr.declare pcs).parents rt rc) :
    v ∈ (recordRows (mgr.declare pcs) before).seen k.name ↔
      k ∈ mgr.constraints ∧ v ∈ mgr.seen k.name ∨ rt = t ∧
        ∃ data ∈ before, data.lookup rc = some v ∧ ¬startsWith rc "__" := by
  obtain ⟨hmem, hkey, rfl, rfl⟩ := mem_parents.mp hk
  rw [mem_seen_recordRows hmem hkey ht hbef, seen_declare hmem hkey]
  rcases mem_declare_iff.mp hmem with hold | ⟨hfree, -⟩
  · rw [if_pos (mem_names hold)]
    simp only [hold, true_and]
  · have hnew : k ∉ mgr.constraints := fun hold => hfree (mem_names hold)
    rw [if_neg hfree]
    simp only [hnew, Finset.notMem_empty, false_and]

theorem foreignKey_of_withoutTable {v : String} (ht : t ≠ "")
    (hbef : ∀ data ∈ before, tableOf data = t) (hpcs : ∀ pc ∈ pcs, pc.table = t)
    (href : ∀ refColumn, c.refTable = some t → c.refColumn = some refColumn →
      mgr.parents t refColumn = [])
    (h : (recordRows ((mgr.withoutTable t).declare pcs) before).foreignKeyViolation? c v = none) :
    (recordRows (mgr.declare pcs) before).foreignKeyViolation? c v = none := by
  rw [foreignKeyViolation?_eq_none_iff] at h ⊢
  intro refTable refColumn htab hcol
  have hfnd := h refTable refColumn htab hcol
  simp only [parents_recordRows] at hfnd ⊢
  by_cases hself : refTable = t
  · -- the keys of the table are all new, and have seen the rows
    subst hself
    refine or_iff_not_imp_left.mpr fun hne => ?_
    obtain ⟨k, hk⟩ := exists_mem_of_ne_nil _ hne
    have hk' : k ∈ ((mgr.withoutTable refTable).declare pcs).parents refTable refColumn := by
      obtain ⟨hmem, hpar⟩ := mem_parents.mp hk
      rcases mem_declare_iff.mp hmem with hold | ⟨hfree, -⟩
      · have hpar := mem_parents.mpr ⟨hold, hpar⟩
        rw [href refColumn htab hcol] at hpar
        cases hpar
      · exact mem_parents.mpr ⟨mem_declare_withoutTable hfree hmem, hpar⟩
    obtain ⟨k', hmem', hseen⟩ := hfnd.resolve_left (ne_nil_of_mem hk')
    rw [mem_seen_declared ht hbef hmem'] at hseen
    refine ⟨k, hk, (mem_seen_declared ht hbef hk).mpr (Or.inr (hseen.resolve_left ?_))⟩
    exact fun hold => (mem_withoutTable_iff.mp hold.1).2 (mem_parents.mp hmem').2.2.1
  · -- the keys of other tables are the old ones, and have seen the same
    have hsame : ∀ k, k ∈ (mgr.declare pcs).parents refTable refColumn ↔
        k ∈ ((mgr.withoutTable t).declare pcs).parents refTable refColumn := by
      intro k
      rw [mem_parents, mem_parents]
      refine and_congr_left fun hpar => ?_
      have hne : k.table ≠ t := hpar.2.1 ▸ hself
      rw [mem_declare_of_table_ne hpcs hne, mem_declare_of_table_ne hpcs hne, mem_withoutTable_iff,
        and_iff_left hne]
    rcases hfnd with hnil | ⟨k, hk, hseen⟩
    · refine Or.inl (eq_nil_iff_forall_not_mem.mpr fun k hk => ?_)
      rw [hsame, hnil] at hk
      cases hk
    · have hk' := (hsame k).mpr hk
      rw [mem_seen_declared ht hbef hk] at hseen
      obtain ⟨hkept, hseen⟩ := hseen.resolve_right fun hrow => hself hrow.1
      obtain ⟨hold, hne⟩ := mem_withoutTable_iff.mp hkept
      rw [seen, withoutTable] at hseen
      dsimp only at hseen
      rw [if_neg (not_any_of_table_ne hold hne), ← seen] at hseen
      exact Or.inr ⟨k, hk', (mem_seen_declared ht hbef hk').mpr (Or.inl ⟨hold, hseen⟩)⟩

variable [CheckPredicate] {row : InsertRow}

def Idle (mgr : ConstraintManager) (c : ConstraintDescriptor) : Prop :=
  match c.kind with
  | .notNull | .primaryKey => c.column = "__table"
  | .unique => ¬IsChecked c.column
  | .check => IsChecked c.column → ∀ expr, mgr.checkExprs c.name = some expr →
      ∀ v, CheckPredicate.evalCheckPredicate expr c.column v
  | .foreignKey => IsChecked c.column → ∀ refTable refColumn, c.refTable = some refTable →
      c.refColumn = some refColumn → mgr.parents refTable refColumn = []

/-- **The constraints of the table are idle.** -/
structure AllIdle (mgr : ConstraintManager) (t : String) (offered : ParsedConstraint → Prop) :
    Prop where
  idle : ∀ c ∈ mgr.constraints, c.table = t → Idle mgr c
  keys : ∀ pc, offered pc → pc.name ∉ mgr.names → pc.kind.isKey →
    (pc.kind = .primaryKey → toAsciiLowercase pc.column = pc.column) →
      ∀ f ∈ mgr.constraints, f.table = t → f.kind = .foreignKey → IsChecked f.column →
        f.refTable = some t → f.refColumn ≠ some pc.column
  references : ∀ pc, offered pc → pc.name ∉ mgr.names → pc.kind = .foreignKey →
    IsChecked pc.column → ∀ k ∈ mgr.constraints, k.table = t → k.kind.isKey →
      pc.refTable = some t → pc.refColumn ≠ some k.column

theorem meets_of_idle (ht : t ≠ "") (hdata : IsRowOf t data) (hc : c ∈ mgr.constraints)
    (hidle : Idle mgr c)
    (hpar : c.kind = .foreignKey → IsChecked c.column → ∀ refTable refColumn,
      c.refTable = some refTable → c.refColumn = some refColumn →
        (mgr.declare pcs).parents refTable refColumn = []) :
    Meets (recordRows (mgr.declare pcs) before) data c := by
  rw [Idle] at hidle
  refine ⟨?_, fun hcol v hv => ?_⟩
  · rintro (hk | hk) <;> rw [hk] at hidle
    all_goals
      rw [hidle, hdata.table]
      exact ht
  · have hchk := hdata.isChecked hcol hv
    rw [violationOf_eq_none_iff]
    refine ⟨fun hkey => ?_, fun hk => ?_, fun hk expr hexpr => ?_⟩
    · cases hk : c.kind <;> rw [hk] at hkey hidle
      case primaryKey =>
        rw [hidle] at hcol
        exact absurd (by decide) hcol
      case unique => exact absurd hchk hidle
      all_goals cases hkey
    · rw [foreignKeyViolation?_eq_none_iff]
      intro refTable refColumn htab hcol
      rw [parents_recordRows]
      exact Or.inl (hpar hk hchk refTable refColumn htab hcol)
    · rw [hk] at hidle
      have hdec : c ∈ (mgr.declare pcs).constraints := mem_declare_iff.mpr (Or.inl hc)
      rw [checkExprs_recordRows, checkExprs_declare hdec hk, if_pos (mem_names hc)] at hexpr
      exact hidle hchk expr hexpr v

theorem meets_of_new (ht : t ≠ "") (hdata : IsRowOf t data)
    (hbef : ∀ data ∈ before, tableOf data = t) (hpcs : ∀ pc ∈ pcs, pc.table = t)
    (hfree : c.name ∉ mgr.names) (hc : c ∈ (mgr.declare pcs).constraints)
    (href : c.kind = .foreignKey → IsChecked c.column → ∀ refColumn,
      c.refTable = some t → c.refColumn = some refColumn → mgr.parents t refColumn = [])
    (h : Meets (recordRows ((mgr.withoutTable t).declare pcs) before) data c) :
    Meets (recordRows (mgr.declare pcs) before) data c := by
  have hc' := mem_declare_withoutTable (t := t) hfree hc
  have hfree' : c.name ∉ (mgr.withoutTable t).names := notMem_names_withoutTable hfree
  refine ⟨h.present, fun hcol v hv => ?_⟩
  obtain ⟨hkeys, hfor, hche⟩ := violationOf_eq_none_iff.mp (h.value hcol v hv)
  rw [violationOf_eq_none_iff]
  refine ⟨fun hkey => ?_, fun hk => ?_, fun hk => ?_⟩
  · have hseen := hkeys hkey
    rw [mem_seen_recordRows hc' hkey ht hbef, seen_declare hc' hkey, if_neg hfree'] at hseen
    rwa [mem_seen_recordRows hc hkey ht hbef, seen_declare hc hkey, if_neg hfree]
  · exact foreignKey_of_withoutTable ht hbef hpcs (href hk (hdata.isChecked hcol hv))
      (hfor hk)
  · have hexp := hche hk
    rw [checkExprs_recordRows, checkExprs_declare hc' hk, if_neg hfree'] at hexp
    rwa [checkExprs_recordRows, checkExprs_declare hc hk, if_neg hfree]

theorem AllIdle.accepts (h : AllIdle mgr t offered) (ht : t ≠ "")
    (hpcs : ∀ pc ∈ pcs, pc.table = t ∧ offered pc) (hrows : ∀ row ∈ rows, IsRowOf t row.data)
    (hacc : Accepts validate ((mgr.withoutTable t).declare pcs) rows) :
    Accepts validate (mgr.declare pcs) rows := by
  have htabl : ∀ row ∈ rows, tableOf row.data = t := fun row hrow => (hrows row hrow).tableOf_eq
  rw [accepts_iff_meets ht htabl] at hacc ⊢
  intro before row after heq
  obtain ⟨hvld, hmee⟩ := hacc before row after heq
  have hdata : IsRowOf t row.data := hrows row (heq ▸ mem_append_right before mem_cons_self)
  have hbef : ∀ data ∈ before.map InsertRow.data, tableOf data = t := by
    rw [List.forall_mem_map]
    exact fun row' hrow' => htabl row' (heq ▸ mem_append_left _ hrow')
  refine ⟨hvld, fun c hc hct => ?_⟩
  rcases mem_declare_iff.mp hc with hold | ⟨hfree, pc, hfind, hpc⟩
  · have hidle := h.idle c hold hct
    refine meets_of_idle ht hdata hold hidle fun hk hchk refTable refColumn htab hcol => ?_
    rw [Idle, hk] at hidle
    have hnone := hidle hchk refTable refColumn htab hcol
    refine eq_nil_iff_forall_not_mem.mpr fun k hk' => ?_
    obtain ⟨hmem, hkey, hkta, hkco⟩ := mem_parents.mp hk'
    rcases mem_declare_iff.mp hmem with hold' | ⟨hfree, pc, hfind, rfl⟩
    · have hpar := mem_parents.mpr ⟨hold', hkey, hkta, hkco⟩
      rw [hnone] at hpar
      cases hpar
    · -- a new key that the old foreign key refers to
      have hpc := hpcs pc (mem_of_find?_eq_some hfind)
      rw [pc.name_descriptor] at hfree
      rw [pc.table_descriptor, hpc.1] at hkta
      rw [pc.kind_descriptor] at hkey
      have hne : pc.kind ≠ .check := by
        intro he
        rw [he] at hkey
        cases hkey
      rw [pc.descriptor_eq hne] at hmem hkco
      refine h.keys pc hpc.2 hfree hkey (fun hpri => ?_) c hold hct hk hchk
        (hkta ▸ htab) (hkco ▸ hcol)
      -- the row has the column of a primary key
      have hpre := (hmee _ (mem_declare_withoutTable hfree hmem) hpc.1).present
        (Or.inr hpri)
      cases hlk : row.data.lookup pc.column with
      | none => exact absurd (congrArg (·.getD "") hlk) hpre
      | some v => exact hdata.lower _ (Finmap.mem_of_lookup_eq_some hlk)
  · refine meets_of_new ht hdata hbef (fun pc hpc => (hpcs pc hpc).1) hfree hc ?_
      (hmee c (mem_declare_withoutTable hfree hc) hct)
    intro hk hchk refColumn htab hcol
    have hmem := hpcs pc (mem_of_find?_eq_some hfind)
    have hne : pc.kind ≠ .check := by
      rw [← pc.kind_descriptor, hpc, hk]
      exact nofun
    rw [pc.descriptor_eq hne] at hpc
    subst hpc
    refine eq_nil_iff_forall_not_mem.mpr fun k hk' => ?_
    obtain ⟨hold, hkey, hkta, rfl⟩ := mem_parents.mp hk'
    exact h.references pc hmem.2 hfree hk hchk k hold hkta hkey htab hcol

theorem accepts_singleton_iff (ht : t ≠ "") (hrow : IsRowOf t row.data) :
    Accepts validate mgr [row] ↔
      validate t row.data = .ok () ∧ ∀ c ∈ mgr.constraints, c.table = t → Meets mgr row.data c := by
  rw [← insertRefusal_eq_none_iff hrow.tableOf_eq ht, Accepts, acceptedRows]
  cases insertRefusal validate mgr row.data <;> simp [acceptedRows]

theorem idle_of_accepts (ht : t ≠ "")
    (hall : ∀ rows : List InsertRow, (∀ row ∈ rows, IsRowOf t row.data) → Accepts validate mgr rows)
    (hc : c ∈ mgr.constraints) (hct : c.table = t) : Idle mgr c := by
  have hmee {data : RowData} (hdata : IsRowOf t data) : Meets mgr data c :=
    ((accepts_singleton_iff ht hdata).mp (hall [⟨"", data, ""⟩] (by simpa using hdata))).2 c hc
      hct
  have hcell (v : String) (h : IsChecked c.column) :
      IsRowOf t (Finmap.insert c.column v (namedRow t)) :=
    (isRowOf_namedRow t).insert h.ne_table h.1 v
  have hval (v : String) (h : IsChecked c.column) :=
    violationOf_eq_none_iff.mp ((hmee (hcell v h)).value h.2 v (Finmap.lookup_insert _))
  have hpre (h : c.kind = .notNull ∨ c.kind = .primaryKey) : c.column = "__table" := by
    by_contra hne
    refine (hmee (isRowOf_namedRow t)).present h ?_
    rw [namedRow, Finmap.lookup_insert_of_ne _ hne, Finmap.lookup_empty]
    rfl
  rw [Idle]
  cases hk : c.kind with
  | notNull => exact hpre (Or.inl hk)
  | primaryKey => exact hpre (Or.inr hk)
  | unique =>
    -- the same row twice
    intro hchk
    have hdata := hcell "" hchk
    have hlk := Finmap.lookup_insert (a := c.column) (b := "") (namedRow t)
    generalize Finmap.insert c.column "" (namedRow t) = data at hdata hlk
    have hacc := hall [⟨"", data, ""⟩, ⟨"", data, ""⟩] (by simpa using hdata)
    rw [accepts_iff_meets ht (by simpa using hdata.tableOf_eq)] at hacc
    have htwi := (hacc [⟨"", data, ""⟩] ⟨"", data, ""⟩ [] rfl).2 c hc hct
    have hkey : c.kind.isKey := by rw [hk]; rfl
    refine (violationOf_eq_none_iff.mp (htwi.value hchk.2 "" hlk)).1 hkey ?_
    rw [map_singleton, mem_seen_recordRows hc hkey ht (by simpa using hdata.tableOf_eq)]
    exact Or.inr ⟨hct, data, mem_singleton_self data, hlk, hchk.2⟩
  | check => exact fun hchk expr hexpr v => (hval v hchk).2.2 hk expr hexpr
  | foreignKey =>
    intro hchk refTable refColumn htab hcol
    obtain ⟨v, hv⟩ := exists_unseen mgr (mgr.parents refTable refColumn)
    rcases foreignKeyViolation?_eq_none_iff.mp ((hval v hchk).2.1 hk) refTable refColumn
      htab hcol with hnil | ⟨p, hp, hseen⟩
    · exact hnil
    · exact absurd hseen (hv p hp)

theorem accepts_declare_singleton {pc : ParsedConstraint} (ht : t ≠ "")
    (hrow : IsRowOf t row.data) (hvld : validate t row.data = .ok ())
    (hmee : Meets ((mgr.withoutTable t).declare [pc]) row.data pc.descriptor) :
    Accepts validate ((mgr.withoutTable t).declare [pc]) [row] := by
  rw [accepts_singleton_iff ht hrow]
  exact ⟨hvld, fun c hc hct => eq_of_mem_declare_singleton hct hc ▸ hmee⟩

theorem exists_seen_of_accepts {rt rc v : String} {p : ConstraintDescriptor}
    (ht : t ≠ "") (hrow : IsRowOf t row.data) (hacc : Accepts validate (mgr.declare pcs) [row])
    (hc : c ∈ (mgr.declare pcs).constraints) (hct : c.table = t) (hk : c.kind = .foreignKey)
    (hchk : IsChecked c.column) (hlk : row.data.lookup c.column = some v)
    (htab : c.refTable = some rt) (hcol : c.refColumn = some rc)
    (hp : p ∈ (mgr.declare pcs).parents rt rc) :
    ∃ k ∈ mgr.parents rt rc, v ∈ mgr.seen k.name := by
  have hmee := ((accepts_singleton_iff ht hrow).mp hacc).2 c hc hct
  have hfnd := (violationOf_eq_none_iff.mp (hmee.value hchk.2 v hlk)).2.1 hk
  rcases foreignKeyViolation?_eq_none_iff.mp hfnd rt rc htab hcol with
    hnil | ⟨k, hk, hseen⟩
  · rw [hnil] at hp
    cases hp
  · have hno : ∀ data ∈ ([] : List RowData), tableOf data = t := by simp
    obtain ⟨hold, hseen⟩ := ((mem_seen_declared ht hno hk).mp hseen).resolve_right (by simp)
    exact ⟨k, mem_parents.mpr ⟨hold, (mem_parents.mp hk).2⟩, hseen⟩

theorem not_refers_to_new_key (ht : t ≠ "") (hpc : pc.table = t)
    (hall : ∀ row : InsertRow, IsRowOf t row.data →
      Accepts validate ((mgr.withoutTable t).declare [pc]) [row] →
        Accepts validate (mgr.declare [pc]) [row]) (hvld : ∀ data, validate t data = .ok ())
    (hfree : pc.name ∉ mgr.names) (hkey : pc.kind.isKey)
    (hlow : pc.kind = .primaryKey → toAsciiLowercase pc.column = pc.column)
    (hc : c ∈ mgr.constraints) (hct : c.table = t) (hk : c.kind = .foreignKey)
    (hidle : Idle mgr c) (hchk : IsChecked c.column) (htab : c.refTable = some t) :
    c.refColumn ≠ some pc.column := by
  intro hcol
  rw [Idle, hk] at hidle
  have hnone := hidle hchk t pc.column htab hcol
  have hne : pc.kind ≠ .check := by
    intro he
    rw [he] at hkey
    cases hkey
  have hdesc := pc.descriptor_eq hne
  -- a row with a value for the foreign key, and for the key if it must not be missing
  obtain ⟨data, hrow, hlk, hpri⟩ : ∃ data, IsRowOf t data ∧
      data.lookup c.column = some "x" ∧
      (pc.kind = .primaryKey → (data.lookup pc.column).getD "" ≠ "") := by
    by_cases hcase : pc.kind = .primaryKey ∧ pc.column ≠ "__table"
    · have hkeye := (isRowOf_namedRow t).insert hcase.2 (hlow hcase.1) "x"
      refine ⟨_, hkeye.insert hchk.ne_table hchk.1 "x", Finmap.lookup_insert _, fun _ => ?_⟩
      by_cases hsame : pc.column = c.column
      · rw [hsame, Finmap.lookup_insert]
        decide
      · rw [Finmap.lookup_insert_of_ne _ hsame, Finmap.lookup_insert]
        decide
    · refine ⟨_, (isRowOf_namedRow t).insert hchk.ne_table hchk.1 "x",
        Finmap.lookup_insert _, fun hpri => ?_⟩
      have hname : pc.column = "__table" := not_not.mp fun hne => hcase ⟨hpri, hne⟩
      rw [hname, Finmap.lookup_insert_of_ne _ hchk.ne_table.symm, (isRowOf_namedRow t).table]
      exact ht
  have hmee : Meets ((mgr.withoutTable t).declare [pc]) data pc.descriptor := by
    rw [hdesc]
    refine ⟨fun hkind => hpri (hkind.resolve_left fun he => ?_), fun _ v _ =>
      violationOf_eq_none_iff.mpr ⟨fun _ => ?_, fun he => ?_, fun he => absurd he hne⟩⟩
    · rw [he] at hkey
      cases hkey
    · have hname : pc.name ∉ (mgr.withoutTable t).names := notMem_names_withoutTable hfree
      have hnew := mem_declare_singleton hname
      rw [hdesc] at hnew
      rw [seen_declare hnew hkey, if_neg hname]
      exact Finset.notMem_empty v
    · rw [he] at hkey
      cases hkey
  have hacc := hall ⟨"", data, ""⟩ hrow
    (accepts_declare_singleton ht hrow (hvld data) hmee)
  have hnew := mem_declare_singleton hfree
  rw [hdesc] at hnew
  obtain ⟨k, hold, -⟩ := exists_seen_of_accepts ht hrow hacc (mem_declare_iff.mpr (Or.inl hc))
    hct hk hchk hlk htab hcol (mem_parents.mpr ⟨hnew, hkey, hpc, rfl⟩)
  rw [hnone] at hold
  cases hold

theorem not_refers_to_old_key (ht : t ≠ "") (hpc : pc.table = t)
    (hall : ∀ row : InsertRow, IsRowOf t row.data →
      Accepts validate ((mgr.withoutTable t).declare [pc]) [row] →
        Accepts validate (mgr.declare [pc]) [row]) (hvld : ∀ data, validate t data = .ok ())
    (hfree : pc.name ∉ mgr.names) (hk : pc.kind = .foreignKey) (hchk : IsChecked pc.column)
    (hc : c ∈ mgr.constraints) (hct : c.table = t) (hkey : c.kind.isKey)
    (htab : pc.refTable = some t) : pc.refColumn ≠ some c.column := by
  intro hcol
  have hne : pc.kind ≠ .check := by
    rw [hk]
    exact nofun
  have hdesc := pc.descriptor_eq hne
  obtain ⟨v, hv⟩ := exists_unseen mgr (mgr.parents t c.column)
  have hrow := (isRowOf_namedRow t).insert hchk.ne_table hchk.1 v
  have hlk := Finmap.lookup_insert (a := pc.column) (b := v) (namedRow t)
  generalize Finmap.insert pc.column v (namedRow t) = data at hrow hlk
  have hmee : Meets ((mgr.withoutTable t).declare [pc]) data pc.descriptor := by
    rw [hdesc]
    refine ⟨fun hkind => ?_, fun _ v _ =>
      violationOf_eq_none_iff.mpr ⟨?_, fun _ => ?_, fun he => absurd he hne⟩⟩
    · rw [hk] at hkind
      rcases hkind with he | he <;> cases he
    · rw [hk]
      exact nofun
    · -- the table has no key
      rw [foreignKeyViolation?_eq_none_iff]
      intro refTable refColumn htab' hcol'
      obtain rfl : t = refTable := some.inj (htab.symm.trans htab')
      refine Or.inl (eq_nil_iff_forall_not_mem.mpr fun k hmem => ?_)
      obtain ⟨hdec, hkkey, hkta, -⟩ := mem_parents.mp hmem
      rw [eq_of_mem_declare_singleton hkta hdec, pc.kind_descriptor, hk] at hkkey
      cases hkkey
  have hacc := hall ⟨"", data, ""⟩ hrow
    (accepts_declare_singleton ht hrow (hvld data) hmee)
  have hnew := mem_declare_singleton hfree
  rw [hdesc] at hnew
  obtain ⟨k, hold, hseen⟩ := exists_seen_of_accepts ht hrow hacc hnew hpc hk hchk hlk
    htab hcol (mem_parents.mpr ⟨mem_declare_iff.mpr (Or.inl hc), hkey, hct, rfl⟩)
  exact hv k hold hseen

end

section

variable [CheckPredicate] [ColumnOrder] {mgr : ConstraintManager} {t : String}

/-- **Statements that can declare the table**, with no constraint or one alone. -/
structure Creations (t : String) (creates : String → Prop)
    (declared : String → List ParsedConstraint)
    (validate : String → String → RowData → Except String Unit) : Prop where
  table_eq : ∀ create, creates create → ∀ pc ∈ declared create, pc.table = t
  none : ∃ create, creates create ∧ declared create = [] ∧
    ∀ data, validate create t data = .ok ()
  one : ∀ create, creates create → ∀ pc ∈ declared create, ∃ create', creates create' ∧
    declared create' = [pc] ∧ ∀ data, validate create' t data = .ok ()

theorem redeclared_iff (ht : t ≠ "") {creates : String → Prop}
    {declared : String → List ParsedConstraint}
    {val : String → String → RowData → Except String Unit}
    (cs : Creations t creates declared val) :
    (∀ create, creates create → ∀ rows : List InsertRow, (∀ row ∈ rows, IsRowOf t row.data) →
      Accepts (val create) ((mgr.withoutTable t).declare (declared create)) rows →
        Accepts (val create) (mgr.declare (declared create)) rows) ↔
      AllIdle mgr t fun pc => ∃ create, creates create ∧ pc ∈ declared create := by
  constructor
  · intro h
    have hidle : ∀ c ∈ mgr.constraints, c.table = t → Idle mgr c := by
      obtain ⟨create, hcr, hnone, hvld⟩ := cs.none
      have hcre := h create hcr
      rw [hnone] at hcre
      intro c hc hct
      refine idle_of_accepts ht (fun rows hrows => hcre rows hrows ?_) hc hct
      rw [accepts_iff_meets ht fun row hrow => (hrows row hrow).tableOf_eq]
      refine fun _ row _ _ => ⟨hvld row.data, fun c' hc' hct' => ?_⟩
      exact absurd hct' (mem_withoutTable_iff.mp hc').2
    have hone {pc : ParsedConstraint} (hpc : ∃ create, creates create ∧ pc ∈ declared create) :
        ∃ create, pc.table = t ∧ (∀ data, val create t data = .ok ()) ∧
          ∀ row : InsertRow, IsRowOf t row.data →
            Accepts (val create) ((mgr.withoutTable t).declare [pc]) [row] →
              Accepts (val create) (mgr.declare [pc]) [row] := by
      obtain ⟨create, hcr, hmem⟩ := hpc
      obtain ⟨create', hcr', hdec, hvld⟩ := cs.one create hcr pc hmem
      refine ⟨create', cs.table_eq create hcr pc hmem, hvld, fun row hrow => ?_⟩
      have hcre := h create' hcr' [row] (by simpa using hrow)
      rwa [hdec] at hcre
    refine ⟨hidle, ?_, ?_⟩
    · intro pc hpc hfree hkey hlow f hf hfta hfk hchk
      obtain ⟨create, htab, hvld, hrows⟩ := hone hpc
      exact not_refers_to_new_key ht htab hrows hvld hfree hkey hlow hf hfta hfk
        (hidle f hf hfta) hchk
    · intro pc hpc hfree hk hchk k hmem hkta hkey
      obtain ⟨create, htab, hvld, hrows⟩ := hone hpc
      exact not_refers_to_old_key ht htab hrows hvld hfree hk hchk hmem hkta hkey
  · intro h create hcr rows hrows
    exact h.accepts ht
      (fun pc hpc => ⟨cs.table_eq create hcr pc hpc, create, hcr, hpc⟩) hrows

end

end VngDatabase.Dml
