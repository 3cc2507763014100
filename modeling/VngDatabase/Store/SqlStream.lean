import VngDatabase.Bytes
import VngDatabase.OrderedMap

/-!
# The log of statements in memory and in RocksDB

Engines keep two logs of SQL statements (`crates/voltnuerongrid-store/src/lib.rs`,
`rocksdb_engine.rs`): vectors in memory, and in RocksDB statements under a tag and a number, with
the last number of each log kept twice.
-/

namespace VngDatabase

open List Option Function

inductive SqlWalKind
  | ddl
  | dml
  deriving DecidableEq

inductive SqlCall
  | append (kind : SqlWalKind) (sql : String)
  | appendBatch (entries : List (SqlWalKind × String))
  | clear (kind : SqlWalKind)
  | reopen

/-! ### In memory -/

def vecCapacity : ℕ := (2 ^ 63 - 1) / 24

structure MemorySql where
  sqlStreams : SqlWalKind → List String := fun _ => []

namespace MemorySql

/-- Unless its vector is full. -/
def appendSql (m : MemorySql) (kind : SqlWalKind) (sql : String) : Option (MemorySql × ℕ) :=
  if (m.sqlStreams kind).length < vecCapacity then
    let stream := m.sqlStreams kind ++ [sql]
    some (⟨Function.update m.sqlStreams kind stream⟩, stream.length)
  else none

def appendSqlBatch (m : MemorySql) : List (SqlWalKind × String) → Option (MemorySql × List ℕ)
  | [] => some (m, [])
  | (kind, sql) :: entries =>
    (m.appendSql kind sql).bind fun (m', seq) =>
      (m'.appendSqlBatch entries).map fun (m'', seqs) => (m'', seq :: seqs)

def iterSql (m : MemorySql) (kind : SqlWalKind) : List String := m.sqlStreams kind

def sqlCount (m : MemorySql) (kind : SqlWalKind) : ℕ := (m.sqlStreams kind).length

def clearSql (m : MemorySql) (kind : SqlWalKind) : MemorySql :=
  ⟨Function.update m.sqlStreams kind []⟩

def call (m : MemorySql) : SqlCall → Option MemorySql
  | .append kind sql => (m.appendSql kind sql).map Prod.fst
  | .appendBatch entries => (m.appendSqlBatch entries).map Prod.fst
  | .clear kind => some (m.clearSql kind)
  | .reopen => some m

end MemorySql

/-! ### In RocksDB -/

def sqlKindTag : SqlWalKind → Byte
  | .ddl => 0x64
  | .dml => 0x6d

def sqlKindSeqMetaKey : SqlWalKind → List Byte
  | .ddl => utf8 "sql_ddl_sequence"
  | .dml => utf8 "sql_dml_sequence"

def sqlKey (kind : SqlWalKind) (seq : Fin (2 ^ 64)) : List Byte := sqlKindTag kind :: bigEndian seq

def decodeU64 (bytes : List Byte) : Option (Fin (2 ^ 64)) :=
  if bytes.length ≠ 8 then none else some (fromBigEndian bytes)

structure RocksSql where
  cfSql : OrderedMap (List Byte) (List Byte) := ∅
  cfMeta : OrderedMap (List Byte) (List Byte) := ∅
  sequence : SqlWalKind → Fin (2 ^ 64) := fun _ => 0

namespace RocksSql

variable {kind : SqlWalKind} {i : ℕ}

def storedSequence (cfMeta : OrderedMap (List Byte) (List Byte)) (kind : SqlWalKind) :
    Fin (2 ^ 64) :=
  match cfMeta.get? (sqlKindSeqMetaKey kind) with
  | some b => (decodeU64 b).getD 0
  | none => 0

def reopen (s : RocksSql) : RocksSql := { s with sequence := storedSequence s.cfMeta }

def push (s : RocksSql) (kind : SqlWalKind) (sql : String) : RocksSql × Fin (2 ^ 64) :=
  let seq := s.sequence kind + 1
  ({ s with
      cfSql := s.cfSql.put (sqlKey kind seq) (utf8 sql)
      sequence := Function.update s.sequence kind seq }, seq)

def save (s : RocksSql) (kind : SqlWalKind) : RocksSql :=
  { s with cfMeta := s.cfMeta.put (sqlKindSeqMetaKey kind) (bigEndian (s.sequence kind)) }

def appendSql (s : RocksSql) (kind : SqlWalKind) (sql : String) : RocksSql × Fin (2 ^ 64) :=
  let (s', seq) := s.push kind sql
  (s'.save kind, seq)

def pushAll (s : RocksSql) : List (SqlWalKind × String) → RocksSql × List (Fin (2 ^ 64))
  | [] => (s, [])
  | (kind, sql) :: entries =>
    let (s', seq) := s.push kind sql
    let (s'', seqs) := s'.pushAll entries
    (s'', seq :: seqs)

def appendSqlBatch (s : RocksSql) (entries : List (SqlWalKind × String)) :
    RocksSql × List (Fin (2 ^ 64)) :=
  if entries.isEmpty then (s, [])
  else
    let (s', seqs) := s.pushAll entries
    ((s'.save .ddl).save .dml, seqs)

/-- The tag of the log, and below all keys with the next tag. -/
def OfKind (kind : SqlWalKind) (k : List Byte) : Prop :=
  let upperKindOnly := [sqlKindTag kind + 1, 0, 0, 0, 0, 0, 0, 0, 0]
  k.head? = some (sqlKindTag kind) ∧ ¬upperKindOnly ≤ k

instance (kind : SqlWalKind) (k : List Byte) : Decidable (OfKind kind k) :=
  inferInstanceAs (Decidable (_ ∧ _))

def iterSql (s : RocksSql) (kind : SqlWalKind) : List String :=
  ((s.cfSql.iteratorFrom (sqlKey kind 1)).takeWhile fun e => OfKind kind e.1).filterMap
    fun e => fromUtf8 e.2

def sqlCount (s : RocksSql) (kind : SqlWalKind) : ℕ := s.sequence kind

def clearSql (s : RocksSql) (kind : SqlWalKind) : RocksSql :=
  let upperSeq := s.sequence kind
  if upperSeq = 0 then s
  else
    { s with
        cfSql := ((List.range' 1 upperSeq).map fun seq => sqlKey kind (Fin.ofNat _ seq)).foldl
          OrderedMap.delete s.cfSql
        sequence := Function.update s.sequence kind 0 : RocksSql }.save kind

def call (s : RocksSql) : SqlCall → RocksSql
  | .append kind sql => (s.appendSql kind sql).1
  | .appendBatch entries => (s.appendSqlBatch entries).1
  | .clear kind => s.clearSql kind
  | .reopen => s.reopen

theorem sqlKindTag_injective : Function.Injective sqlKindTag := by
  intro kind kind'
  cases kind <;> cases kind' <;> decide

def keyAt (kind : SqlWalKind) (i : ℕ) : List Byte := sqlKey kind (Fin.ofNat _ (i + 1))

theorem val_number (hi : i < vecCapacity) : (Fin.ofNat (2 ^ 64) (i + 1) : ℕ) = i + 1 := by
  have hcap : vecCapacity < 2 ^ 64 := by decide
  exact Nat.mod_eq_of_lt (by omega)

theorem keyAt_lt_iff {kind' : SqlWalKind} {i' : ℕ} (hi : i < vecCapacity) (hi' : i' < vecCapacity) :
    keyAt kind i < keyAt kind' i' ↔ sqlKindTag kind < sqlKindTag kind' ∨ kind = kind' ∧ i < i' := by
  have hnum : Fin.ofNat (2 ^ 64) (i + 1) < Fin.ofNat (2 ^ 64) (i' + 1) ↔ i < i' := by
    rw [Fin.lt_def, val_number hi, val_number hi', Nat.add_lt_add_iff_right]
  rw [keyAt, keyAt, sqlKey, sqlKey, cons_lt_cons_iff, bigEndian_lt_iff,
    sqlKindTag_injective.eq_iff, hnum]

theorem keyAt_inj {kind' : SqlWalKind} {i' : ℕ} (hi : i < vecCapacity)
    (hi' : i' < vecCapacity) : keyAt kind i = keyAt kind' i' ↔ kind = kind' ∧ i = i' := by
  constructor
  · intro h
    obtain ⟨htag, hnr⟩ := cons.inj h
    have hnr := congrArg (fun bytes => (fromBigEndian bytes : ℕ)) hnr
    simp only [fromBigEndian_bigEndian, val_number hi, val_number hi'] at hnr
    exact ⟨sqlKindTag_injective htag, by omega⟩
  · rintro ⟨rfl, rfl⟩
    rfl

theorem ofKind_keyAt {kind' : SqlWalKind} : OfKind kind (keyAt kind' i) ↔ kind' = kind := by
  rw [OfKind, keyAt, sqlKey, head?_cons, some.injEq, sqlKindTag_injective.eq_iff,
    and_iff_left_iff_imp, not_le]
  rintro rfl
  refine cons_lt_cons_iff.mpr (.inl ?_)
  cases kind' <;> decide

theorem keyAt_zero (kind : SqlWalKind) : keyAt kind 0 = sqlKey kind 1 := rfl

/-! ### Two engines with the same logs -/

structure Keeps (s : RocksSql) (m : MemorySql) : Prop where
  fits : ∀ kind, (m.sqlStreams kind).length ≤ vecCapacity
  counted : ∀ kind, (s.sequence kind : ℕ) = (m.sqlStreams kind).length
  stored : ∀ e, e ∈ s.cfSql.entries ↔ ∃ kind i sql, (m.sqlStreams kind)[i]? = some sql ∧
    e = (keyAt kind i, utf8 sql)

def Saved (s : RocksSql) : Prop := ∀ kind, storedSequence s.cfMeta kind = s.sequence kind

variable {s : RocksSql} {m m' : MemorySql}

theorem Keeps.index_lt (h : Keeps s m) {sql : String}
    (hi : (m.sqlStreams kind)[i]? = some sql) : i < vecCapacity :=
  (List.getElem?_eq_some_iff.mp hi).choose.trans_le (h.fits kind)

theorem Keeps.iterSql (h : Keeps s m) (kind : SqlWalKind) : s.iterSql kind = m.iterSql kind := by
  have hlis : ((s.cfSql.iteratorFrom (sqlKey kind 1)).takeWhile fun e => OfKind kind e.1) =
      (m.sqlStreams kind).zipIdx.map fun p => (keyAt kind p.2, utf8 p.1) := by
    rw [OrderedMap.takeWhile_eq_filter]
    · refine OrderedMap.eq_of_mem_iff ((s.cfSql.sorted.filter _).filter _) ?_ fun e => ?_
      · have hnum : (m.sqlStreams kind).zipIdx.Pairwise fun p q => p.2 < q.2 := by
          rw [← pairwise_map, zipIdx_map_snd]
          exact pairwise_lt_range'
        refine pairwise_map.mpr (hnum.imp_of_mem fun {p q} hp hq hlt => ?_)
        rw [mem_zipIdx_iff_getElem?] at hp hq
        exact (keyAt_lt_iff (h.index_lt hp) (h.index_lt hq)).mpr (.inr ⟨rfl, hlt⟩)
      · rw [List.mem_filter, OrderedMap.iteratorFrom, List.mem_filter, List.mem_map, h.stored]
        constructor
        · rintro ⟨⟨⟨kind', i, sql, hi, rfl⟩, -⟩, hkind⟩
          rw [decide_eq_true_eq, ofKind_keyAt] at hkind
          subst hkind
          exact ⟨(sql, i), mem_zipIdx_iff_getElem?.mpr hi, rfl⟩
        · rintro ⟨⟨sql, i⟩, hi, rfl⟩
          rw [mem_zipIdx_iff_getElem?] at hi
          refine ⟨⟨⟨kind, i, sql, hi, rfl⟩, ?_⟩, decide_eq_true (ofKind_keyAt.mpr rfl)⟩
          rw [decide_eq_true_eq, ← not_lt, ← keyAt_zero, keyAt_lt_iff (h.index_lt hi) (by decide)]
          simp
    · refine (s.cfSql.sorted.filter _).imp_of_mem fun {e e'} he he' hlt hkind => ?_
      obtain ⟨he, hle⟩ := mem_filter.mp he
      obtain ⟨kind₁, i, sql, hi, rfl⟩ := (h.stored e).mp he
      obtain ⟨kind₂, i', sql', hi', rfl⟩ := (h.stored e').mp (mem_filter.mp he').1
      simp only [decide_eq_true_eq, ofKind_keyAt] at hkind hle ⊢
      subst hkind
      rw [← not_lt, ← keyAt_zero, keyAt_lt_iff (h.index_lt hi) (by decide), not_or] at hle
      exact (((keyAt_lt_iff (h.index_lt hi) (h.index_lt hi')).mp hlt).resolve_left hle.1).1
  rw [RocksSql.iterSql, hlis, filterMap_map]
  simp only [comp_def, fromUtf8_utf8]
  rw [filterMap_eq_map', zipIdx_map_fst]
  rfl

theorem getElem?_update_concat (streams : SqlWalKind → List String) (kind kind' : SqlWalKind)
    (sql sql' : String) (i : ℕ) :
    (Function.update streams kind (streams kind ++ [sql]) kind')[i]? = some sql' ↔
      (streams kind')[i]? = some sql' ∨ kind' = kind ∧ i = (streams kind).length ∧ sql' = sql := by
  rcases eq_or_ne kind' kind with rfl | hne
  · rw [update_self, getElem?_append]
    have hlen := (getElem?_eq_some_iff (l := streams kind') (i := i) (a := sql')).mp
    split_ifs with hi
    · refine ⟨.inl, fun h => h.resolve_right fun h => ?_⟩
      omega
    · rw [getElem?_singleton, ite_none_right_eq_some]
      constructor
      · rintro ⟨hzero, hsql⟩
        exact .inr ⟨rfl, by omega, (some.inj hsql).symm⟩
      · rintro (h | ⟨-, rfl, rfl⟩)
        · exact absurd (hlen h).choose hi
        · exact ⟨Nat.sub_self _, rfl⟩
  · simp [hne]

theorem Keeps.push (h : Keeps s m) {sql : String} {n : ℕ}
    (hm : m.appendSql kind sql = some (m', n)) : Keeps (s.push kind sql).1 m' := by
  rw [MemorySql.appendSql, ite_none_right_eq_some] at hm
  obtain ⟨hfits, hm⟩ := hm
  obtain ⟨rfl, -⟩ := Prod.mk.inj (some.inj hm)
  have hcap : vecCapacity < 2 ^ 64 := by decide
  have hcou := h.counted kind
  have hnr : ((s.sequence kind + 1 : Fin (2 ^ 64)) : ℕ) = (m.sqlStreams kind).length + 1 := by
    rw [Fin.val_add, hcou, Fin.val_one]
    exact Nat.mod_eq_of_lt (by omega)
  have hkey : sqlKey kind (s.sequence kind + 1) = keyAt kind (m.sqlStreams kind).length :=
    congrArg (sqlKey kind) (Fin.ext (hnr.trans (val_number hfits).symm))
  refine ⟨fun kind' => ?_, fun kind' => ?_, fun e => ?_⟩
  · rcases eq_or_ne kind' kind with rfl | hne
    · rw [Nat.lt_iff_add_one_le] at hfits
      simpa using hfits
    · simpa [hne] using h.fits kind'
  · rcases eq_or_ne kind' kind with rfl | hne
    · simp [RocksSql.push, hnr]
    · simp [RocksSql.push, hne, h.counted kind']
  · simp only [RocksSql.push, OrderedMap.mem_put, hkey, h.stored, getElem?_update_concat]
    constructor
    · rintro (rfl | ⟨⟨kind', i, sql', hi, rfl⟩, -⟩)
      · exact ⟨kind, _, sql, .inr ⟨rfl, rfl, rfl⟩, rfl⟩
      · exact ⟨kind', i, sql', .inl hi, rfl⟩
    · rintro ⟨kind', i, sql', hi | ⟨rfl, rfl, rfl⟩, rfl⟩
      · refine .inr ⟨⟨kind', i, sql', hi, rfl⟩, fun heq => ?_⟩
        obtain ⟨rfl, rfl⟩ := (keyAt_inj (h.index_lt hi) hfits).mp heq
        rw [getElem?_length] at hi
        cases hi
      · exact .inl rfl

theorem Keeps.pushAll (h : Keeps s m) {es : List (SqlWalKind × String)} {ns : List ℕ}
    (hm : m.appendSqlBatch es = some (m', ns)) : Keeps (s.pushAll es).1 m' := by
  induction es generalizing s m ns with
  | nil =>
    obtain ⟨rfl, -⟩ := Prod.mk.inj (some.inj hm)
    exact h
  | cons entry es ih =>
    obtain ⟨⟨m₁, n⟩, hpush, hm⟩ := bind_eq_some_iff.mp hm
    obtain ⟨⟨m₂, ns'⟩, hrest, hm⟩ := map_eq_some_iff.mp hm
    obtain ⟨rfl, -⟩ := Prod.mk.inj hm
    exact ih (h.push hpush) hrest

theorem Keeps.save (h : Keeps s m) (kind : SqlWalKind) : Keeps (s.save kind) m :=
  ⟨h.fits, h.counted, h.stored⟩

theorem storedSequence_save (s : RocksSql) (kind kind' : SqlWalKind) :
    storedSequence (s.save kind).cfMeta kind' =
      if kind' = kind then s.sequence kind else storedSequence s.cfMeta kind' := by
  have hkeys : sqlKindSeqMetaKey kind' = sqlKindSeqMetaKey kind ↔ kind' = kind := by
    refine ⟨?_, congrArg _⟩
    cases kind <;> cases kind' <;> decide +kernel
  simp only [storedSequence, RocksSql.save, OrderedMap.get?_put, hkeys]
  split_ifs with hkind
  · simp [decodeU64, fromBigEndian_bigEndian]
  · rfl

theorem saved_save (h : ∀ kind' ≠ kind, storedSequence s.cfMeta kind' = s.sequence kind') :
    Saved (s.save kind) := by
  intro kind'
  rw [storedSequence_save]
  split_ifs with hkind
  · rw [hkind]
    rfl
  · exact h kind' hkind

theorem Keeps.clearSql (h : Keeps s m) (kind : SqlWalKind) :
    Keeps (s.clearSql kind) (m.clearSql kind) := by
  have hcou := h.counted kind
  rw [RocksSql.clearSql, MemorySql.clearSql]
  split_ifs with hzero
  · rw [hzero] at hcou
    have hnil : m.sqlStreams kind = [] := length_eq_zero_iff.mp hcou.symm
    rw [← hnil, update_eq_self]
    exact h
  · refine Keeps.save ⟨fun kind' => ?_, fun kind' => ?_, fun e => ?_⟩ kind
    · rcases eq_or_ne kind' kind with rfl | hne
      · simp
      · simpa [hne] using h.fits kind'
    · rcases eq_or_ne kind' kind with rfl | hne
      · simp
      · simp [hne, h.counted kind']
    · rw [OrderedMap.mem_foldl_delete, h.stored]
      constructor
      · rintro ⟨⟨kind', i, sql, hi, rfl⟩, hkept⟩
        have hne : kind' ≠ kind := by
          rintro rfl
          have hlen := (List.getElem?_eq_some_iff.mp hi).choose
          refine hkept (mem_map.mpr ⟨i + 1, mem_range'_1.mpr ?_, rfl⟩)
          omega
        exact ⟨kind', i, sql, by simpa [hne] using hi, rfl⟩
      · rintro ⟨kind', i, sql, hi, rfl⟩
        have hne : kind' ≠ kind := by
          rintro rfl
          simp at hi
        refine ⟨⟨kind', i, sql, by simpa [hne] using hi, rfl⟩, fun hmem => ?_⟩
        obtain ⟨seq, -, hseq⟩ := mem_map.mp hmem
        exact hne (sqlKindTag_injective (cons.inj hseq).1).symm

theorem keeps_call (h : Keeps s m) (hsav : Saved s) {c : SqlCall} (hm : m.call c = some m') :
    Keeps (s.call c) m' ∧ Saved (s.call c) := by
  cases c with
  | append kind sql =>
    obtain ⟨⟨m₁, n⟩, hpush, rfl⟩ := map_eq_some_iff.mp hm
    refine ⟨(h.push hpush).save kind, saved_save fun kind' hne => ?_⟩
    simp only [update_of_ne hne, hsav kind']
  | appendBatch entries =>
    obtain ⟨⟨m₁, ns⟩, hpush, rfl⟩ := map_eq_some_iff.mp hm
    rw [RocksSql.call, RocksSql.appendSqlBatch]
    split_ifs with hemp
    · obtain rfl := isEmpty_iff.mp hemp
      obtain ⟨rfl, -⟩ := Prod.mk.inj (some.inj hpush)
      exact ⟨h, hsav⟩
    · refine ⟨((h.pushAll hpush).save .ddl).save .dml, saved_save fun kind' hne => ?_⟩
      cases kind' with
      | ddl => rw [storedSequence_save, if_pos rfl]; rfl
      | dml => exact absurd rfl hne
  | clear kind =>
    obtain rfl := some.inj hm
    refine ⟨h.clearSql kind, ?_⟩
    rw [RocksSql.call, RocksSql.clearSql]
    split_ifs with hzero
    · exact hsav
    · refine saved_save fun kind' hne => ?_
      simp only [update_of_ne hne, hsav kind']
  | reopen =>
    obtain rfl := some.inj hm
    have hsame : s.reopen = s := by
      rw [RocksSql.reopen, show storedSequence s.cfMeta = s.sequence from funext hsav]
    rw [RocksSql.call, hsame]
    exact ⟨h, hsav⟩

theorem keeps_foldl {cs : List SqlCall} (h : Keeps s m) (hsav : Saved s)
    (hm : cs.foldlM MemorySql.call m = some m') : Keeps (cs.foldl call s) m' := by
  induction cs generalizing s m with
  | nil =>
    obtain rfl := some.inj hm
    exact h
  | cons c cs ih =>
    obtain ⟨m₁, hcall, hm⟩ := bind_eq_some_iff.mp hm
    obtain ⟨h, hsav⟩ := keeps_call h hsav hcall
    exact ih h hsav hm

theorem keeps_empty : Keeps {} {} := by
  refine ⟨fun _ => Nat.zero_le _, fun _ => rfl, fun e => ?_⟩
  simp [EmptyCollection.emptyCollection]

/-- **Both engines list and count the same statements**, reopened at any time. -/
theorem iterSql_eq_and_sqlCount_eq {calls : List SqlCall}
    (h : calls.foldlM MemorySql.call {} = some m) (kind : SqlWalKind) :
    (calls.foldl call {}).iterSql kind = m.iterSql kind ∧
      (calls.foldl call {}).sqlCount kind = m.sqlCount kind := by
  have hkp := keeps_foldl keeps_empty (fun _ => rfl) h
  exact ⟨hkp.iterSql kind, hkp.counted kind⟩

def restarted : List SqlCall :=
  [.append .ddl "CREATE TABLE t (id INT)", .reopen,
    .appendBatch [(.dml, "INSERT INTO t VALUES (1)"), (.ddl, "DROP TABLE t")], .clear .ddl, .reopen,
    .append .ddl "CREATE TABLE u (id INT)"]

theorem iterSql_restarted :
    (restarted.foldl call {}).iterSql .ddl = ["CREATE TABLE u (id INT)"] ∧
      (restarted.foldl call {}).sqlCount .ddl = 1 := by
  obtain ⟨m, hm, hstr⟩ : ∃ m, restarted.foldlM MemorySql.call {} = some m ∧
      m.iterSql .ddl = ["CREATE TABLE u (id INT)"] := ⟨_, rfl, rfl⟩
  obtain ⟨hiter, hcnt⟩ := iterSql_eq_and_sqlCount_eq hm .ddl
  exact ⟨hiter.trans hstr, hcnt.trans (congrArg length hstr)⟩

end RocksSql

end VngDatabase
