import VngDatabase.Bytes
import VngDatabase.OrderedMap
import VngDatabase.Store.Mvcc

/-!
# Rows in RocksDB

The durable engine (`crates/voltnuerongrid-store/src/rocksdb_engine.rs`) keeps the versions of rows
in an ordered map of bytes, under the key of the row, a separator and the number of the transaction
in eight bytes.
-/

namespace VngDatabase

open Store Overlay OrderedMap List Option Function

abbrev Xid64 := Fin (2 ^ 64)

def Xid64.max : Xid64 := ⟨2 ^ 64 - 1, by decide⟩

class RowJson where
  toJson : RowData → String
  ofJson : List Byte → Option RowData
  ofJson_toJson : ∀ data, ofJson (utf8 (toJson data)) = some data

structure RocksRows where
  columnFamilies : String → Option (OrderedMap (List Byte) (List Byte)) := fun _ => none
  maxRowXid : Xid64 := 0

namespace RocksRows

def separator : Byte := 0x1f

def dbRowsCfName (db : String) : String := "rows_" ++ db

def versionKey (rowKey : String) (xid : Xid64) : List Byte :=
  utf8 rowKey ++ separator :: bigEndian xid

section

variable [RowJson] (s : RocksRows) (rk : String)

def versionValue : Option RowData → List Byte
  | some cols => 0x00 :: utf8 (RowJson.toJson cols)
  | none => [0x01]

def storeRow (db rowKey : String) (xid : Xid64) (data : Option RowData) : RocksRows :=
  let cf := (s.columnFamilies (dbRowsCfName db)).getD ∅
  { columnFamilies := Function.update s.columnFamilies (dbRowsCfName db)
      (some (cf.put (versionKey rowKey xid) (versionValue data)))
    maxRowXid := if xid > s.maxRowXid then xid else s.maxRowXid }

def parseRowKey (k : List Byte) : Option (String × Xid64) :=
  if k.length < 9 then none
  else
    let xidStart := k.length - 8
    let rowKeyWithSep := k.take xidStart
    if rowKeyWithSep.getLast? ≠ some separator then none
    else
      (fromUtf8 rowKeyWithSep.dropLast).map fun rowKey =>
        (rowKey, fromBigEndian (k.drop xidStart))

def decodeValue : List Byte → Option RowData
  | 0x00 :: jsonBytes => RowJson.ofJson jsonBytes
  | _ => none

def visible (cf : OrderedMap (List Byte) (List Byte)) (snapshotXid : Xid64) :
    List (String × Xid64 × List Byte) :=
  cf.entries.filterMap fun (k, v) =>
    (parseRowKey k).bind fun (rowKey, xid) =>
      if xid > snapshotXid then none else some (rowKey, xid, v)

def scanRowsForDb (db : String) (snapshotXid : Xid64) : List (String × RowData) :=
  match s.columnFamilies (dbRowsCfName db) with
  | none => []
  | some cf =>
    ((visible cf snapshotXid).foldl supersede []).filterMap fun (rowKey, _, value) =>
      (decodeValue value).map fun cols => (rowKey, cols)

def xidOf (k : List Byte) : Xid64 := fromBigEndian (k.drop (k.length - 8))

def highest (entries : List (List Byte × List Byte)) : Option (Xid64 × List Byte) :=
  entries.foldl (fun best (k, v) =>
    match best with
    | none => some (xidOf k, v)
    | some (bx, bv) => if xidOf k > bx then some (xidOf k, v) else some (bx, bv)) none

def candidates (cf : OrderedMap (List Byte) (List Byte)) (rowKey : String) :
    List (List Byte × List Byte) :=
  let beginning := utf8 rowKey ++ [separator]
  ((cf.iteratorFrom beginning).takeWhile fun (k, _) => beginning.isPrefixOf k).filter
    fun (k, _) => ¬k.length < beginning.length + 8

def getRow (db rowKey : String) : Option RowData :=
  (s.columnFamilies (dbRowsCfName db)).bind fun cf =>
    (highest (candidates cf rowKey)).bind fun (_, value) => decodeValue value

/-! ### Histories -/

structure StoreCall where
  db : String
  rowKey : String
  xid : Xid64
  data : Option RowData

def stored (calls : List StoreCall) : RocksRows :=
  calls.foldl (fun s c => s.storeRow c.db c.rowKey c.xid c.data) {}

def version (calls : List StoreCall) (db rowKey : String) (xid : Xid64) :
    Option (Option RowData) :=
  lastWrite (calls.map fun c => ((c.db, c.rowKey, c.xid), c.data)) (db, rowKey, xid)

def Shows (calls : List StoreCall) (db : String) (snapshotXid : Xid64) (rowKey : String)
    (data : RowData) : Prop :=
  ∃ xid ≤ snapshotXid, version calls db rowKey xid = some (some data) ∧
    ∀ xid', xid < xid' → xid' ≤ snapshotXid → version calls db rowKey xid' = none

structure ReadsAgree (calls : List StoreCall) : Prop where
  scan : ∀ db snapshotXid rowKey data,
    (rowKey, data) ∈ (stored calls).scanRowsForDb db snapshotXid ↔
      Shows calls db snapshotXid rowKey data
  nodup : ∀ db snapshotXid,
    (((stored calls).scanRowsForDb db snapshotXid).map Prod.fst).Nodup
  get : ∀ db rowKey data, (stored calls).getRow db rowKey = some data ↔
    (rowKey, data) ∈ (stored calls).scanRowsForDb db Xid64.max

/-- The key of its row may go on after a separator. -/
def Competes (calls : List StoreCall) (db rowKey rowKey' : String) (xid : Xid64) : Prop :=
  (version calls db rowKey' xid).isSome ∧
    (rowKey' = rowKey ∨ utf8 rowKey ++ [separator] <+: utf8 rowKey')

def Wins (calls : List StoreCall) (db rowKey rowKey' : String) (xid : Xid64) : Prop :=
  Competes calls db rowKey rowKey' xid ∧ ∀ rowKey'' xid', Competes calls db rowKey rowKey'' xid' →
    xid' < xid ∨ xid' = xid ∧ versionKey rowKey' xid ≤ versionKey rowKey'' xid'

/-! ### What is stored -/

section

omit [RowJson]

theorem length_versionKey (xid : Xid64) :
    (versionKey rk xid).length = (utf8 rk).length + 9 := by
  rw [versionKey, length_append, length_cons, length_bigEndian]

theorem drop_versionKey (xid : Xid64) :
    (versionKey rk xid).drop ((versionKey rk xid).length - 8) = bigEndian xid := by
  rw [length_versionKey, Nat.add_sub_assoc (by decide), versionKey,
    drop_length_add_append]
  rfl

theorem parseRowKey_versionKey (xid : Xid64) :
    parseRowKey (versionKey rk xid) = some (rk, xid) := by
  have hlen : ¬(versionKey rk xid).length < 9 := by
    rw [length_versionKey]
    omega
  rw [parseRowKey, if_neg hlen]
  have htake : (versionKey rk xid).take ((versionKey rk xid).length - 8) =
      utf8 rk ++ [separator] := by
    rw [length_versionKey, Nat.add_sub_assoc (by decide), versionKey, take_length_add_append]
    rfl
  simp only [htake, drop_versionKey, getLast?_concat, dropLast_concat, ne_eq,
    not_true_eq_false, if_false, fromUtf8_utf8, fromBigEndian_bigEndian, map_some]

theorem versionKey_inj {k k' : String} {x x' : Xid64} :
    versionKey k x = versionKey k' x' ↔ k = k' ∧ x = x' := by
  constructor
  · intro h
    have hpar := congrArg parseRowKey h
    rwa [parseRowKey_versionKey, parseRowKey_versionKey, some.injEq, Prod.mk.injEq]
      at hpar
  · rintro ⟨rfl, rfl⟩
    rfl

end

theorem decodeValue_versionValue (data : Option RowData) :
    decodeValue (versionValue data) = data := by
  cases data with
  | none => rfl
  | some cols => exact RowJson.ofJson_toJson cols

def writes (calls : List StoreCall) (db : String) : List (List Byte × List Byte) :=
  (calls.filter fun c => c.db = db).map fun c => (versionKey c.rowKey c.xid, versionValue c.data)

variable {calls : List StoreCall} {db : String} {snapshotXid xid : Xid64} {rowKey : String}
  {data : RowData} {e : List Byte × List Byte} (cs : List StoreCall)

theorem columnFamilies_stored (db : String) :
    ((stored cs).columnFamilies (dbRowsCfName db)).getD ∅ =
      putAll (writes cs db) := by
  induction cs using reverseRecOn with
  | nil => rfl
  | append_singleton cs c ih =>
    rw [stored, foldl_append, foldl_cons, foldl_nil, ← stored, storeRow, writes,
      filter_append, map_append]
    by_cases hdb : c.db = db
    · subst hdb
      simp only [update_self, getD_some, ih]
      simp [putAll, writes]
    · have hne : dbRowsCfName db ≠ dbRowsCfName c.db := fun h =>
        hdb ((String.append_right_inj _).mp h).symm
      simp only [update_of_ne hne, ih]
      simp [hdb, writes]

theorem lastWrite_writes (db rk : String) (xid : Xid64) :
    lastWrite (writes cs db) (versionKey rk xid) =
      (version cs db rk xid).map versionValue := by
  induction cs with
  | nil => rfl
  | cons c cs ih =>
    rw [version, map_cons, lastWrite, ← version]
    by_cases hdb : c.db = db
    · rw [writes, filter_cons_of_pos (by simpa using hdb), map_cons, lastWrite, ← writes,
        ih]
      simp only [versionKey_inj, hdb, Prod.mk.injEq, true_and]
      cases version cs db rk xid with
      | none => split_ifs <;> rfl
      | some data => rfl
    · rw [writes, filter_cons_of_neg (by simpa using hdb), ← writes, ih,
        if_neg fun h => hdb (congrArg Prod.fst h), or_none]

theorem mem_putAll_writes :
    e ∈ (putAll (writes calls db)).entries ↔ ∃ rowKey xid data,
      version calls db rowKey xid = some data ∧ e = (versionKey rowKey xid, versionValue data) := by
  obtain ⟨k, v⟩ := e
  rw [mem_putAll]
  constructor
  · intro h
    obtain ⟨c, -, hc⟩ := mem_map.mp (mem_of_lastWrite h)
    obtain ⟨rfl, -⟩ := Prod.mk.inj hc
    rw [lastWrite_writes] at h
    obtain ⟨data, hdata, rfl⟩ := map_eq_some_iff.mp h
    exact ⟨c.rowKey, c.xid, data, hdata, rfl⟩
  · rintro ⟨rowKey, xid, data, hdata, he⟩
    obtain ⟨rfl, rfl⟩ := Prod.mk.inj he
    rw [lastWrite_writes, hdata, map_some]

theorem mem_visible {value : List Byte} :
    (rowKey, xid, value) ∈ visible (putAll (writes calls db)) snapshotXid ↔
      xid ≤ snapshotXid ∧ ∃ data, version calls db rowKey xid = some data ∧
        value = versionValue data := by
  simp only [visible, mem_filterMap, mem_putAll_writes]
  constructor
  · rintro ⟨e, ⟨rowKey', xid', data, hdata, rfl⟩, hvis⟩
    simp only [parseRowKey_versionKey, bind_some] at hvis
    split_ifs at hvis with hxid
    obtain ⟨rfl, rfl, rfl⟩ := some.inj hvis
    exact ⟨not_lt.mp hxid, data, hdata, rfl⟩
  · rintro ⟨hxid, data, hdata, rfl⟩
    refine ⟨_, ⟨rowKey, xid, data, hdata, rfl⟩, ?_⟩
    simp only [parseRowKey_versionKey, bind_some]
    exact if_neg (not_lt.mpr hxid)

theorem visible_rising : (visible (putAll (writes calls db)) snapshotXid).Pairwise
    fun w w' => w.1 = w'.1 → w.2.1 < w'.2.1 := by
  rw [visible, pairwise_filterMap]
  refine (sorted _).imp_of_mem fun {e e'} he he' hlt w hw w' hw' hrow => ?_
  obtain ⟨rowKey, xid, data, -, rfl⟩ := mem_putAll_writes.mp he
  obtain ⟨rowKey', xid', data', -, rfl⟩ := mem_putAll_writes.mp he'
  simp only [parseRowKey_versionKey, bind_some, ite_none_left_eq_some, some.injEq] at hw hw'
  obtain ⟨-, rfl⟩ := hw
  obtain ⟨-, rfl⟩ := hw'
  obtain rfl : rowKey = rowKey' := hrow
  simp only [versionKey, append_lt_append_iff, cons_lt_cons_iff, lt_irrefl,
    true_and, false_or] at hlt
  exact bigEndian_lt_iff.mp hlt

theorem scanRowsForDb_eq (db : String) (x : Xid64) :
    s.scanRowsForDb db x =
      ((visible ((s.columnFamilies (dbRowsCfName db)).getD ∅) x).foldl supersede
        []).filterMap fun (rowKey, _, value) =>
          (decodeValue value).map fun cols => (rowKey, cols) := by
  rw [scanRowsForDb]
  cases s.columnFamilies (dbRowsCfName db) <;> rfl

theorem mem_scanRowsForDb_iff : (rowKey, data) ∈ (stored calls).scanRowsForDb db snapshotXid ↔
    Shows calls db snapshotXid rowKey data := by
  have hlast (w : String × Xid64 × List Byte) :
      w ∈ (visible (putAll (writes calls db)) snapshotXid).foldl supersede [] ↔
        w ∈ visible (putAll (writes calls db)) snapshotXid ∧
          ∀ v', (w.1, v') ∈ visible (putAll (writes calls db)) snapshotXid →
            v'.1 ≤ w.2.1 := by
    rw [← lastWrite_eq_some_iff (nodup_foldl_supersede [] nodup_nil _),
      lastWrite_foldl_supersede, nil_append,
      lastWrite_eq_some_iff_of_rising (f := Prod.fst) visible_rising]
  rw [scanRowsForDb_eq, columnFamilies_stored, mem_filterMap]
  constructor
  · rintro ⟨⟨rowKey', xid, value⟩, hmem, hrow⟩
    obtain ⟨cols, hcols, hrow⟩ := map_eq_some_iff.mp hrow
    obtain ⟨rfl, rfl⟩ := Prod.mk.inj hrow
    obtain ⟨hvis, hgre⟩ := (hlast _).mp hmem
    obtain ⟨hxid, data, hdata, rfl⟩ := mem_visible.mp hvis
    rw [decodeValue_versionValue] at hcols
    refine ⟨xid, hxid, hcols ▸ hdata, fun xid' hlt hle => ?_⟩
    by_contra hsome
    obtain ⟨data', hdata'⟩ := ne_none_iff_exists'.mp hsome
    have hle' := hgre (xid', versionValue data') (mem_visible.mpr ⟨hle, data', hdata', rfl⟩)
    exact absurd hlt (not_lt.mpr hle')
  · rintro ⟨xid, hxid, hdata, hlat⟩
    refine ⟨(rowKey, xid, versionValue (some data)), (hlast _).mpr ⟨?_, ?_⟩, ?_⟩
    · exact mem_visible.mpr ⟨hxid, _, hdata, rfl⟩
    · rintro ⟨xid', value⟩ hvis
      obtain ⟨hxid', data', hdata', -⟩ := mem_visible.mp hvis
      refine not_lt.mp fun hlt => ?_
      rw [hlat xid' hlt hxid'] at hdata'
      cases hdata'
    · simp only [decodeValue_versionValue, map_some]

theorem nodup_scanRowsForDb (db : String) (x : Xid64) :
    (((stored cs).scanRowsForDb db x).map Prod.fst).Nodup := by
  rw [scanRowsForDb_eq, List.Nodup, pairwise_map, pairwise_filterMap]
  refine (pairwise_map.mp (nodup_foldl_supersede [] nodup_nil _)).imp ?_
  intro w w' hne row hrow row' hrow'
  obtain ⟨cols, -, rfl⟩ := map_eq_some_iff.mp hrow
  obtain ⟨cols', -, rfl⟩ := map_eq_some_iff.mp hrow'
  exact hne

/-! ### Single rows -/

omit [RowJson] in
theorem highest_eq (es : List (List Byte × List Byte)) :
    highest es = (es.argmax fun e => xidOf e.1).map fun e => (xidOf e.1, e.2) := by
  induction es using reverseRecOn with
  | nil => rfl
  | append_singleton es e ih =>
    rw [highest, foldl_append, ← highest, ih, argmax_concat]
    cases es.argmax fun e => xidOf e.1 with
    | none => rfl
    | some best =>
      simp only [map_some, foldl_cons, foldl_nil]
      split_ifs <;> rfl

omit [RowJson] in
theorem begins_iff (rk' : String) (xid : Xid64) :
    (utf8 rk ++ [separator] <+: versionKey rk' xid ∧
      ¬(versionKey rk' xid).length < (utf8 rk ++ [separator]).length + 8) ↔
    (rk' = rk ∨ utf8 rk ++ [separator] <+: utf8 rk') := by
  rw [length_versionKey, length_append, length_singleton]
  have hrow : utf8 rk' <+: versionKey rk' xid := prefix_append _ _
  constructor
  · rintro ⟨hbeg, hlen⟩
    rcases (show (utf8 rk).length ≤ (utf8 rk').length by omega).lt_or_eq with hlt | heq
    · refine .inr (prefix_of_prefix_length_le hbeg hrow ?_)
      rw [length_append, length_singleton]
      omega
    · refine .inl (utf8_injective ?_)
      have hbeg' := (prefix_append _ _).trans hbeg
      exact ((prefix_of_prefix_length_le hbeg' hrow heq.le).eq_of_length heq).symm
  · rintro (rfl | hbeg)
    · refine ⟨⟨bigEndian xid, ?_⟩, by omega⟩
      rw [append_assoc, singleton_append, versionKey]
    · have hlen := hbeg.length_le
      rw [length_append, length_singleton] at hlen
      exact ⟨hbeg.trans hrow, by omega⟩

theorem mem_candidates :
    e ∈ candidates (putAll (writes calls db)) rowKey ↔ ∃ rowKey' xid data,
      version calls db rowKey' xid = some data ∧
      (rowKey' = rowKey ∨ utf8 rowKey ++ [separator] <+: utf8 rowKey') ∧
      e = (versionKey rowKey' xid, versionValue data) := by
  simp only [candidates, takeWhile_iteratorFrom, mem_filter, mem_putAll_writes,
    isPrefixOf_iff_prefix, decide_eq_true_eq]
  constructor
  · rintro ⟨⟨⟨rowKey', xid, data, hdata, rfl⟩, hbeg⟩, hlen⟩
    exact ⟨rowKey', xid, data, hdata, (begins_iff rowKey rowKey' xid).mp ⟨hbeg, hlen⟩, rfl⟩
  · rintro ⟨rowKey', xid, data, hdata, hcmp, rfl⟩
    obtain ⟨hbeg, hlen⟩ := (begins_iff rowKey rowKey' xid).mpr hcmp
    exact ⟨⟨⟨rowKey', xid, data, hdata, rfl⟩, hbeg⟩, hlen⟩

omit [RowJson] in
theorem xidOf_versionKey (xid : Xid64) : xidOf (versionKey rk xid) = xid := by
  rw [xidOf, drop_versionKey, fromBigEndian_bigEndian]

theorem argmax_candidates :
    (candidates (putAll (writes calls db)) rowKey).argmax (fun e => xidOf e.1) =
        some e ↔
      ∃ rowKey' xid data, Wins calls db rowKey rowKey' xid ∧
        version calls db rowKey' xid = some data ∧
        e = (versionKey rowKey' xid, versionValue data) := by
  have hsrt : (candidates (putAll (writes calls db)) rowKey).Pairwise
      fun e e' => e.1 < e'.1 := by
    rw [candidates, takeWhile_iteratorFrom]
    exact ((sorted _).filter _).filter _
  rw [argmax_eq_some_iff hsrt, mem_candidates]
  constructor
  · rintro ⟨⟨rowKey', xid, data, hdata, hcmp, rfl⟩, hgre⟩
    refine ⟨rowKey', xid, data, ⟨⟨isSome_of_eq_some hdata, hcmp⟩, ?_⟩, hdata, rfl⟩
    rintro rowKey'' xid' ⟨hsome, hcmp'⟩
    obtain ⟨data', hdata'⟩ := isSome_iff_exists.mp hsome
    have hle := hgre _ (mem_candidates.mpr ⟨rowKey'', xid', data', hdata', hcmp', rfl⟩)
    rwa [xidOf_versionKey, xidOf_versionKey] at hle
  · rintro ⟨rowKey', xid, data, ⟨⟨-, hcmp⟩, hwins⟩, hdata, rfl⟩
    refine ⟨⟨rowKey', xid, data, hdata, hcmp, rfl⟩, fun e' he' => ?_⟩
    obtain ⟨rowKey'', xid', data', hdata', hcmp', rfl⟩ := mem_candidates.mp he'
    rw [xidOf_versionKey, xidOf_versionKey]
    exact hwins rowKey'' xid' ⟨isSome_of_eq_some hdata', hcmp'⟩

theorem getRow_eq_some_iff : (stored calls).getRow db rowKey = some data ↔
    ∃ rowKey' xid, Wins calls db rowKey rowKey' xid ∧
      version calls db rowKey' xid = some (some data) := by
  have hget : (stored calls).getRow db rowKey = (highest (candidates
      (((stored calls).columnFamilies (dbRowsCfName db)).getD ∅) rowKey)).bind
        fun (_, value) => decodeValue value := by
    rw [getRow]
    cases (stored calls).columnFamilies (dbRowsCfName db) <;> rfl
  rw [hget, columnFamilies_stored, highest_eq]
  simp only [bind_map, bind_eq_some_iff, argmax_candidates, comp_apply]
  constructor
  · rintro ⟨-, ⟨rowKey', xid, version, hwins, hver, rfl⟩, hdata⟩
    rw [decodeValue_versionValue] at hdata
    exact ⟨rowKey', xid, hwins, hdata ▸ hver⟩
  · rintro ⟨rowKey', xid, hwins, hver⟩
    exact ⟨_, ⟨rowKey', xid, some data, hwins, hver, rfl⟩, decodeValue_versionValue (some data)⟩

theorem Competes.exists_wins {rk' : String} (h : Competes calls db rowKey rk' xid) :
    ∃ rowKey'' xid', Wins calls db rowKey rowKey'' xid' := by
  obtain ⟨data, hdata⟩ := isSome_iff_exists.mp h.1
  have hmem := mem_candidates.mpr ⟨rk', xid, data, hdata, h.2, rfl⟩
  cases hmax : (candidates (putAll (writes calls db)) rowKey).argmax
      (fun e => xidOf e.1) with
  | none =>
    rw [argmax_eq_none.mp hmax] at hmem
    cases hmem
  | some e =>
    obtain ⟨rowKey'', xid', -, hwins, -⟩ := argmax_candidates.mp hmax
    exact ⟨rowKey'', xid', hwins⟩

/-- **Reads agree iff the version taken for the latest has the data that the row shows.** -/
theorem readsAgree_iff (calls : List StoreCall) : ReadsAgree calls ↔
    ∀ db rowKey rowKey' xid, Wins calls db rowKey rowKey' xid → ∀ data,
      version calls db rowKey' xid = some (some data) ↔ Shows calls db Xid64.max rowKey data := by
  have hagr : ReadsAgree calls ↔ ∀ db rowKey data,
      (∃ rowKey' xid, Wins calls db rowKey rowKey' xid ∧
        version calls db rowKey' xid = some (some data)) ↔
          Shows calls db Xid64.max rowKey data := by
    refine ⟨fun h db rowKey data => ?_, fun h => ⟨fun _ _ _ _ => mem_scanRowsForDb_iff,
      nodup_scanRowsForDb calls, fun db rowKey data => ?_⟩⟩
    · rw [← getRow_eq_some_iff, h.get, mem_scanRowsForDb_iff]
    · rw [getRow_eq_some_iff, h, mem_scanRowsForDb_iff]
  rw [hagr]
  constructor
  · intro h db rowKey rowKey' xid hwins data
    rw [← h]
    refine ⟨fun hdata => ⟨rowKey', xid, hwins, hdata⟩, ?_⟩
    rintro ⟨rowKey'', xid', hwins', hdata⟩
    obtain ⟨rfl, rfl⟩ := versionKey_inj.mp
      (key_eq_of_greatest (hwins.2 rowKey'' xid' hwins'.1) (hwins'.2 _ _ hwins.1))
    exact hdata
  · intro h db rowKey data
    constructor
    · rintro ⟨rowKey', xid, hwins, hdata⟩
      exact (h db rowKey rowKey' xid hwins data).mp hdata
    · intro hshw
      have ⟨xid, _, hdata, _⟩ := hshw
      have hcmp : Competes calls db rowKey rowKey xid := ⟨isSome_of_eq_some hdata, .inl rfl⟩
      obtain ⟨rowKey', xid', hwins⟩ := hcmp.exists_wins
      exact ⟨rowKey', xid', hwins, (h db rowKey rowKey' xid' hwins data).mpr hshw⟩

end

theorem nonempty_rowJson : Nonempty RowJson := by
  have hchar : Countable Char := Function.Injective.countable (f := Char.toNat)
    fun _ _ => Char.toNat_inj.mp
  have hstr : Countable String := Function.Injective.countable (f := String.toList)
    fun _ _ => String.toList_injective
  have hrows : Countable RowData := Function.Injective.countable (f := Finmap.entries)
    fun _ _ => Finmap.ext
  obtain ⟨f, hf⟩ := exists_injective_nat RowData
  have hinj : Function.Injective fun data =>
      utf8 (String.ofList (replicate (f data) '1')) := by
    intro data data' h
    have hlen := congrArg length (String.ofList_injective (utf8_injective h))
    rw [length_replicate, length_replicate] at hlen
    exact hf hlen
  classical
  exact ⟨⟨fun data => String.ofList (replicate (f data) '1'),
    partialInv fun data => utf8 (String.ofList (replicate (f data) '1')),
    partialInv_left hinj⟩⟩

def extended : List StoreCall := [⟨"shop", "a\x1fb", 1, some (Finmap.singleton "id" "1")⟩]

theorem version_extended {rk : String} {xid : Xid64}
    (h : (version extended "shop" rk xid).isSome) : rk = "a\x1fb" ∧ xid = 1 := by
  obtain ⟨data, hdata⟩ := isSome_iff_exists.mp h
  have hmem := mem_of_lastWrite hdata
  rw [extended, map_singleton, mem_singleton] at hmem
  obtain ⟨hkey, -⟩ := Prod.mk.inj hmem
  simpa using hkey

/-- **A row that was never stored is read.** -/
theorem not_readsAgree_extended : Nonempty RowJson ∧ ∀ _ : RowJson,
    (stored extended).getRow "shop" "a" = some (Finmap.singleton "id" "1") ∧
      (∀ data, ("a", data) ∉ (stored extended).scanRowsForDb "shop" Xid64.max) ∧
      ¬ReadsAgree extended := by
  refine ⟨nonempty_rowJson, fun _ => ?_⟩
  have hget : (stored extended).getRow "shop" "a" = some (Finmap.singleton "id" "1") := by
    refine getRow_eq_some_iff.mpr ⟨"a\x1fb", 1, ⟨⟨by decide +kernel, .inr ?_⟩, ?_⟩, ?_⟩
    · decide +kernel
    · intro rowKey xid hcmp
      obtain ⟨rfl, rfl⟩ := version_extended hcmp.1
      exact .inr ⟨rfl, le_rfl⟩
    · decide +kernel
  have hscan (data : RowData) : ("a", data) ∉ (stored extended).scanRowsForDb "shop" Xid64.max := by
    intro hmem
    obtain ⟨xid, -, hdata, -⟩ := mem_scanRowsForDb_iff.mp hmem
    exact absurd (version_extended (isSome_of_eq_some hdata)).1 (by decide)
  exact ⟨hget, hscan, fun h => hscan _ ((h.get _ _ _).mp hget)⟩

end RocksRows

end VngDatabase
