import Mathlib

/-!
# Bytes and digits

A number is written with a fixed number of digits, the highest one first (`digitsBE`), in base 256
where it is a part of a key and in base 16 where it is printed.
-/

namespace VngDatabase

open List

/-! ### Digits -/

instance neZero_byte : NeZero 256 := ⟨by decide⟩

instance neZero_u64 : NeZero (2 ^ 64) := ⟨by norm_num⟩

instance neZero_u128 : NeZero (2 ^ 128) := ⟨by norm_num⟩

variable (n : Fin (2 ^ 64)) (s : String)

section

variable {b : ℕ} [NeZero b]

/-- The highest digit first. -/
def digitsBE (b : ℕ) [NeZero b] : ℕ → ℕ → List (Fin b)
  | 0, _ => []
  | k + 1, n => Fin.ofNat b (n / b ^ k) :: digitsBE b k n

def ofDigitsBE : List (Fin b) → ℕ
  | [] => 0
  | d :: ds => d * b ^ ds.length + ofDigitsBE ds

@[simp]
theorem length_digitsBE (k n : ℕ) : (digitsBE b k n).length = k := by
  induction k with
  | zero => rfl
  | succ k ih => rw [digitsBE, length_cons, ih]

theorem ofDigitsBE_digitsBE (k n : ℕ) : ofDigitsBE (digitsBE b k n) = n % b ^ k := by
  induction k with
  | zero => rw [digitsBE, ofDigitsBE, Nat.pow_zero, Nat.mod_one]
  | succ k ih =>
    rw [digitsBE, ofDigitsBE, ih, length_digitsBE, Nat.mod_pow_succ, Nat.mul_comm, Nat.add_comm]
    rfl

theorem digitsBE_injective {k n m : ℕ} (hn : n < b ^ k) (hm : m < b ^ k)
    (h : digitsBE b k n = digitsBE b k m) : n = m := by
  have hval := congrArg ofDigitsBE h
  rwa [ofDigitsBE_digitsBE, ofDigitsBE_digitsBE, Nat.mod_eq_of_lt hn, Nat.mod_eq_of_lt hm] at hval

omit [NeZero b] in
theorem ofDigitsBE_lt (ds : List (Fin b)) : ofDigitsBE ds < b ^ ds.length := by
  induction ds with
  | nil => exact Nat.one_pos
  | cons d ds ih =>
    calc (d : ℕ) * b ^ ds.length + ofDigitsBE ds
        < d * b ^ ds.length + b ^ ds.length := Nat.add_lt_add_left ih _
      _ = (d + 1) * b ^ ds.length := (Nat.succ_mul _ _).symm
      _ ≤ b * b ^ ds.length := Nat.mul_le_mul_right _ d.isLt
      _ = b ^ (d :: ds).length := by rw [length_cons, Nat.pow_succ']

omit [NeZero b] in
theorem lt_iff_ofDigitsBE_lt {ds ds' : List (Fin b)} (h : ds.length = ds'.length) :
    ds < ds' ↔ ofDigitsBE ds < ofDigitsBE ds' := by
  induction ds generalizing ds' with
  | nil =>
    obtain rfl := length_eq_zero_iff.mp h.symm
    exact iff_of_false (not_lt_nil _) (Nat.lt_irrefl _)
  | cons d ds ih =>
    cases ds' with
    | nil => cases h
    | cons d' ds' =>
      have hlen := Nat.succ.inj h
      have hlt := ofDigitsBE_lt ds
      have hlt' := ofDigitsBE_lt ds'
      rw [cons_lt_cons_iff, ih hlen, ofDigitsBE, ofDigitsBE, hlen]
      rw [hlen] at hlt
      rcases lt_trichotomy d d' with hd | rfl | hd
      · have hstep := Nat.mul_le_mul_right (b ^ ds'.length) (Nat.succ_le_of_lt hd)
        rw [Nat.succ_mul] at hstep
        exact iff_of_true (Or.inl hd) (by omega)
      · simp
      · have hstep := Nat.mul_le_mul_right (b ^ ds'.length) (Nat.succ_le_of_lt hd)
        rw [Nat.succ_mul] at hstep
        exact iff_of_false (by simp [hd.not_gt, hd.ne']) (by omega)

theorem digitsBE_lt_iff {k n m : ℕ} (hn : n < b ^ k) (hm : m < b ^ k) :
    digitsBE b k n < digitsBE b k m ↔ n < m := by
  rw [lt_iff_ofDigitsBE_lt (by simp), ofDigitsBE_digitsBE, ofDigitsBE_digitsBE,
    Nat.mod_eq_of_lt hn, Nat.mod_eq_of_lt hm]

end

/-! ### Bytes -/

abbrev Byte := Fin 256

def utf8 : List Byte := s.toByteArray.data.toList.map UInt8.toFin

def fromUtf8 (bytes : List Byte) : Option String :=
  String.fromUTF8? ⟨(bytes.map UInt8.ofFin).toArray⟩

theorem fromUtf8_utf8 : fromUtf8 (utf8 s) = some s := by
  have hbyt : (s.toByteArray.data.toList.map (UInt8.ofFin ∘ UInt8.toFin)).toArray =
      s.toByteArray.data := by
    rw [show UInt8.ofFin ∘ UInt8.toFin = id from rfl, map_id]
  rw [fromUtf8, utf8, map_map, hbyt]
  exact dif_pos s.isValidUTF8

theorem utf8_of_fromUtf8 {bytes : List Byte} {s : String} (h : fromUtf8 bytes = some s) :
    utf8 s = bytes := by
  rw [fromUtf8, String.fromUTF8?] at h
  split_ifs at h with hvld
  obtain rfl := Option.some.inj h
  rw [utf8, String.fromUTF8, map_map, show UInt8.toFin ∘ UInt8.ofFin = id from rfl, map_id]

theorem utf8_injective : Function.Injective utf8 := fun s t h =>
  Option.some.inj ((fromUtf8_utf8 s).symm.trans ((congrArg fromUtf8 h).trans (fromUtf8_utf8 t)))

def bigEndian : List Byte := digitsBE 256 8 n

def fromBigEndian (bytes : List Byte) : Fin (2 ^ 64) := Fin.ofNat (2 ^ 64) (ofDigitsBE bytes)

@[simp]
theorem length_bigEndian : (bigEndian n).length = 8 := length_digitsBE 8 n

theorem fromBigEndian_bigEndian : fromBigEndian (bigEndian n) = n := by
  have hval : ofDigitsBE (bigEndian n) = n := by
    rw [bigEndian, ofDigitsBE_digitsBE]
    exact Nat.mod_eq_of_lt n.isLt
  rw [fromBigEndian, hval]
  exact Fin.ofNat_val_eq_self n

theorem bigEndian_lt_iff {n m : Fin (2 ^ 64)} : bigEndian n < bigEndian m ↔ n < m :=
  digitsBE_lt_iff n.isLt m.isLt

def fnv1aHash : UInt64 :=
  (utf8 s).foldl (fun hash byte => (hash ^^^ UInt64.ofNat byte) * 1099511628211)
    14695981039346656037

def hex16 (hash : UInt64) : String :=
  String.ofList ((digitsBE 16 16 hash.toNat).map fun d : Fin 16 => Nat.digitChar d)

theorem hex16_injective : Function.Injective hex16 := by
  have hdig : ∀ d d' : Fin 16, Nat.digitChar d = Nat.digitChar d' → d = d' := by decide
  intro hash hash' h
  rw [hex16, hex16, String.ofList_inj] at h
  have hdigi := map_injective_iff.mpr (fun d d' => hdig d d') h
  have hbou : 2 ^ 64 = 16 ^ 16 := by decide
  exact UInt64.toNat_inj.mp (digitsBE_injective (hbou ▸ hash.toNat_lt) (hbou ▸ hash'.toNat_lt)
    hdigi)

end VngDatabase
