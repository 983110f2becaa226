import ExEx.Lib.Bytes
import ExEx.Lib.Decimal
import Mathlib.Order.Defs.LinearOrder

/-!
# Machine types

The fixed-width types the programs share: addresses, hashes and blooms are byte
strings of a fixed length, `U256` is a 256-bit word whose arithmetic wraps, and
block numbers, nonces and gas are `u64`.

A `U256` is written as decimal text and read back by `U256.fromStr`, which also
takes the `0x`, `0o` and `0b` prefixes and skips underscores.
-/

namespace ExEx

/-- A 20-byte address. -/
abbrev Address := FixedBytes 20

/-- A 32-byte hash. -/
abbrev B256 := FixedBytes 32

/-- An 8-byte string. -/
abbrev B64 := FixedBytes 8

/-- A 256-byte logs bloom. -/
abbrev Bloom := FixedBytes 256

/-- A 256-bit unsigned integer. -/
abbrev U256 := BitVec 256

/-- A 128-bit unsigned integer. -/
abbrev U128 := BitVec 128

instance instLinearOrderUInt64 : LinearOrder UInt64 where
  le_refl _ := UInt64.le_refl _
  le_trans _ _ _ := UInt64.le_trans
  le_antisymm _ _ := UInt64.le_antisymm
  le_total _ _ := UInt64.le_total _ _
  lt_iff_le_not_ge a b := by
    simp only [UInt64.lt_iff_toNat_lt, UInt64.le_iff_toNat_le]; omega
  toDecidableLE := inferInstance
  toDecidableEq := inferInstance
  toDecidableLT := inferInstance

/-- The 32 bytes of a word, most significant first. -/
def B256.ofU256 (x : U256) : B256 :=
  ⟨(toLeBytes 32 x.toNat).reverse, by rw [List.length_reverse, length_toLeBytes]⟩

theorem B256.ofU256_injective : Function.Injective B256.ofU256 := fun x y h => by
  have hle : toLeBytes 32 x.toNat = toLeBytes 32 y.toNat :=
    List.reverse_injective (congrArg FixedBytes.toVec h)
  apply BitVec.eq_of_toNat_eq
  rw [← leValue_toLeBytes_of_lt (k := 32) x.isLt, hle, leValue_toLeBytes_of_lt y.isLt]

@[simp] theorem B256.ofU256_inj {x y : U256} : B256.ofU256 x = B256.ofU256 y ↔ x = y :=
  B256.ofU256_injective.eq_iff

namespace U256

/-- The word of a `u64`. -/
def ofU64 (n : UInt64) : U256 := BitVec.ofNat 256 n.toNat

/-- The `u64` of a word, when it fits. -/
def toU64 (x : U256) : Option UInt64 :=
  if x.toNat < 2 ^ 64 then some (UInt64.ofNat x.toNat) else none

theorem toU64_eq_some_iff {x : U256} {n : UInt64} : x.toU64 = some n ↔ x = ofU64 n := by
  rw [toU64, ofU64]
  constructor
  · intro h
    split_ifs at h with hx
    obtain rfl := Option.some.inj h
    apply BitVec.eq_of_toNat_eq
    rw [UInt64.toNat_ofNat', BitVec.toNat_ofNat]
    omega
  · rintro rfl
    have hn := n.toNat_lt
    have hx : (BitVec.ofNat 256 n.toNat).toNat = n.toNat := by
      rw [BitVec.toNat_ofNat]; omega
    rw [hx, if_pos hn, UInt64.ofNat_toNat]

@[simp] theorem toNat_ofU64 (n : UInt64) : (ofU64 n).toNat = n.toNat := by
  have := n.toNat_lt
  rw [ofU64, BitVec.toNat_ofNat]
  omega

/-! ## Text -/

/-- The decimal text of a word. -/
def toText (x : U256) : Text := decimal x.toNat

/-- The value of a digit, up to base `36`. -/
def digitValue (c : Char) : Option ℕ :=
  if c.isDigit then some (c.toNat - '0'.toNat)
  else if 'a' ≤ c ∧ c ≤ 'z' then some (c.toNat - 'a'.toNat + 10)
  else if 'A' ≤ c ∧ c ≤ 'Z' then some (c.toNat - 'A'.toNat + 10)
  else none

/-- The number a text stands for in base `radix`, skipping underscores. -/
def parseDigits (radix : ℕ) : Text → ℕ → Option ℕ
  | [], acc => some acc
  | c :: t, acc =>
    if c = '_' then parseDigits radix t acc
    else match digitValue c with
      | some d => if d < radix then parseDigits radix t (radix * acc + d) else none
      | none => none

/-- The word a text stands for in base `radix`. -/
def fromStrRadix (t : Text) (radix : ℕ) : Option U256 :=
  (parseDigits radix t 0).bind fun v => if v < 2 ^ 256 then some (BitVec.ofNat 256 v) else none

/-- The word a text stands for: in base ten, unless a prefix says otherwise. -/
def fromStr : Text → Option U256
  | '0' :: 'x' :: t => fromStrRadix t 16
  | '0' :: 'X' :: t => fromStrRadix t 16
  | '0' :: 'o' :: t => fromStrRadix t 8
  | '0' :: 'O' :: t => fromStrRadix t 8
  | '0' :: 'b' :: t => fromStrRadix t 2
  | '0' :: 'B' :: t => fromStrRadix t 2
  | t => fromStrRadix t 10

theorem parseDigits_of_isDigit {t : Text} (ht : ∀ c ∈ t, c.isDigit) (acc : ℕ) :
    parseDigits 10 t acc = some (Nat.ofDigitChars 10 t acc) := by
  induction t generalizing acc with
  | nil => rfl
  | cons c t ih =>
    have hc := ht c List.mem_cons_self
    have hne : c ≠ '_' := by rintro rfl; exact absurd hc (by decide)
    rw [parseDigits, if_neg hne, digitValue, if_pos hc]
    simp only
    rw [if_pos (Decimal.digit_value_lt hc), ih fun d hd => ht d (List.mem_cons_of_mem _ hd),
      Nat.ofDigitChars_cons]

/-- A text of digits has no prefix. -/
theorem fromStr_of_isDigit {t : Text} (ht : ∀ c ∈ t, c.isDigit) :
    fromStr t = fromStrRadix t 10 := by
  unfold fromStr
  split <;> first
    | rfl
    | exact absurd (ht _ (List.mem_cons_of_mem _ List.mem_cons_self)) (by decide)

theorem fromStr_decimal {n : ℕ} (h : n < 2 ^ 256) :
    fromStr (decimal n) = some (BitVec.ofNat 256 n) := by
  rw [fromStr_of_isDigit fun _ => Decimal.isDigit_of_mem_decimal, fromStrRadix,
    parseDigits_of_isDigit fun _ => Decimal.isDigit_of_mem_decimal]
  change (some (Decimal.value (decimal n))).bind _ = _
  rw [Decimal.value_decimal, Option.bind_some, if_pos h]

@[simp] theorem fromStr_toText (x : U256) : fromStr (toText x) = some x := by
  rw [toText, fromStr_decimal x.isLt, BitVec.ofNat_toNat, BitVec.setWidth_eq]

/-- A decimal text is not a word of letters. -/
theorem toText_ne_of_mem {x : U256} {t : Text} {c : Char} (hc : c ∈ t) (hd : ¬c.isDigit) :
    toText x ≠ t := fun h => hd (Decimal.isDigit_of_mem_decimal (h ▸ hc))

end U256

/-! ## Encoded arguments -/

/-- The word at an offset, most significant byte first. -/
def wordAt (b : Bytes) (offset : ℕ) : U256 :=
  BitVec.ofNat 256 (leValue ((b.drop offset).take 32).reverse)

end ExEx
