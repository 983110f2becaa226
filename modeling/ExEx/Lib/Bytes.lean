import Mathlib.Algebra.Order.Group.Nat
import Mathlib.Tactic.Ring

/-!
# Byte strings

Byte strings, byte strings of a fixed length, and numbers written in base `256`
with the least significant byte first.

* `FixedBytes n` carries its length, and `FixedBytes.tryFrom` is the only way in
  from a slice;
* `toLeBytes k n` are the `k` low bytes of `n`, and `leValue` reads bytes back:
  `leValue (toLeBytes k n) = n % 256 ^ k` (`leValue_toLeBytes`);
* `Utf8` is a byte string that is well-formed UTF-8.
-/

namespace ExEx

/-- A byte string. -/
abbrev Bytes := List UInt8

/-- A byte string of length `n`. -/
structure FixedBytes (n : ℕ) where
  /-- The bytes. -/
  toVec : Bytes
  /-- There are `n` of them. -/
  length_toVec : toVec.length = n
  deriving DecidableEq

namespace FixedBytes

variable {n : ℕ}

@[ext]
theorem ext {a b : FixedBytes n} (h : a.toVec = b.toVec) : a = b := by
  cases a; cases b; congr

/-- All bytes zero. -/
def zero : FixedBytes n := ⟨List.replicate n 0, List.length_replicate⟩

instance : Inhabited (FixedBytes n) := ⟨zero⟩

/-- The fixed byte string of a slice, when the slice has the right length. -/
def tryFrom (b : Bytes) : Option (FixedBytes n) :=
  if h : b.length = n then some ⟨b, h⟩ else none

@[simp] theorem tryFrom_toVec (a : FixedBytes n) : tryFrom a.toVec = some a := by
  simp [tryFrom, a.length_toVec]

end FixedBytes

/-! ## Numbers as bytes -/

/-- The value of a byte string, least significant byte first. -/
def leValue : Bytes → ℕ
  | [] => 0
  | b :: l => b.toNat + 256 * leValue l

/-- The `k` low bytes of a number, least significant first. -/
def toLeBytes : ℕ → ℕ → Bytes
  | 0, _ => []
  | k + 1, n => UInt8.ofNat n :: toLeBytes k (n / 256)

@[simp] theorem length_toLeBytes (k n : ℕ) : (toLeBytes k n).length = k := by
  induction k generalizing n with
  | zero => rfl
  | succ k ih => rw [toLeBytes, List.length_cons, ih]

theorem leValue_toLeBytes (k n : ℕ) : leValue (toLeBytes k n) = n % 256 ^ k := by
  induction k generalizing n with
  | zero => simp [toLeBytes, leValue, Nat.mod_one]
  | succ k ih =>
    rw [toLeBytes, leValue, ih, pow_succ', Nat.mod_mul]
    simp

theorem leValue_toLeBytes_of_lt {k n : ℕ} (h : n < 256 ^ k) : leValue (toLeBytes k n) = n := by
  rw [leValue_toLeBytes, Nat.mod_eq_of_lt h]

/-- Some bytes have no larger value than as many bytes can have. -/
theorem leValue_lt (b : Bytes) : leValue b < 256 ^ b.length := by
  induction b with
  | nil => exact Nat.one_pos
  | cons c b ih =>
    have hc := c.toNat_lt
    rw [leValue, List.length_cons, pow_succ]
    omega

namespace Word

variable {w : ℕ}

/-- The `k` bytes of a machine word, least significant first. -/
def toLeBytesVec (k : ℕ) (x : BitVec w) : Bytes := toLeBytes k x.toNat

/-- The word a slice stands for, when it is not longer than a word and its value fits. -/
def tryFromLeSlice (w : ℕ) (b : Bytes) : Option (BitVec w) :=
  if b.length ≤ (w + 7) / 8 ∧ leValue b < 2 ^ w then some (BitVec.ofNat w (leValue b)) else none

/-- The word a slice of exactly `k` bytes stands for. -/
def fromLeBytes (w k : ℕ) (b : Bytes) : Option (BitVec w) :=
  if b.length = k then some (BitVec.ofNat w (leValue b)) else none

@[simp] theorem length_toLeBytesVec (k : ℕ) (x : BitVec w) : (toLeBytesVec k x).length = k :=
  length_toLeBytes k x.toNat

theorem tryFromLeSlice_toLeBytesVec {k : ℕ} (hk : k ≤ (w + 7) / 8) (h : 2 ^ w ≤ 256 ^ k)
    (x : BitVec w) : tryFromLeSlice w (toLeBytesVec k x) = some x := by
  have hx : leValue (toLeBytesVec k x) = x.toNat :=
    leValue_toLeBytes_of_lt (x.isLt.trans_le h)
  rw [tryFromLeSlice, length_toLeBytesVec, hx, if_pos ⟨hk, x.isLt⟩, BitVec.ofNat_toNat,
    BitVec.setWidth_eq]

theorem fromLeBytes_toLeBytesVec {k : ℕ} (h : 2 ^ w ≤ 256 ^ k) (x : BitVec w) :
    fromLeBytes w k (toLeBytesVec k x) = some x := by
  have hx : leValue (toLeBytesVec k x) = x.toNat :=
    leValue_toLeBytes_of_lt (x.isLt.trans_le h)
  rw [fromLeBytes, if_pos (length_toLeBytesVec k x), hx, BitVec.ofNat_toNat, BitVec.setWidth_eq]

/-- A word is the value of the slice it was read from. -/
theorem toNat_of_tryFromLeSlice {b : Bytes} {x : BitVec w} (h : tryFromLeSlice w b = some x) :
    x.toNat = leValue b := by
  rw [tryFromLeSlice] at h
  split_ifs at h with hfits
  obtain rfl := Option.some.inj h
  rw [BitVec.toNat_ofNat, Nat.mod_eq_of_lt hfits.2]

/-- So is one that was read from as many bytes as it has. -/
theorem toNat_of_fromLeBytes {k : ℕ} (hk : 256 ^ k ≤ 2 ^ w) {b : Bytes} {x : BitVec w}
    (h : fromLeBytes w k b = some x) : x.toNat = leValue b := by
  rw [fromLeBytes] at h
  split_ifs at h with hlength
  obtain rfl := Option.some.inj h
  have hlt := (leValue_lt b).trans_le (hlength ▸ hk)
  rw [BitVec.toNat_ofNat, Nat.mod_eq_of_lt hlt]

end Word

/-! ## UTF-8 -/

namespace Utf8

/-- The ranges of the bytes that follow the first one of a character. -/
def tails (first : UInt8) : Option (List (UInt8 × UInt8)) :=
  if first ≤ 0x7f then some []
  else if first < 0xc2 then none
  else if first ≤ 0xdf then some [(0x80, 0xbf)]
  else if first = 0xe0 then some [(0xa0, 0xbf), (0x80, 0xbf)]
  else if first = 0xed then some [(0x80, 0x9f), (0x80, 0xbf)]
  else if first ≤ 0xef then some [(0x80, 0xbf), (0x80, 0xbf)]
  else if first = 0xf0 then some [(0x90, 0xbf), (0x80, 0xbf), (0x80, 0xbf)]
  else if first ≤ 0xf3 then some [(0x80, 0xbf), (0x80, 0xbf), (0x80, 0xbf)]
  else if first = 0xf4 then some [(0x80, 0x8f), (0x80, 0xbf), (0x80, 0xbf)]
  else none

/-- Whether some bytes are the rest of a character, of which bytes in the ranges
    `owed` are still to come, and then characters. -/
def check (owed : List (UInt8 × UInt8)) : Bytes → Bool
  | [] => owed.isEmpty
  | b :: l =>
    match owed with
    | (low, high) :: owed => decide (low ≤ b) && decide (b ≤ high) && check owed l
    | [] =>
      match tails b with
      | some owed => check owed l
      | none => false

end Utf8

/-- A text in UTF-8. -/
structure Utf8 where
  /-- The bytes. -/
  toVec : Bytes
  /-- They are well-formed. -/
  valid : Utf8.check [] toVec = true
  deriving DecidableEq

/-- The text of some bytes, when they are well-formed. -/
def Utf8.fromUtf8 (b : Bytes) : Option Utf8 := if h : Utf8.check [] b = true then some ⟨b, h⟩ else none

end ExEx
