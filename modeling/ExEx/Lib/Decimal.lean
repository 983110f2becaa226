import Mathlib.Algebra.Order.Group.Nat
import Mathlib.Data.Char
import Mathlib.Data.List.Lex
import Mathlib.Tactic.Ring

/-!
# Decimal text

Numbers written in decimal, and the order their texts have as texts. Texts are
compared character by character from the left (`List`'s lexicographic order),
which for digits is the order of their bytes.

* `value_decimal`: the value of the text of `n` is `n`, so different numbers
  have different texts;
* `lt_iff_value_lt`: texts of the same length are ordered like their values;
* `decimal_le_iff`: in general a text is compared with the *leading digits* of
  a longer one, `m ≤ n / 10 ^ k` where `k` counts the digits `m` is short of.
-/

namespace ExEx

/-- A text, character by character. -/
abbrev Text := List Char

/-- The decimal text of a number. -/
def decimal (n : ℕ) : Text := Nat.toDigits 10 n

namespace Decimal

/-- The value of a text of decimal digits. -/
def value (t : Text) : ℕ := Nat.ofDigitChars 10 t 0

/-- The number of digits of a number. -/
def numDigits (n : ℕ) : ℕ := (decimal n).length

@[simp] theorem value_decimal (n : ℕ) : value (decimal n) = n := Nat.ofDigitChars_ten_toDigits

theorem decimal_injective : Function.Injective decimal := fun m n h => by
  rw [← value_decimal m, h, value_decimal]

@[simp] theorem decimal_inj {m n : ℕ} : decimal m = decimal n ↔ m = n := decimal_injective.eq_iff

theorem isDigit_of_mem_decimal {n : ℕ} {c : Char} (h : c ∈ decimal n) : c.isDigit :=
  Nat.isDigit_of_mem_toDigits (by decide) (by decide) h

/-- The digits but the last are those of the quotient. -/
theorem decimal_of_ten_le {n : ℕ} (h : 10 ≤ n) :
    decimal n = decimal (n / 10) ++ [Nat.digitChar (n % 10)] :=
  Nat.toDigits_of_base_le (by decide) h

theorem numDigits_le_iff {n k : ℕ} (hk : 0 < k) : numDigits n ≤ k ↔ n < 10 ^ k :=
  Nat.length_toDigits_le_iff (by decide) hk

theorem numDigits_pos (n : ℕ) : 0 < numDigits n := Nat.length_toDigits_pos

/-- Larger numbers have at least as many digits. -/
theorem numDigits_mono {m n : ℕ} (h : m ≤ n) : numDigits m ≤ numDigits n :=
  (numDigits_le_iff (numDigits_pos n)).2
    (h.trans_lt ((numDigits_le_iff (numDigits_pos n)).1 le_rfl))

/-- Dropping the last `k` digits divides by `10 ^ k`. -/
theorem decimal_eq_append {n k : ℕ} (hk : k < numDigits n) :
    ∃ s : Text, s.length = k ∧ decimal n = decimal (n / 10 ^ k) ++ s := by
  induction k generalizing n with
  | zero => exact ⟨[], rfl, by simp⟩
  | succ k ih =>
    have hn : 10 ≤ n := by
      by_contra hlt
      have := (numDigits_le_iff (k := 1) (by decide)).2 (by omega : n < 10 ^ 1)
      omega
    have hlen : numDigits n = numDigits (n / 10) + 1 := by
      rw [numDigits, decimal_of_ten_le hn, List.length_append]; rfl
    obtain ⟨s, hs, heq⟩ := ih (n := n / 10) (by omega)
    refine ⟨s ++ [Nat.digitChar (n % 10)], by simp [hs], ?_⟩
    rw [decimal_of_ten_le hn, heq, Nat.div_div_eq_div_mul, ← pow_succ', List.append_assoc]

/-! ## The order of texts -/

/-- A digit is worth less than ten. -/
theorem digit_value_lt {c : Char} (h : c.isDigit) : c.toNat - '0'.toNat < 10 := by
  have hc := Char.isDigit_iff_toNat.1 h
  have h0 : '0'.toNat = 48 := rfl
  have h9 : '9'.toNat = 57 := rfl
  omega

/-- Digits are determined by what they are worth. -/
theorem digit_value_inj {a b : Char} (ha : a.isDigit) (hb : b.isDigit) :
    a.toNat - '0'.toNat = b.toNat - '0'.toNat ↔ a = b := by
  have ha' := Char.isDigit_iff_toNat.1 ha
  have hb' := Char.isDigit_iff_toNat.1 hb
  have h0 : '0'.toNat = 48 := rfl
  exact ⟨fun h => Char.toNat_inj.1 (by omega), fun h => h ▸ rfl⟩

theorem digit_lt_iff {a b : Char} (ha : a.isDigit) (hb : b.isDigit) :
    a < b ↔ a.toNat - '0'.toNat < b.toNat - '0'.toNat := by
  have ha' := Char.isDigit_iff_toNat.1 ha
  have hb' := Char.isDigit_iff_toNat.1 hb
  have h0 : '0'.toNat = 48 := rfl
  rw [h0, Char.lt_def, UInt32.lt_iff_toNat_lt]
  change a.toNat < b.toNat ↔ _
  omega

theorem value_cons (c : Char) (t : Text) :
    value (c :: t) = 10 ^ t.length * (c.toNat - '0'.toNat) + value t := by
  rw [value, Nat.ofDigitChars_cons, Nat.ofDigitChars_eq_ofDigitChars_zero, value]
  simp

theorem value_lt {t : Text} (ht : ∀ c ∈ t, c.isDigit) : value t < 10 ^ t.length := by
  induction t with
  | nil => simp [value]
  | cons c t ih =>
    have hc := digit_value_lt (ht c List.mem_cons_self)
    have hv := ih fun d hd => ht d (List.mem_cons_of_mem _ hd)
    rw [value_cons, List.length_cons, pow_succ]
    have : 10 ^ t.length * (c.toNat - '0'.toNat) ≤ 10 ^ t.length * 9 :=
      Nat.mul_le_mul_left _ (Nat.le_of_lt_succ hc)
    omega

/-- Texts of digits of the same length are ordered like their values. -/
theorem lt_iff_value_lt {t u : Text} (ht : ∀ c ∈ t, c.isDigit) (hu : ∀ c ∈ u, c.isDigit)
    (hlen : t.length = u.length) : t < u ↔ value t < value u := by
  induction t generalizing u with
  | nil =>
    obtain rfl := List.length_eq_zero_iff.1 hlen.symm
    simp
  | cons a t ih =>
    obtain _ | ⟨b, u⟩ := u
    · simp at hlen
    have hlen' : t.length = u.length := by simpa using hlen
    have ht' : ∀ c ∈ t, c.isDigit := fun c hc => ht c (List.mem_cons_of_mem _ hc)
    have hu' : ∀ c ∈ u, c.isDigit := fun c hc => hu c (List.mem_cons_of_mem _ hc)
    have hva := value_lt ht'
    have hvb := value_lt hu'
    rw [List.cons_lt_cons_iff, ih ht' hu' hlen', value_cons, value_cons, ← hlen',
      digit_lt_iff (ht a List.mem_cons_self) (hu b List.mem_cons_self)]
    rw [← hlen'] at hvb
    rw [← digit_value_inj (ht a List.mem_cons_self) (hu b List.mem_cons_self)]
    generalize a.toNat - '0'.toNat = x
    generalize b.toNat - '0'.toNat = y
    -- The leading digit decides, as what follows is worth less than one of it.
    rcases Nat.lt_trichotomy x y with h | h | h
    · have := Nat.mul_le_mul_left (10 ^ t.length) (Nat.succ_le_of_lt h)
      rw [Nat.mul_succ] at this
      exact ⟨fun _ => by omega, fun _ => .inl h⟩
    · subst h
      exact ⟨fun h' => by rcases h' with h' | ⟨-, h'⟩ <;> omega, fun h' => .inr ⟨rfl, by omega⟩⟩
    · have := Nat.mul_le_mul_left (10 ^ t.length) (Nat.succ_le_of_lt h)
      rw [Nat.mul_succ] at this
      exact ⟨fun h' => by rcases h' with h' | ⟨h', -⟩ <;> omega, fun h' => by omega⟩

/-- What follows the first characters of a longer text does not matter. -/
theorem le_append_iff {t p : Text} (s : Text) (hlen : t.length = p.length) :
    t ≤ p ++ s ↔ t ≤ p := by
  rw [← not_lt, ← not_lt, not_iff_not]
  induction t generalizing p with
  | nil =>
    obtain rfl := List.length_eq_zero_iff.1 hlen.symm
    simp
  | cons a t ih =>
    obtain _ | ⟨b, p⟩ := p
    · simp at hlen
    rw [List.cons_append, List.cons_lt_cons_iff, List.cons_lt_cons_iff, ih (by simpa using hlen)]

/-- The text of `m` is at most that of a number with at least as many digits
    iff `m` is at most its leading digits. -/
theorem decimal_le_iff {m n : ℕ} (h : numDigits m ≤ numDigits n) :
    decimal m ≤ decimal n ↔ m ≤ n / 10 ^ (numDigits n - numDigits m) := by
  have hpos := numDigits_pos m
  obtain ⟨s, hs, heq⟩ := decimal_eq_append (n := n) (k := numDigits n - numDigits m) (by omega)
  have hlen : (decimal m).length = (decimal (n / 10 ^ (numDigits n - numDigits m))).length := by
    have := congrArg List.length heq
    rw [List.length_append, hs] at this
    unfold numDigits at *
    omega
  rw [heq, le_append_iff s hlen, ← not_lt, lt_iff_value_lt (fun _ => isDigit_of_mem_decimal)
    (fun _ => isDigit_of_mem_decimal) hlen.symm, value_decimal, value_decimal, not_lt]

end Decimal

end ExEx
