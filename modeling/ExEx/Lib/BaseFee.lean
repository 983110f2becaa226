import Mathlib.Tactic.Ring
import Mathlib.Tactic.Linarith

/-!
# The base fee of EIP-1559

The base fee of a block is that of its parent, changed by how much gas the parent
used: it rises when that is more than the target, a part of the gas limit, and
falls when it is less, by at most one part in `maxChangeDenominator`.

A parent that used some gas and one that used none may be followed by the same
base fee, as it is rounded: `nextBaseFee_eq_iff` says when.
-/

namespace ExEx

/-- How base fees change. -/
structure BaseFeeParams where
  maxChangeDenominator : ℕ
  elasticityMultiplier : ℕ
  maxChangeDenominator_pos : 0 < maxChangeDenominator

namespace BaseFeeParams

/-- The parameters of Ethereum. -/
def ethereum : BaseFeeParams := ⟨8, 2, by decide⟩

variable (p : BaseFeeParams)

/-- The target of the gas used in a block. -/
def target (gasLimit : ℕ) : ℕ := gasLimit / p.elasticityMultiplier

/-- The base fee of the next block. -/
def nextBaseFee (gasUsed gasLimit baseFee : ℕ) : ℕ :=
  let target := p.target gasLimit
  if gasUsed = target then baseFee
  else if target < gasUsed then
    baseFee + max 1 (baseFee * (gasUsed - target) / (target * p.maxChangeDenominator))
  else baseFee - baseFee * (target - gasUsed) / (target * p.maxChangeDenominator)

variable {p} {gasUsed gasLimit baseFee : ℕ}

theorem lt_nextBaseFee (h : p.target gasLimit < gasUsed) :
    baseFee < p.nextBaseFee gasUsed gasLimit baseFee := by
  rw [nextBaseFee, if_neg h.ne', if_pos h]
  exact Nat.lt_add_of_pos_right (Nat.lt_of_lt_of_le Nat.one_pos (le_max_left _ _))

theorem nextBaseFee_of_le (h : gasUsed ≤ p.target gasLimit) :
    p.nextBaseFee gasUsed gasLimit baseFee = baseFee -
      baseFee * (p.target gasLimit - gasUsed) / (p.target gasLimit * p.maxChangeDenominator) := by
  rw [nextBaseFee]
  split_ifs with heq hlt
  · rw [heq, Nat.sub_self, Nat.mul_zero, Nat.zero_div, Nat.sub_zero]
  · exact absurd h (not_le.2 hlt)
  · rfl

theorem nextBaseFee_le (h : gasUsed ≤ p.target gasLimit) :
    p.nextBaseFee gasUsed gasLimit baseFee ≤ baseFee := by
  rw [nextBaseFee_of_le h]
  exact Nat.sub_le _ _

theorem fall_le {fee unused target d : ℕ} (hd : 0 < d) (h : unused ≤ target) :
    fee * unused / (target * d) ≤ fee := by
  refine Nat.div_le_of_le_mul ?_
  rw [Nat.mul_comm]
  exact Nat.mul_le_mul_right fee (h.trans (Nat.le_mul_of_pos_right target hd))

/-- The base fee falls by a whole part when no gas is used, and by as much for some
    gas exactly if its share of the fee is within what rounding takes off. -/
theorem mul_div_eq_iff {fee used unused d : ℕ} (hd : 0 < d) (hpos : 0 < used + unused) :
    fee * unused / ((used + unused) * d) = fee * (used + unused) / ((used + unused) * d) ↔
      fee * used ≤ fee % d * (used + unused) := by
  have hwhole : fee * (used + unused) / ((used + unused) * d) = fee / d := by
    rw [Nat.mul_comm fee, Nat.mul_div_mul_left _ _ hpos]
  have hle : fee * unused / ((used + unused) * d) ≤ fee / d := by
    rw [← hwhole]
    exact Nat.div_le_div_right (Nat.mul_le_mul_left fee (Nat.le_add_left unused used))
  have hdiv : fee / d ≤ fee * unused / ((used + unused) * d) ↔
      fee / d * ((used + unused) * d) ≤ fee * unused :=
    Nat.le_div_iff_mul_le (Nat.mul_pos hpos hd)
  have hfee := Nat.div_add_mod fee d
  rw [hwhole, le_antisymm_iff, and_iff_right hle, hdiv]
  -- Both sides say that the whole parts of the used share are at most the rest of the other.
  generalize fee / d = q at hfee ⊢
  generalize fee % d = r at hfee ⊢
  subst hfee
  constructor
  · intro h
    linarith
  · intro h
    linarith

/-- The base fee after some gas is the one after none exactly if the gas is within
    the target, and its share of the fee within what rounding takes off. -/
theorem nextBaseFee_eq_iff :
    p.nextBaseFee 0 gasLimit baseFee = p.nextBaseFee gasUsed gasLimit baseFee ↔
      gasUsed ≤ p.target gasLimit ∧
        baseFee * gasUsed ≤ baseFee % p.maxChangeDenominator * p.target gasLimit := by
  rcases le_or_gt gasUsed (p.target gasLimit) with h | h
  · obtain ⟨unused, htarget⟩ := Nat.exists_eq_add_of_le h
    have hd := p.maxChangeDenominator_pos
    rw [nextBaseFee_of_le h, nextBaseFee_of_le (Nat.zero_le _), htarget, Nat.sub_zero,
      Nat.add_sub_cancel_left, and_iff_right (Nat.le_add_right gasUsed unused)]
    rcases Nat.eq_zero_or_pos (gasUsed + unused) with h0 | hpos
    · obtain ⟨rfl, rfl⟩ := Nat.add_eq_zero_iff.1 h0
      simp
    · rw [tsub_right_inj (fall_le hd le_rfl) (fall_le hd (Nat.le_add_left unused gasUsed)), eq_comm,
        mul_div_eq_iff hd hpos]
  · have hlt : p.nextBaseFee 0 gasLimit baseFee < p.nextBaseFee gasUsed gasLimit baseFee :=
      (nextBaseFee_le (Nat.zero_le _)).trans_lt (lt_nextBaseFee h)
    exact ⟨fun heq => absurd heq hlt.ne, fun hle => absurd hle.1 (not_le.2 h)⟩

/-! ## Blocks that use no gas -/

variable (p) in
/-- The base fee after one that falls as far as it can. -/
def fallen (baseFee : ℕ) : ℕ := baseFee - baseFee / p.maxChangeDenominator

theorem fallen_mono {fee fee' : ℕ} (h : fee ≤ fee') : p.fallen fee ≤ p.fallen fee' := by
  -- By whole parts: a step up in the fee is at least one in what is taken off.
  induction h with
  | refl => exact le_rfl
  | step h ih =>
    refine ih.trans ?_
    rw [fallen, fallen, Nat.succ_div]
    split_ifs
    · omega
    · omega

theorem fallen_eq_self {fee : ℕ} (h : fee < p.maxChangeDenominator) : p.fallen fee = fee := by
  rw [fallen, Nat.div_eq_of_lt h, Nat.sub_zero]

/-- The base fee does not rise after a block that used no gas, nor fall further than it can. -/
theorem nextBaseFee_zero (gasLimit baseFee : ℕ) :
    p.fallen baseFee ≤ p.nextBaseFee 0 gasLimit baseFee ∧
      p.nextBaseFee 0 gasLimit baseFee ≤ baseFee := by
  refine ⟨?_, nextBaseFee_le (Nat.zero_le _)⟩
  rw [nextBaseFee_of_le (Nat.zero_le _), fallen, Nat.sub_zero]
  refine Nat.sub_le_sub_left ?_ baseFee
  rcases Nat.eq_zero_or_pos (p.target gasLimit) with h | h
  · rw [h, Nat.mul_zero, Nat.zero_div]
    exact Nat.zero_le _
  · rw [Nat.mul_comm baseFee, Nat.mul_div_mul_left _ _ h]

/-- A base fee that cannot fall any more is a bound on how far one above it falls. -/
theorem le_iterate_fallen {floor fee : ℕ} (hfloor : floor < p.maxChangeDenominator)
    (h : floor ≤ fee) (n : ℕ) : floor ≤ p.fallen^[n] fee := by
  induction n with
  | zero => exact h
  | succ n ih =>
    rw [Function.iterate_succ_apply']
    calc floor = p.fallen floor := (fallen_eq_self hfloor).symm
      _ ≤ p.fallen (p.fallen^[n] fee) := fallen_mono ih

end BaseFeeParams

end ExEx
