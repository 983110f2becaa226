import ExEx.Rollup.RoundTrip
import Mathlib.Order.Bounds.Basic

/-!
# The tip

Block numbers are stored as decimal texts, and the tip is the last text. Among
texts of the same length that is the greatest number; but a text comes after a
*longer* one as soon as it comes after its leading digits, so that `9` is the
tip of the blocks `0` to `10`.

* `checkTip_iff`: the tip check passes for the number whose text is last;
* `tip_iff`: this is the greatest number stored exactly if no stored number
  exceeds the leading digits of the greatest one.
-/

namespace ExEx.Rollup

open Reth (RecoveredBlock)
open Decimal (numDigits numDigits_mono decimal_le_iff)

/-- The numbers of the stored blocks. -/
def storedNumbers (t : Tables) : List UInt64 := t.block.entries.map fun e => e.2.number

/-- Every block is stored under the text of its number. -/
def KeyedByNumber (t : Tables) : Prop := ∀ e ∈ t.block.entries, e.1 = numberText e.2.number

instance (t : Tables) : Decidable (KeyedByNumber t) :=
  inferInstanceAs (Decidable (∀ e ∈ t.block.entries, _))

theorem keyedByNumber_iff {t : Tables} :
    KeyedByNumber t ↔ ∀ text block, t.block.lookup text = some block → text = numberText block.number :=
  ⟨fun h text block hb => h (text, block) (Assoc.mem_entries_iff.2 hb),
    fun h e he => h e.1 e.2 (Assoc.mem_entries_iff.1 he)⟩

theorem KeyedByNumber.congr {t t' : Tables} (h : KeyedByNumber t) (hb : t'.block = t.block) :
    KeyedByNumber t' := by
  rw [KeyedByNumber, hb]; exact h

theorem KeyedByNumber.put {t : Tables} (h : KeyedByNumber t) (block : RecoveredBlock) :
    KeyedByNumber { t with block := t.block.put (numberText block.number) block } := by
  refine keyedByNumber_iff.2 ?_
  intro text b hb
  rw [Assoc.lookup_put] at hb
  split_ifs at hb with htext
  · rw [htext, Option.some.inj hb]
  · exact keyedByNumber_iff.1 h text b hb

theorem KeyedByNumber.erase {t : Tables} (h : KeyedByNumber t) (text : Text) :
    KeyedByNumber { t with block := t.block.erase text } :=
  fun e he => h e (List.mem_of_mem_filter he)

theorem numberText_injective : Function.Injective numberText := fun _ _ h =>
  UInt64.toNat_inj.1 (Decimal.decimal_injective h)

theorem ofU64_injective : Function.Injective U256.ofU64 := fun m n h =>
  UInt64.toNat_inj.1 (by rw [← U256.toNat_ofU64, h, U256.toNat_ofU64])

/-- The predecessor of a number other than zero. -/
theorem toNat_sub_one {n : UInt64} (h : n ≠ 0) : (n - 1).toNat = n.toNat - 1 := by
  have h0 : n.toNat ≠ 0 := fun h' => h (UInt64.toNat_inj.1 h')
  have h1 : (1 : UInt64) ≤ n := UInt64.le_iff_toNat_le.2 (Nat.one_le_iff_ne_zero.2 h0)
  rw [UInt64.toNat_sub_of_le _ _ h1]
  rfl

theorem ofU64_sub_one {n : UInt64} (h : n ≠ 0) : U256.ofU64 n - 1 = .ofU64 (n - 1) := by
  have h0 : n.toNat ≠ 0 := fun h' => h (UInt64.toNat_inj.1 h')
  have hn := n.toNat_lt
  apply BitVec.eq_of_toNat_eq
  rw [U256.toNat_ofU64, toNat_sub_one h, BitVec.toNat_sub_of_le, U256.toNat_ofU64]
  · rfl
  · rw [BitVec.le_def, U256.toNat_ofU64]
    exact Nat.one_le_iff_ne_zero.2 h0

section

variable {t : Tables}

theorem keys_eq (ht : KeyedByNumber t) : t.block.keys = (storedNumbers t).map numberText := by
  rw [storedNumbers, List.map_map]
  exact List.map_congr_left ht

/-- The numbers of stored blocks are those under which a block is found. -/
theorem mem_storedNumbers_iff (ht : KeyedByNumber t) {n : UInt64} :
    n ∈ storedNumbers t ↔ (t.block.lookup (numberText n)).isSome := by
  rw [← Assoc.mem_keys_iff, keys_eq ht, List.mem_map_of_injective numberText_injective]

/-! ## The last text -/

theorem tipBlockNumber_iff (ht : KeyedByNumber t) {x : U256} :
    tipBlockNumber t = .ok x ↔
      ∃ n ∈ storedNumbers t, x = .ofU64 n ∧ ∀ m ∈ storedNumbers t, numberText m ≤ numberText n := by
  -- The text of a `u64` is that of its word.
  have hparse (n : UInt64) : parseWord (numberText n) = .ok (.ofU64 n) := by
    rw [parseWord, ← toText_ofU64, U256.fromStr_toText]
  rw [tipBlockNumber, keys_eq ht]
  constructor
  · intro h
    split at h
    · cases h
    next text hmax =>
    obtain ⟨hmem, hle⟩ := List.max?_eq_some_iff.1 hmax
    obtain ⟨n, hn, rfl⟩ := List.mem_map.1 hmem
    rw [hparse] at h
    exact ⟨n, hn, (Except.ok.inj h).symm, fun m hm => hle _ (List.mem_map_of_mem hm)⟩
  · rintro ⟨n, hn, rfl, hle⟩
    have hmax : ((storedNumbers t).map numberText).max? = some (numberText n) := by
      refine List.max?_eq_some_iff.2 ⟨List.mem_map_of_mem hn, ?_⟩
      intro text htext
      obtain ⟨m, hm, rfl⟩ := List.mem_map.1 htext
      exact hle m hm
    rw [hmax]
    exact hparse n

theorem checkTip_eq_ok_iff {x : U256} : checkTip t x = .ok () ↔ tipBlockNumber t = .ok x := by
  rw [checkTip]
  cases tipBlockNumber t with
  | error e => exact ⟨nofun, nofun⟩
  | ok tip =>
    by_cases h : x = tip
    · simp [h, bind, Except.bind]
    · simp [h, Ne.symm h, bind, Except.bind]

/-- The tip check passes for the number whose text is last. -/
theorem checkTip_iff (ht : KeyedByNumber t) {x : U256} :
    checkTip t x = .ok () ↔
      ∃ n ∈ storedNumbers t, x = .ofU64 n ∧ ∀ m ∈ storedNumbers t, numberText m ≤ numberText n :=
  checkTip_eq_ok_iff.trans (tipBlockNumber_iff ht)

/-- A revert that fails the tip check changes nothing. -/
theorem transaction_revertTipBlock_of_checkTip {x : U256} (h : checkTip t x ≠ .ok ()) :
    ∃ e, transaction (revertTipBlock · x) t = (.error e, t) := by
  rcases hc : checkTip t x with e | ⟨⟨⟩⟩
  · have hr : revertTipBlock t x = .error e := by rw [revertTipBlock, hc]; rfl
    exact ⟨e, by rw [transaction, hr]⟩
  · exact absurd hc h

/-! ## The greatest number -/

theorem exists_isGreatest {l : List UInt64} (hl : l ≠ []) : ∃ n, IsGreatest {m | m ∈ l} n := by
  obtain ⟨n, hn⟩ := Option.isSome_iff_exists.1 (List.isSome_max?_iff.2 hl)
  obtain ⟨hmem, hle⟩ := List.max?_eq_some_iff.1 hn
  exact ⟨n, hmem, hle⟩

/-- The tip check accepts the greatest number stored and nothing else, and a
    refused revert changes nothing, exactly if no stored number exceeds the
    leading digits of the greatest one. -/
theorem tip_iff (ht : KeyedByNumber t) :
    (∀ x : U256,
      (checkTip t x = .ok () ↔ ∃ n, x = .ofU64 n ∧ IsGreatest {m | m ∈ storedNumbers t} n) ∧
      ((¬∃ n, x = .ofU64 n ∧ IsGreatest {m | m ∈ storedNumbers t} n) →
        ∃ e, transaction (revertTipBlock · x) t = (.error e, t))) ↔
      ∀ n, IsGreatest {m | m ∈ storedNumbers t} n → ∀ m ∈ storedNumbers t,
        m.toNat ≤ n.toNat / 10 ^ (numDigits n.toNat - numDigits m.toNat) := by
  -- A number is at most the leading digits of the greatest one if its text is not after.
  have hle {n m : UInt64} (hn : IsGreatest {m | m ∈ storedNumbers t} n) (hm : m ∈ storedNumbers t) :
      numberText m ≤ numberText n ↔
        m.toNat ≤ n.toNat / 10 ^ (numDigits n.toNat - numDigits m.toNat) :=
    decimal_le_iff (numDigits_mono (UInt64.le_iff_toNat_le.1 (hn.2 hm)))
  constructor
  · intro h n hn m hm
    obtain ⟨n', hn', heq, hlast⟩ := (checkTip_iff ht).1 ((h (.ofU64 n)).1.2 ⟨n, rfl, hn⟩)
    obtain rfl := ofU64_injective heq
    exact (hle hn hm).1 (hlast m hm)
  · intro h x
    have hcheck : checkTip t x = .ok () ↔
        ∃ n, x = .ofU64 n ∧ IsGreatest {m | m ∈ storedNumbers t} n := by
      rw [checkTip_iff ht]
      constructor
      · rintro ⟨n, hn, rfl, hlast⟩
        -- The greatest number has the last text too.
        obtain ⟨n', hn'⟩ := exists_isGreatest (List.ne_nil_of_mem hn)
        have htext := le_antisymm (hlast n' hn'.1) ((hle hn' hn).2 (h n' hn' n hn))
        exact ⟨n, rfl, numberText_injective htext ▸ hn'⟩
      · rintro ⟨n, rfl, hn⟩
        exact ⟨n, hn.1, rfl, fun m hm => (hle hn hm).2 (h n hn m hm)⟩
    exact ⟨hcheck, fun hno => transaction_revertTipBlock_of_checkTip (mt hcheck.1 hno)⟩

end

/-! ### Eleven blocks -/

/-- The blocks `0` to `10`. -/
def elevenBlocks : List RecoveredBlock := (List.range 11).map fun i => numbered (.ofNat i)

/-- The tables with the blocks `0` to `10`, inserted in order. -/
def eleven : Tables :=
  { Tables.empty with block := .ofList (elevenBlocks.map fun b => (numberText b.number, b)) }

/-- Block `10` is the greatest, and the tip check takes block `9` instead. -/
theorem tenth_block_refused :
    elevenBlocks.foldlM (fun t block => insertBlockWithBundle t block idle) .empty = .ok eleven ∧
      KeyedByNumber eleven ∧ IsGreatest {m | m ∈ storedNumbers eleven} 10 ∧
      checkTip eleven (.ofU64 10) = .error (.notTip 10 9) ∧
      checkTip eleven (.ofU64 9) = .ok () := by
  have hall : (storedNumbers eleven).all fun m => m ≤ 10 := by decide
  exact ⟨rfl, by decide, ⟨by decide, fun m hm => of_decide_eq_true (List.all_eq_true.1 hall m hm)⟩,
    by decide +kernel, by decide +kernel⟩

theorem tip_eleven :
    (∀ x : U256,
      (checkTip eleven x = .ok () ↔
        ∃ n, x = .ofU64 n ∧ IsGreatest {m | m ∈ storedNumbers eleven} n) ∧
      ((¬∃ n, x = .ofU64 n ∧ IsGreatest {m | m ∈ storedNumbers eleven} n) →
        ∃ e, transaction (revertTipBlock · x) eleven = (.error e, eleven))) ↔
      ∀ n, IsGreatest {m | m ∈ storedNumbers eleven} n → ∀ m ∈ storedNumbers eleven,
        m.toNat ≤ n.toNat / 10 ^ (numDigits n.toNat - numDigits m.toNat) :=
  tip_iff (by decide)

end ExEx.Rollup
