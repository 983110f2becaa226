import ExEx.Rollup.Execution
import ExEx.Rollup.Reuse
import ExEx.Rollup.Tip

/-!
# What the EVM reads

While a block is executed, the EVM asks the database for accounts, slots, codes
and the hashes of earlier blocks.

* Every slot can be read, whatever was written and reverted (`storage_ok`).
* The hash of a block is asked of a column that the table of blocks does not
  have: it is never found, and agrees with the stored headers only where no block
  is stored (`blockHash_iff`).
* A code is stored with its padding, which is part of the code once it is read
  back (`codeByHash_iff`).
-/

namespace ExEx.Rollup

open Reth (RecoveredBlock Header)

/-! ## Blocks are found under their numbers -/

theorem keyedByNumber {t : Tables} (ht : storeCalls.Reachable t) : KeyedByNumber t := by
  refine ht.invariant ?_ ?_
  · intro t h
    obtain rfl : t = .empty := h
    decide
  intro t call t' _ h _ hstep
  cases call with
  | insertBlockWithBundle block bundle =>
    exact (h.put block).congr (block_insertBlockWithBundle hstep).2
  | revertTipBlock n => exact (h.erase n.toText).congr (reverted hstep).block_eq
  | upsertAccount address f =>
    obtain ⟨account, -, hstep⟩ := bind_eq_ok.1 hstep
    obtain rfl := Except.ok.inj hstep
    exact h.congr rfl

theorem getBlock_isSome_iff {t : Tables} (ht : storeCalls.Reachable t) {n : UInt64} :
    (getBlock t (.ofU64 n)).isSome ↔ n ∈ storedNumbers t := by
  rw [getBlock, toText_ofU64, mem_storedNumbers_iff (keyedByNumber ht)]

namespace Evm

/-! ## Accounts and slots -/

def basic (t : Tables) (address : Address) : Except Error (Option AccountInfo) :=
  .ok (getAccount t address)

def storage (t : Tables) (address : Address) (index : U256) : Except Error U256 := do
  let data ← getStorage t address (.ofU256 index)
  .ok (data.getD 0)

/-- Every slot can be read. -/
theorem storage_ok {t : Tables} (ht : storeCalls.Reachable t) (address : Address) (index : U256) :
    ∃ v, storage t address index = .ok v :=
  (readable ht).slotValue address (.ofU256 index)

/-! ## Hashes of blocks -/

section

variable (toJson : RecoveredBlock → Text) (fromStr : Text → Option B256)

/-- The columns of the table `block`, with the text each has in a row. An `id` is a
    number. -/
def blockColumns : List (String × (Text × RecoveredBlock → Option Text)) :=
  [("id", fun _ => none), ("number", fun row => some row.1), ("data", fun row => some (toJson row.2))]

/-- `SELECT column FROM block WHERE number = ?`, for a text. The statement is prepared
    first, which fails for a column that the table does not have. -/
def selectFromBlock (column : String) (t : Tables) (number : Text) : Except Error Text :=
  match (blockColumns toJson).lookup column with
  | none => .error (.eyre ("no such column: " ++ column))
  | some cell =>
    match t.block.lookup number with
    | none => .error .queryReturnedNoRows
    | some block =>
      match cell (number, block) with
      | none => .error (.eyre "Invalid column type Integer at index: 0, name: id")
      | some data => .ok data

/-- The hash of a block. -/
def blockHash (t : Tables) (number : UInt64) : Except Error B256 := do
  let data ← selectFromBlock toJson "hash" t (numberText number)
  match fromStr data with
  | some hash => .ok hash
  -- `unwrap` panics here.
  | none => .error (.eyre "called `Result::unwrap()` on an `Err` value")

/-- The hash of a number agrees with the stored block of the number, and with the
    header constructed on top of it. There is no hash only where no block is stored. -/
structure BlockHashAgrees {ω δ : Type} (env : Environment Tables ω δ) (t : Tables) (n : UInt64) :
    Prop where
  stored : ∀ block, getBlock t (.ofU64 n) = some block → blockHash toJson fromStr t n = .ok block.hash
  parent : ∀ header h, constructHeader database env t header = .ok h → h.number ≠ 0 →
    h.number - 1 = n → blockHash toJson fromStr t n = .ok h.parentHash
  missing : ∀ e, blockHash toJson fromStr t n = .error e → n ∉ storedNumbers t

/-- No hash is found. -/
theorem blockHash_eq (t : Tables) (n : UInt64) :
    blockHash toJson fromStr t n = .error (.eyre "no such column: hash") := rfl

/-- The hash of a number agrees with the stored blocks exactly where none is stored. -/
theorem blockHash_iff {ω δ : Type} (env : Environment Tables ω δ) {t : Tables}
    (ht : storeCalls.Reachable t) (n : UInt64) :
    BlockHashAgrees toJson fromStr env t n ↔ n ∉ storedNumbers t := by
  constructor
  · exact fun h => h.missing _ (blockHash_eq toJson fromStr t n)
  · intro hn
    have hnone : getBlock t (.ofU64 n) = none := by
      rw [← Option.not_isSome_iff_eq_none, getBlock_isSome_iff ht]
      exact hn
    refine ⟨?_, ?_, fun _ _ => hn⟩
    · intro block hb
      rw [hnone] at hb
      cases hb
    · -- A header on top of block `n` is constructed only where block `n` is stored.
      intro header h hok h0 hpred
      obtain ⟨hseq, hparent⟩ := constructHeader_ok hok
      obtain ⟨parent, hp, -⟩ := hparent h0
      rw [hseq, ofU64_sub_one h0, hpred] at hp
      rw [show getBlock t (.ofU64 n) = some parent from hp] at hnone
      cases hnone

end

/-- Block `0` is stored, and its hash is not found. -/
theorem hash_not_found : ∃ t, storeCalls.Reachable t ∧ getBlock t (.ofU64 0) = some (numbered 0) ∧
    ∀ toJson fromStr, blockHash toJson fromStr t 0 ≠ .ok (numbered 0).hash :=
  ⟨_, reachable_run (.init rfl) (.insertBlockWithBundle (numbered 0) idle) rfl, rfl,
    fun _ _ h => by cases h⟩

/-- The blocks `0` and `1` are stored. -/
def twoStored : Tables :=
  { Tables.empty with block := .ofList [(numberText 0, numbered 0), (numberText 1, numbered 1)] }

theorem reachable_twoStored : storeCalls.Reachable twoStored :=
  reachable_run (reachable_run (.init rfl) (.insertBlockWithBundle (numbered 0) idle) rfl)
    (.insertBlockWithBundle (numbered 1) idle) rfl

/-- The hashes agree for the next number, and not for those of the stored blocks. -/
theorem blockHashAgrees_twoStored :
    BlockHashAgrees (fun _ => []) (fun _ => none) (emptyBlocks Tables) twoStored 2 ∧
      ∀ n ∈ [0, 1],
        ¬BlockHashAgrees (fun _ => []) (fun _ => none) (emptyBlocks Tables) twoStored n := by
  have hiff := blockHash_iff (fun _ => []) (fun _ => none) (emptyBlocks Tables) reachable_twoStored
  have hstored : storedNumbers twoStored = [0, 1] := by decide
  rw [hstored] at hiff
  exact ⟨(hiff 2).2 (by decide), fun n hn hagrees => (hiff n).1 hagrees hn⟩

/-! ## Codes -/

/-- What the bytecode library makes of raw code. -/
structure BytecodeLibrary (β : Type) where
  newRaw : Bytes → β
  default : β
  originalBytes : β → Bytes
  /-- Raw code is not padded. -/
  originalBytes_newRaw : ∀ b, originalBytes (newRaw b) = b

/-- The database, and all the codes that inserted bundles deployed. -/
structure Deployments where
  db : Tables
  deployed : List (B256 × Reth.Bytecode)

/-- The codes that a call deploys. -/
def deploys : StoreCall → List (B256 × Reth.Bytecode)
  | .insertBlockWithBundle _ bundle => bundle.changeset.contracts
  | .revertTipBlock _ => []
  | .upsertAccount _ _ => []

/-- Successful calls, with the codes they deploy. -/
def deployments : System Deployments StoreCall where
  init s := s = ⟨.empty, []⟩
  step s call s' := call.run s.db = .ok s'.db ∧ s'.deployed = s.deployed ++ deploys call

/-- Under each hash is the code deployed first, padding included. -/
theorem lookup_bytecode {s : Deployments} (hs : deployments.Reachable s) (hash : B256) :
    s.db.bytecode.lookup hash = (s.deployed.lookup hash).map Reth.Bytecode.bytecode := by
  refine hs.invariant (I := fun s : Deployments => s.db.bytecode.lookup hash =
    (s.deployed.lookup hash).map Reth.Bytecode.bytecode) ?_ ?_
  · intro s h
    obtain rfl : s = ⟨.empty, []⟩ := h
    rfl
  intro s call s' _ h _ hstep
  obtain ⟨hrun, hdeployed⟩ := hstep
  rw [hdeployed, List.lookup_append, Option.map_or, ← h]
  cases call with
  | insertBlockWithBundle block bundle =>
    rw [bytecode_insertBlockWithBundle hrun, writeContracts, Assoc.lookup_foldl_putIfAbsent]
    rfl
  | revertTipBlock n =>
    rw [(reverted hrun).bytecode_eq]
    exact (Option.or_none).symm
  | upsertAccount address f =>
    obtain ⟨account, -, hrun⟩ := bind_eq_ok.1 hrun
    rw [← Except.ok.inj hrun]
    exact (Option.or_none).symm

section

variable {β : Type} (lib : BytecodeLibrary β)

def codeByHash (t : Tables) (codeHash : B256) : Except Error β :=
  match t.bytecode.lookup codeHash with
  | some data => .ok (lib.newRaw data)
  | none => .ok lib.default

/-- The code read back under a hash has the original bytes of a deployed one. -/
def Survives (t : Tables) (codeHash : B256) (code : Reth.Bytecode) : Prop :=
  ∃ c, codeByHash lib t codeHash = .ok c ∧ lib.originalBytes c = code.originalBytes

/-- A deployed code survives exactly if what is executed of the code first deployed
    under its hash are its original bytes, without padding. -/
theorem codeByHash_iff {s : Deployments} (hs : deployments.Reachable s) {hash : B256}
    {code : Reth.Bytecode} (hcode : (hash, code) ∈ s.deployed) :
    Survives lib s.db hash code ↔
      ∃ first, s.deployed.lookup hash = some first ∧ first.bytecode = code.originalBytes := by
  obtain ⟨first, hfirst⟩ : ∃ first, s.deployed.lookup hash = some first := by
    rw [← Option.isSome_iff_exists, List.lookup_isSome_iff]
    exact ⟨_, hcode, beq_self_eq_true hash⟩
  have hlookup := lookup_bytecode hs hash
  rw [hfirst] at hlookup
  simp [Survives, codeByHash, hlookup, hfirst, lib.originalBytes_newRaw]

end

/-! ### A code that ends without `STOP` -/

/-- Codes as their original bytes. -/
def rawCodes : BytecodeLibrary Bytes := ⟨id, [], id, fun _ => rfl⟩

/-- The code `CALLVALUE STOP`, to which nothing is appended. -/
def stop : Reth.Bytecode :=
  .legacyAnalyzed
    { bytecode := [0x34, 0x00]
      originalLen := 2
      jumpTable := ⟨[0x00], 2, by decide⟩
      bytecode_ne_nil := by decide
      originalLen_le := by decide
      originalLen_le_jumpTable := by decide }

/-- The code `CALLVALUE POP`, to which a `STOP` is appended. -/
def pop : Reth.Bytecode :=
  .legacyAnalyzed
    { bytecode := [0x34, 0x50, 0x00]
      originalLen := 2
      jumpTable := ⟨[0x00], 2, by decide⟩
      bytecode_ne_nil := by decide
      originalLen_le := by decide
      originalLen_le_jumpTable := by decide }

/-- The hashes of these codes. -/
def stopHash : B256 :=
  .ofU256 0xcf373310287016e66263a02fa5bded6e4e12383394439ecef88b5b64f27b79d9

def popHash : B256 :=
  .ofU256 0x2cff8297b238e32e450140b29742274bb72875900d8c8cb3840d06fe5241ae3b

/-- Deploys both. -/
def deployBoth : BundleState := ⟨⟨[], [], [(stopHash, stop), (popHash, pop)]⟩, ⟨[], []⟩⟩

/-- The database once they are deployed. -/
def bothDeployed : Deployments where
  db :=
    { Tables.empty with
      block := .ofList [(numberText 0, numbered 0)]
      bytecode := .ofList [(stopHash, [0x34, 0x00]), (popHash, [0x34, 0x50, 0x00])] }
  deployed := [(stopHash, stop), (popHash, pop)]

theorem reachable_bothDeployed : deployments.Reachable bothDeployed :=
  .step (e := .insertBlockWithBundle (numbered 0) deployBoth) (.init rfl) trivial ⟨rfl, rfl⟩

/-- The padded code comes back a byte longer. -/
theorem pop_padded : ∃ s, deployments.Reachable s ∧ (popHash, pop) ∈ s.deployed ∧
    ¬Survives rawCodes s.db popHash pop := by
  refine ⟨bothDeployed, reachable_bothDeployed, by decide, ?_⟩
  rintro ⟨c, hc, horiginal⟩
  rw [← Except.ok.inj (show Except.ok [0x34, 0x50, 0x00] = Except.ok c from hc)] at horiginal
  exact absurd horiginal (by decide)

theorem stop_survives : Survives rawCodes bothDeployed.db stopHash stop :=
  (codeByHash_iff rawCodes reachable_bothDeployed (by decide)).2 ⟨stop, rfl, rfl⟩

end Evm

end ExEx.Rollup
