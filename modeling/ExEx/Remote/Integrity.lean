import ExEx.Remote.RoundTrip

/-!
# Block integrity on the wire

A sealed block carries the hash of its header, and its header commits to the
withdrawals of its body. The codec sends the hash as it is and never computes it
again, so a receiver finds the two consistent only if every field they are about
comes through. The schema has no requests hash and no withdrawals: both are
filled in with nothing (`received`).

* `receives`: every block is encoded and decoded, as `received`;
* `integrity_iff`: the integrity of a block is kept exactly when it has neither.
-/

namespace ExEx.Remote

/-- How headers are hashed, and the root of a list of withdrawals. -/
structure Commitments where
  hashSlow : Reth.Header → B256
  calculateWithdrawalsRoot : List Reth.Withdrawal → B256

/-- A block carries the hash of its header, which commits to its withdrawals. -/
structure Integrity (commitments : Commitments) (block : Reth.RecoveredBlock) : Prop where
  hash : block.hash = commitments.hashSlow block.header
  withdrawalsRoot :
    block.header.withdrawalsRoot =
      block.body.withdrawals.map commitments.calculateWithdrawalsRoot

/-- No other header has the hash of this one. -/
def NoCollision (commitments : Commitments) (header : Reth.Header) : Prop :=
  ∀ header', commitments.hashSlow header' = commitments.hashSlow header → header' = header

/-! ## What is received -/

/-- A header as it is received. -/
def receivedHeader (header : Reth.Header) : Reth.Header := { header with requestsHash := none }

/-- A block as it is received. -/
def received (block : Reth.RecoveredBlock) : Reth.RecoveredBlock :=
  { block with
    header := receivedHeader block.header
    body :=
      { block.body with
        ommers := block.body.ommers.map receivedHeader
        withdrawals := none } }

theorem receivedHeader_eq_self_iff {header : Reth.Header} :
    receivedHeader header = header ↔ header.requestsHash = none := by
  constructor
  · intro h
    rw [← h, receivedHeader]
  · intro h
    rw [receivedHeader, ← h]

theorem blockCarried_received (block : Reth.RecoveredBlock) : BlockCarried (received block) where
  withdrawals := rfl
  requestsHash header h := by
    rcases List.mem_cons.1 h with rfl | hommer
    · rfl
    · obtain ⟨ommer, -, rfl⟩ := List.mem_map.1 hommer
      rfl

/-- Two blocks that differ in what the schema leaves out are encoded alike. -/
theorem tryFrom_received (block : Reth.RecoveredBlock) :
    Proto.Block.tryFrom (received block) = Proto.Block.tryFrom block := by
  have hommers : (received block).body.ommers.map Proto.Header.ofHeader =
      block.body.ommers.map Proto.Header.ofHeader := by
    rw [received, List.map_map]
    rfl
  rw [Proto.Block.tryFrom, hommers]
  rfl

theorem receives (block : Reth.RecoveredBlock) :
    ∃ message, Proto.Block.tryFrom block = .ok message ∧
      RecoveredBlock.tryFrom message = .ok (received block) := by
  rw [← tryFrom_received]
  exact roundTrips_recoveredBlock (blockCarried_received block)

/-! ## Integrity -/

section

variable {commitments : Commitments} {block : Reth.RecoveredBlock}

/-- What is received of a block has integrity. -/
def KeepsIntegrity (commitments : Commitments) (block : Reth.RecoveredBlock) : Prop :=
  ∃ message decoded, Proto.Block.tryFrom block = .ok message ∧
    RecoveredBlock.tryFrom message = .ok decoded ∧ Integrity commitments decoded

theorem keepsIntegrity_iff_received :
    KeepsIntegrity commitments block ↔ Integrity commitments (received block) := by
  obtain ⟨message, hmessage, hdecoded⟩ := receives block
  constructor
  · rintro ⟨message', decoded, hmessage', hdecoded', h⟩
    obtain rfl := Except.ok.inj (hmessage.symm.trans hmessage')
    obtain rfl := Except.ok.inj (hdecoded.symm.trans hdecoded')
    exact h
  · intro h
    exact ⟨message, received block, hmessage, hdecoded, h⟩

/-- The carried hash is still that of the header when there was no requests hash. -/
theorem hash_received_iff (h : Integrity commitments block)
    (hinj : NoCollision commitments block.header) :
    (received block).hash = commitments.hashSlow (received block).header ↔
      block.header.requestsHash = none := by
  rw [← receivedHeader_eq_self_iff]
  constructor
  · intro hhash
    exact hinj (receivedHeader block.header) (hhash.symm.trans h.hash)
  · intro hself
    change block.hash = commitments.hashSlow (receivedHeader block.header)
    rw [hself, h.hash]

/-- The root of the header still matches the body when there were no withdrawals. -/
theorem withdrawalsRoot_received_iff (h : Integrity commitments block) :
    (received block).header.withdrawalsRoot =
        (received block).body.withdrawals.map commitments.calculateWithdrawalsRoot ↔
      block.body.withdrawals = none := by
  change block.header.withdrawalsRoot = none ↔ _
  rw [h.withdrawalsRoot, Option.map_eq_none_iff]

/-- The integrity of a block comes through exactly when it has neither withdrawals
    nor a requests hash. -/
theorem integrity_iff (h : Integrity commitments block)
    (hinj : NoCollision commitments block.header) :
    KeepsIntegrity commitments block ↔
      block.body.withdrawals = none ∧ block.header.requestsHash = none := by
  rw [keepsIntegrity_iff_received, ← withdrawalsRoot_received_iff h, ← hash_received_iff h hinj]
  constructor
  · intro hreceived
    exact ⟨hreceived.withdrawalsRoot, hreceived.hash⟩
  · rintro ⟨hroot, hhash⟩
    exact ⟨hhash, hroot⟩

end

/-! ### Blocks of two forks -/

/-- The hash of no requests. -/
def EMPTY_REQUESTS_HASH : B256 :=
  ⟨[0xe3, 0xb0, 0xc4, 0x42, 0x98, 0xfc, 0x1c, 0x14, 0x9a, 0xfb, 0xf4, 0xc8, 0x99, 0x6f, 0xb9, 0x24,
    0x27, 0xae, 0x41, 0xe4, 0x64, 0x9b, 0x93, 0x4c, 0xa4, 0x95, 0x99, 0x1b, 0x78, 0x52, 0xb8, 0x55],
    rfl⟩

/-- An empty London block. -/
def londonBlock : Reth.RecoveredBlock where
  hash :=
    ⟨[0x26, 0xe5, 0xba, 0x62, 0xe4, 0xd5, 0xdb, 0x4a, 0x28, 0x25, 0x2f, 0x17, 0x38, 0x7d, 0x29,
      0x07, 0x06, 0x52, 0x48, 0x40, 0x8a, 0x52, 0x1f, 0x58, 0x14, 0xb7, 0xd4, 0x7f, 0xae, 0xb4,
      0x83, 0xd5], rfl⟩
  header := { (default : Reth.Header) with baseFeePerGas := some 7 }
  body := ⟨[], [], none⟩
  senders := []

/-- An empty Prague block. -/
def pragueBlock : Reth.RecoveredBlock where
  hash :=
    ⟨[0x09, 0xf3, 0x2e, 0x9a, 0xf7, 0x70, 0x96, 0x93, 0x93, 0x14, 0x9a, 0xa2, 0x4e, 0x20, 0xa2,
      0xb7, 0x00, 0xde, 0xed, 0x86, 0x36, 0xa9, 0x9d, 0xbc, 0x1b, 0xc2, 0x9f, 0xf8, 0xcc, 0x6d,
      0x13, 0xe7], rfl⟩
  header :=
    { (default : Reth.Header) with
      baseFeePerGas := some 7
      withdrawalsRoot := some Reth.EMPTY_ROOT_HASH
      blobGasUsed := some 0
      excessBlobGas := some 0
      parentBeaconBlockRoot := some .zero
      requestsHash := some EMPTY_REQUESTS_HASH }
  body := ⟨[], [], some []⟩
  senders := []

/-- The hashes of these two headers, and the root of no withdrawals. -/
def emptyCommitments : Commitments where
  hashSlow header :=
    if header = londonBlock.header then londonBlock.hash
    else if header = pragueBlock.header then pragueBlock.hash
    else .zero
  calculateWithdrawalsRoot withdrawals := if withdrawals = [] then Reth.EMPTY_ROOT_HASH else .zero

theorem hashSlow_londonBlock : emptyCommitments.hashSlow londonBlock.header = londonBlock.hash := by
  simp only [emptyCommitments, if_true]

theorem hashSlow_pragueBlock : emptyCommitments.hashSlow pragueBlock.header = pragueBlock.hash := by
  have hne : pragueBlock.header ≠ londonBlock.header := by
    intro h
    cases congrArg Reth.Header.requestsHash h
  simp only [emptyCommitments, if_neg hne, if_true]

theorem integrity_londonBlock : Integrity emptyCommitments londonBlock where
  hash := hashSlow_londonBlock.symm
  withdrawalsRoot := rfl

theorem integrity_pragueBlock : Integrity emptyCommitments pragueBlock where
  hash := hashSlow_pragueBlock.symm
  withdrawalsRoot := rfl

/-- Every other header is hashed to zero. -/
theorem emptyCommitments_hashSlow (header : Reth.Header) :
    header = londonBlock.header ∨ header = pragueBlock.header ∨
      emptyCommitments.hashSlow header = .zero := by
  by_cases hlondon : header = londonBlock.header
  · exact .inl hlondon
  · by_cases hprague : header = pragueBlock.header
    · exact .inr (.inl hprague)
    · exact .inr (.inr ((if_neg hlondon).trans (if_neg hprague)))

theorem noCollision_londonBlock : NoCollision emptyCommitments londonBlock.header := by
  intro header h
  rcases emptyCommitments_hashSlow header with hlondon | rfl | hzero
  · exact hlondon
  · rw [hashSlow_londonBlock, hashSlow_pragueBlock] at h
    exact absurd h (by decide)
  · rw [hashSlow_londonBlock, hzero] at h
    exact absurd h (by decide)

theorem noCollision_pragueBlock : NoCollision emptyCommitments pragueBlock.header := by
  intro header h
  rcases emptyCommitments_hashSlow header with rfl | hprague | hzero
  · rw [hashSlow_londonBlock, hashSlow_pragueBlock] at h
    exact absurd h (by decide)
  · exact hprague
  · rw [hashSlow_pragueBlock, hzero] at h
    exact absurd h (by decide)

theorem londonBlock_keepsIntegrity : KeepsIntegrity emptyCommitments londonBlock :=
  (integrity_iff integrity_londonBlock noCollision_londonBlock).2 ⟨rfl, rfl⟩

/-- What is decoded from a Prague block has no integrity. -/
theorem not_forall_keepsIntegrity :
    ¬∀ commitments block, Integrity commitments block → NoCollision commitments block.header →
      KeepsIntegrity commitments block := by
  intro h
  have hkeeps := h emptyCommitments pragueBlock integrity_pragueBlock noCollision_pragueBlock
  exact absurd (keepsIntegrity_iff_received.1 hkeeps).withdrawalsRoot (by decide)

end ExEx.Remote
