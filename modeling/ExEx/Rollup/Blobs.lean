import ExEx.Lib.Except
import ExEx.Lib.Rlp
import ExEx.Lib.Selection
import ExEx.Rollup.Execution

/-!
# Submissions in blobs

The block data of a submission in blobs lists the versioned hashes of the blobs that carry
it; the transaction may have others. What the listed blobs encode is decoded as the block
data of a submission in call data is.

* Whether blobs are missing is told from the number of those that are listed. Blobs and
  hashes that repeat upset it (`blobs_not_found_iff`).
* With each blob listed, in their order, a submission in blobs is decoded as the one in
  call data (`decodeTransactions_interleaved`).
-/

namespace ExEx.Rollup

open Reth (TransactionSigned)

variable {σ ω δ : Type}

/-- The versioned hashes of some blobs. -/
def versionedHashes (env : Environment σ ω δ) (blobs : List (Blob × Commitment)) : List B256 :=
  blobs.map fun e => env.kzgToVersionedHash e.2

/-- The error of a submission whose blobs are not found. -/
def blobsNotFound : Error := .eyre "some blobs not found"

/-- What comes after the blobs fails with other errors. -/
structure Environment.OtherErrors (env : Environment σ ω δ) : Prop where
  decodeExact : ∀ b, env.decodeExact b ≠ .error blobsNotFound
  decode2718 : ∀ b, env.decode2718 b ≠ .error blobsNotFound
  tryRecover : ∀ tx, env.tryRecover tx ≠ .error blobsNotFound

/-- The number of listed blobs tells whether one is missing: with none missing, the listed
    blobs repeat as often as their hashes do, and with `n` missing, they do not repeat `n`
    times more. -/
def CountTells (present listed : List B256) : Prop :=
  (missing present listed = [] → repeats (present.filter (· ∈ listed)) = repeats listed) ∧
    (missing present listed ≠ [] → repeats (present.filter (· ∈ listed)) ≠
      repeats listed + (missing present listed).length)

instance instDecidableCountTells (present listed : List B256) :
    Decidable (CountTells present listed) := by
  unfold CountTells; infer_instance

theorem countTells_iff {present listed : List B256} :
    ((present.filter (· ∈ listed)).length ≠ listed.length ↔ ∃ hash ∈ listed, hash ∉ present) ↔
      CountTells present listed := by
  have hmissing : (∃ hash ∈ listed, hash ∉ present) ↔ missing present listed ≠ [] := by
    rw [Ne, missing_eq_nil_iff]
    push Not
    rfl
  rw [hmissing, Ne, length_filter_mem_eq_iff, CountTells]
  by_cases h : missing present listed = []
  · simp [h]
  · simp [h]

/-- Without repeats, the number tells. -/
theorem countTells_of_nodup {present listed : List B256} (hp : present.Nodup) (hl : listed.Nodup) :
    CountTells present listed := by
  rw [CountTells, repeats_eq_zero (hp.filter _), repeats_eq_zero hl]
  refine ⟨fun _ => rfl, fun h => ?_⟩
  have hpos := List.length_pos_iff.2 h
  omega

section

variable {env : Environment σ ω δ} {tx : TransactionSigned} {blockData : Bytes}
  {blockDataHash : B256} {blobs : List (Blob × Commitment)} {hashes : List B256}

/-! ## Missing blobs -/

variable (env blobs hashes) in
/-- The blobs that are listed. -/
def listedBlobs : List (Blob × Commitment) :=
  blobs.filter fun e => env.kzgToVersionedHash e.2 ∈ hashes

theorem length_listedBlobs : (listedBlobs env blobs hashes).length =
    ((versionedHashes env blobs).filter (· ∈ hashes)).length := by
  rw [versionedHashes, List.filter_map, List.length_map]
  rfl

theorem decodeBlobs_eq : decodeBlobs env blobs hashes =
    if (listedBlobs env blobs hashes).length ≠ hashes.length then .error blobsNotFound
    else
      match env.decodeAll ((listedBlobs env blobs hashes).map Prod.fst) with
      | none => .error (.eyre "failed to decode blobs")
      | some data => .ok data.flatten := by
  have hlisted : ((blobs.map fun e => (e.1, env.kzgToVersionedHash e.2)).filter
      fun e => hashes.contains e.2) =
        (listedBlobs env blobs hashes).map fun e => (e.1, env.kzgToVersionedHash e.2) := by
    rw [List.filter_map, listedBlobs]
    congr 2
    funext e
    exact List.contains_eq_mem _ _
  rw [decodeBlobs, hlisted, List.length_map, List.map_map]
  rfl

theorem decodeBlobs_eq_error_iff : decodeBlobs env blobs hashes = .error blobsNotFound ↔
    ((versionedHashes env blobs).filter (· ∈ hashes)).length ≠ hashes.length := by
  rw [decodeBlobs_eq, ← length_listedBlobs]
  split_ifs with hlength
  · exact iff_of_true rfl hlength
  · refine iff_of_false ?_ hlength
    split
    · exact fun h => absurd (Error.eyre.inj (Except.error.inj h)) (by decide)
    · exact nofun

theorem rawTransactions_of_blobs (htx : tx.txType = .eip4844) (hblobs : getBlobs env tx = .ok blobs)
    (hhashes : env.decodeHashes blockData = .ok hashes) :
    rawTransactions env tx blockData = decodeBlobs env blobs hashes := by
  rw [rawTransactions, htx, hblobs, ok_bind, hhashes, ok_bind]

theorem Environment.OtherErrors.decodeTransaction (henv : env.OtherErrors)
    (transactions : List Recovered) (rawTransaction : Bytes) :
    decodeTransaction env transactions rawTransaction ≠ .error blobsNotFound := by
  rw [Rollup.decodeTransaction, bind_ne_error]
  refine ⟨henv.decode2718 _, fun tx _ => ?_⟩
  split_ifs
  · rw [bind_ne_error]
    exact ⟨henv.tryRecover tx, fun _ _ => nofun⟩
  · exact nofun

theorem Environment.OtherErrors.decodeTransactions (henv : env.OtherErrors) :
    decodeTransactions env tx blockData blockDataHash = .error blobsNotFound ↔
      rawTransactions env tx blockData = .error blobsNotFound := by
  refine bind_eq_error_left fun raw => ?_
  split_ifs
  · exact fun h => absurd (Error.eyre.inj (Except.error.inj h)) (by decide)
  · rw [bind_ne_error]
    exact ⟨henv.decodeExact raw, fun _ _ => foldlM_ne_error henv.decodeTransaction⟩

/-- A submission in blobs fails for want of blobs exactly if a listed hash is that of no
    blob, if and only if the number of listed blobs tells. -/
theorem blobs_not_found_iff (henv : env.OtherErrors) (htx : tx.txType = .eip4844)
    (hblobs : getBlobs env tx = .ok blobs) (hhashes : env.decodeHashes blockData = .ok hashes) :
    (decodeTransactions env tx blockData blockDataHash = .error blobsNotFound ↔
        ∃ hash ∈ hashes, hash ∉ versionedHashes env blobs) ↔
      CountTells (versionedHashes env blobs) hashes := by
  rw [henv.decodeTransactions, rawTransactions_of_blobs htx hblobs hhashes,
    decodeBlobs_eq_error_iff, countTells_iff]

/-! ## Blobs and call data -/

/-- What some blobs encode is decoded from them, wherever others are in between. -/
theorem decodeBlobs_interleaved {own foreign : List (Blob × Commitment)}
    (hblobs : Interleaved own foreign blobs)
    (hforeign : ∀ e ∈ foreign, env.kzgToVersionedHash e.2 ∉ versionedHashes env own)
    {pieces : List Bytes} (hpieces : env.decodeAll (own.map Prod.fst) = some pieces) :
    decodeBlobs env blobs (versionedHashes env own) = .ok pieces.flatten := by
  have hlisted : listedBlobs env blobs (versionedHashes env own) = own := by
    refine hblobs.filter_eq (fun e he => ?_) (fun e he h => ?_)
    · exact decide_eq_true (List.mem_map_of_mem he)
    · exact hforeign e he (of_decide_eq_true h)
  rw [decodeBlobs_eq, hlisted, versionedHashes, List.length_map, if_neg (not_not.2 rfl), hpieces]

theorem rawTransactions_of_calldata (htx : tx.txType ≠ .eip4844) :
    rawTransactions env tx blockData = .ok blockData := by
  rw [rawTransactions]
  split
  · next h => exact absurd h htx
  · rfl

/-- A submission in blobs that lists, in order, the blobs that encode a payload is decoded
    as the payload in call data is. -/
theorem decodeTransactions_interleaved {own foreign : List (Blob × Commitment)}
    {calldataTx : TransactionSigned} {payload : Bytes} {pieces : List Bytes}
    (htx : tx.txType = .eip4844) (hcalldataTx : calldataTx.txType ≠ .eip4844)
    (hget : getBlobs env tx = .ok blobs) (hblobs : Interleaved own foreign blobs)
    (hforeign : ∀ e ∈ foreign, env.kzgToVersionedHash e.2 ∉ versionedHashes env own)
    (hhashes : env.decodeHashes blockData = .ok (versionedHashes env own))
    (hpieces : env.decodeAll (own.map Prod.fst) = some pieces)
    (hpayload : pieces.flatten = payload) (blockDataHash : B256) :
    decodeTransactions env tx blockData blockDataHash =
      decodeTransactions env calldataTx payload blockDataHash := by
  rw [decodeTransactions, decodeTransactions, rawTransactions_of_blobs htx hget hhashes,
    decodeBlobs_interleaved hblobs hforeign hpieces, rawTransactions_of_calldata hcalldataTx,
    hpayload]

end

/-! ### A transfer in a blob, and a blob of zeros

The block data of a block with one transfer is put into a blob, with `31` bytes in each field
element, behind one that holds the length. It is listed under the hash of some commitment.
The blob of zeros is that of no data. -/

/-- The transfer, as it is signed. -/
def rawTransfer : Bytes :=
  [0xe5, 0x80, 0x84, 0x3b, 0x9a, 0xca, 0x00, 0x82, 0x52, 0x08, 0x94, 0x00, 0x00, 0x00, 0x00,
   0x00, 0x00, 0x00, 0x00, 0x00, 0x00, 0x00, 0x00, 0x00, 0x00, 0x00, 0x00, 0x00, 0x00, 0x00,
   0x00, 0x01, 0x80, 0x82, 0x84, 0xf5, 0x01, 0x01]

def transferSender : Address :=
  ⟨[0x9b, 0x45, 0xf1, 0x70, 0xaa, 0x0d, 0x39, 0x44, 0x7a, 0xc0, 0x72, 0xaa, 0x03, 0x41, 0x15,
    0x5b, 0x4a, 0xc0, 0x82, 0x5f],
    rfl⟩

def signedTransfer : TransactionSigned where
  transaction := .legacy
    { chainId := some CHAIN_ID
      nonce := 0
      gasPrice := 1000000000
      gasLimit := 21000
      «to» := .call .zero
      value := 1
      input := [] }
  signature := ⟨1, 1, false⟩
  hash :=
    ⟨[0x2f, 0x24, 0x76, 0xf6, 0xce, 0x95, 0x7e, 0x3a, 0xf7, 0x5f, 0xd8, 0x1b, 0x54, 0x69, 0x00,
      0xc1, 0xb2, 0x84, 0xdd, 0x85, 0x57, 0xbc, 0x9e, 0xa4, 0x6e, 0x45, 0x2a, 0x89, 0xf1, 0x0d,
      0xd7, 0x54],
      rfl⟩

/-- A list of the transfer. The transactions in block data are lists of bytes. -/
def transferData : Bytes :=
  Rlp.encodeList [Rlp.encodeList (rawTransfer.map fun b => Rlp.encodeUInt64 b.toUInt64)]

def transferHash : B256 :=
  ⟨[0x43, 0x7d, 0xb3, 0x1f, 0xbb, 0x66, 0x86, 0x12, 0x2c, 0x3e, 0x0b, 0x46, 0x08, 0xc6, 0x33,
    0x1c, 0x30, 0x19, 0x70, 0xf4, 0x1b, 0x69, 0x8c, 0x25, 0x61, 0x8d, 0xe6, 0x51, 0xf3, 0x19,
    0xdd, 0x1e],
    rfl⟩

/-- The field elements that are not zero. -/
def transferElements : Bytes :=
  [0, 0, 0, 0, 0, 0, 0, 0, 51] ++ List.replicate 23 0 ++ 0 :: transferData.take 31 ++
    0 :: transferData.drop 31 ++ List.replicate 11 0

def transferBlob : Blob := transferElements ++ List.replicate 130976 0

def zeroBlob : Blob := List.replicate 131072 0

/-- The generator of the curve. -/
def generator : Commitment :=
  [0x97, 0xf1, 0xd3, 0xa7, 0x31, 0x97, 0xd7, 0x94, 0x26, 0x95, 0x63, 0x8c, 0x4f, 0xa9, 0xac,
   0x0f, 0xc3, 0x68, 0x8c, 0x4f, 0x97, 0x74, 0xb9, 0x05, 0xa1, 0x4e, 0x3a, 0x3f, 0x17, 0x1b,
   0xac, 0x58, 0x6c, 0x55, 0xe8, 0x3f, 0xf9, 0x7a, 0x1a, 0xef, 0xfb, 0x3a, 0xf0, 0x0a, 0xdb,
   0x22, 0xc6, 0xbb]

/-- The point at infinity, to which the blob of zeros is committed. -/
def infinity : Commitment := 0xc0 :: List.replicate 47 0

def generatorHash : B256 :=
  ⟨[0x01, 0xcf, 0x47, 0x8a, 0x43, 0x18, 0x37, 0x72, 0x8d, 0xce, 0xc3, 0x46, 0x1f, 0x4f, 0x53,
    0xb8, 0x74, 0x9c, 0xdc, 0x4e, 0x03, 0x49, 0x6d, 0xca, 0xed, 0x45, 0x9d, 0xea, 0x82, 0xb8,
    0x2e, 0xb8],
    rfl⟩

def infinityHash : B256 :=
  ⟨[0x01, 0x06, 0x57, 0xf3, 0x75, 0x54, 0xc7, 0x81, 0x40, 0x2a, 0x22, 0x91, 0x7d, 0xee, 0x2f,
    0x75, 0xde, 0xf7, 0xab, 0x96, 0x6d, 0x7b, 0x77, 0x09, 0x05, 0x39, 0x8e, 0xba, 0x3c, 0x44,
    0x40, 0x14],
    rfl⟩

/-- The pieces that are read from field elements: each is behind its length, and the last is the
    one before an element that holds none. -/
def decodePieces : ℕ → Bytes → List Bytes
  | 0, _ => []
  | fuel + 1, data =>
    let n := Rlp.beValue ((data.drop 1).take 8)
    if n = 0 then []
    else
      let elements := (n + 30) / 31
      let piece := (List.range elements).flatMap fun i => (data.drop (32 * i + 33)).take 31
      piece.take n :: decodePieces fuel (data.drop (32 * (elements + 1)))

def decodeByte : Rlp.Decoder UInt8 := fun buf => do
  let (n, rest) ← Rlp.decodeUInt64 buf
  if n < 256 then some (n.toUInt8, rest) else none

/-- An environment with a sidecar in the pool, which knows these blobs and commitments, and
    the transfer. -/
def pooled (blobs : List Blob) (commitments : List Commitment) : Environment Tables Unit Unit :=
  { emptyBlocks Tables with
    getBlob := fun _ => .ok (some (.eip4844 blobs commitments))
    kzgToVersionedHash := fun c => if c = infinity then infinityHash else generatorHash
    decodeAll := fun blobs => some (decodePieces (4096 * blobs.length) blobs.flatten)
    keccak256 := fun b => if b = transferData then transferHash else .zero
    decodeHashes := fun b =>
      match Rlp.decodeList (Rlp.decodeFixedBytes 32) b with
      | some (hashes, _) => .ok hashes
      | none => .error (.eyre "unexpected string")
    decodeExact := fun b =>
      match Rlp.decodeList (Rlp.decodeList decodeByte) b with
      | some (raws, []) => .ok raws
      | _ => .error (.eyre "unexpected string")
    decode2718 := fun b =>
      if b = rawTransfer then .ok signedTransfer else .error (.eyre "unexpected type flag")
    tryRecover := fun _ => .ok transferSender }

theorem otherErrors_pooled (blobs : List Blob) (commitments : List Commitment) :
    (pooled blobs commitments).OtherErrors where
  decodeExact b h := by
    rw [pooled] at h
    dsimp only at h
    split at h
    · cases h
    · exact absurd (Error.eyre.inj (Except.error.inj h)) (by decide)
  decode2718 b h := by
    rw [pooled] at h
    dsimp only at h
    split_ifs at h
    exact absurd (Error.eyre.inj (Except.error.inj h)) (by decide)
  tryRecover tx h := by cases h

/-- The block data that lists some hashes. -/
def listing (hashes : List B256) : Bytes :=
  Rlp.encodeList (hashes.map fun hash => Rlp.encodeBytes hash.toVec)

/-- A signed transaction. -/
def signed (transaction : Reth.Transaction) : TransactionSigned := ⟨transaction, ⟨0, 0, false⟩, .zero⟩

def blobTx : TransactionSigned :=
  signed (.eip4844
    { chainId := 1
      nonce := 0
      gasLimit := 21000
      maxFeePerGas := 1
      maxPriorityFeePerGas := 1
      «to» := .zero
      value := 0
      accessList := []
      blobVersionedHashes := []
      maxFeePerBlobGas := 1
      input := [] })

def calldataTx : TransactionSigned :=
  signed (.legacy
    { chainId := some 1
      nonce := 0
      gasPrice := 1
      gasLimit := 21000
      «to» := .call .zero
      value := 0
      input := [] })

/-- The blob of zeros twice. -/
def twice : Environment Tables Unit Unit := pooled [zeroBlob, zeroBlob] [infinity, infinity]

/-- Listed once, the blob that is there twice is not found, and it stands in for a blob that
    is missing. -/
theorem repeated_blob_not_found :
    twice.OtherErrors ∧ blobTx.txType = .eip4844 ∧
      getBlobs twice blobTx = .ok [(zeroBlob, infinity), (zeroBlob, infinity)] ∧
      versionedHashes twice [(zeroBlob, infinity), (zeroBlob, infinity)] =
        [infinityHash, infinityHash] ∧
      twice.decodeHashes (listing [infinityHash]) = .ok [infinityHash] ∧
      decodeTransactions twice blobTx (listing [infinityHash]) Reth.EMPTY_OMMER_ROOT_HASH =
        .error blobsNotFound ∧
      generatorHash ∉ [infinityHash, infinityHash] ∧
      twice.decodeHashes (listing [infinityHash, generatorHash]) =
        .ok [infinityHash, generatorHash] ∧
      decodeTransactions twice blobTx (listing [infinityHash, generatorHash])
        Reth.EMPTY_OMMER_ROOT_HASH = .error (.eyre "block data hash mismatch") :=
  ⟨otherErrors_pooled _ _, rfl, rfl, rfl, rfl, rfl, by decide, rfl, rfl⟩

/-- Listed twice, the blob is found, and a blob that is missing is missed. -/
theorem blobs_not_found_iff_twice :
    (decodeTransactions twice blobTx (listing [infinityHash, infinityHash]) transferHash =
        .error blobsNotFound ↔
      ∃ hash ∈ [infinityHash, infinityHash], hash ∉ [infinityHash, infinityHash]) ∧
    (decodeTransactions twice blobTx (listing [infinityHash, generatorHash, infinityHash])
        transferHash = .error blobsNotFound ↔
      ∃ hash ∈ [infinityHash, generatorHash, infinityHash],
        hash ∉ [infinityHash, infinityHash]) := by
  have hblobs : getBlobs twice blobTx = .ok [(zeroBlob, infinity), (zeroBlob, infinity)] := rfl
  exact ⟨(blobs_not_found_iff (otherErrors_pooled _ _) rfl hblobs rfl).2 (by decide),
    (blobs_not_found_iff (otherErrors_pooled _ _) rfl hblobs rfl).2 (by decide)⟩

/-- The blob of the transfer twice, with one of zeros in between. -/
def transferTwice : Environment Tables Unit Unit :=
  pooled [transferBlob, zeroBlob, transferBlob] [generator, infinity, generator]

/-- What is read from the two blobs is the list of the transfer, as behind the first one no
    length follows. -/
theorem decodeAll_transferTwice :
    transferTwice.decodeAll [transferBlob, transferBlob] = some [transferData] := rfl

/-- The transfer is decoded from the blobs, as it is from call data. -/
theorem decodeTransactions_transferTwice :
    decodeTransactions transferTwice blobTx (listing [generatorHash, generatorHash])
        transferHash =
      decodeTransactions transferTwice calldataTx transferData transferHash ∧
    decodeTransactions transferTwice calldataTx transferData transferHash =
      .ok [⟨signedTransfer, transferSender⟩] := by
  have hblobs : Interleaved [(transferBlob, generator), (transferBlob, generator)]
      [(zeroBlob, infinity)]
      [(transferBlob, generator), (zeroBlob, infinity), (transferBlob, generator)] :=
    .left _ (.right _ (.left _ .nil))
  exact ⟨decodeTransactions_interleaved rfl (by decide) rfl hblobs (by decide) rfl
    decodeAll_transferTwice rfl _, rfl⟩

end ExEx.Rollup
