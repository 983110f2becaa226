import ExEx.Lib.Except
import ExEx.Remote.Decode

/-!
# Numbers of transactions

The numbers of a transaction message become those of the transaction in four ways: a
`u64` of the schema is copied, a fee, a gas limit or the chain id of an authorization
must have exactly the bytes of its type, a value or a part of a signature may have up to
the bytes of its type, and the parity of an authorization is cast to a byte.

The first three keep the number or fail. The cast keeps it only below `256`. So a
transaction has the numbers of its message iff the parities of its authorizations are
bytes (`numbers_eq_iff`).
-/

namespace ExEx.Remote

/-- A number, and how many bits there are for it. -/
structure Number where
  width : ℕ
  value : ℕ
  deriving DecidableEq

namespace Number

/-- The number of a byte field, least significant byte first. -/
def ofLe (width : ℕ) (b : Bytes) : Number := ⟨width, leValue b⟩

def ofU64 (n : UInt64) : Number := ⟨64, n.toNat⟩

def ofWord {w : ℕ} (x : BitVec w) : Number := ⟨w, x.toNat⟩

/-- There are enough bits for the number. -/
def Fits (n : Number) : Prop := n.value < 2 ^ n.width

@[simp] theorem fits_ofU64 (n : UInt64) : (ofU64 n).Fits := n.toNat_lt

@[simp] theorem fits_ofWord {w : ℕ} (x : BitVec w) : (ofWord x).Fits := x.isLt

end Number

/-! ## Numbers of messages -/

namespace Proto

/-- The numbers of a signature, whose parity becomes one of `parityWidth` bits. -/
def Signature.numbers (parityWidth : ℕ) (signature : Signature) : List Number :=
  [.ofLe 256 signature.r, .ofLe 256 signature.s, ⟨parityWidth, signature.yParity.toNat⟩]

def Authorization.numbers (authorization : Authorization) : List Number :=
  [.ofLe 256 authorization.chainId, .ofU64 authorization.nonce]

def AuthorizationListItem.numbers (item : AuthorizationListItem) : List Number :=
  item.authorization.elim [] Authorization.numbers ++ item.signature.elim [] (Signature.numbers 8)

def Transaction.Kind.numbers : Transaction.Kind → List Number
  | .legacy tx => tx.chainId.toList.map .ofU64 ++
    [.ofU64 tx.nonce, .ofLe 128 tx.gasPrice, .ofLe 64 tx.gasLimit, .ofLe 256 tx.value]
  | .eip2930 tx =>
    [.ofU64 tx.chainId, .ofU64 tx.nonce, .ofLe 128 tx.gasPrice, .ofLe 64 tx.gasLimit,
      .ofLe 256 tx.value]
  | .eip1559 tx =>
    [.ofU64 tx.chainId, .ofU64 tx.nonce, .ofLe 64 tx.gasLimit, .ofLe 128 tx.maxFeePerGas,
      .ofLe 128 tx.maxPriorityFeePerGas, .ofLe 256 tx.value]
  | .eip4844 tx =>
    [.ofU64 tx.chainId, .ofU64 tx.nonce, .ofLe 64 tx.gasLimit, .ofLe 128 tx.maxFeePerGas,
      .ofLe 128 tx.maxPriorityFeePerGas, .ofLe 256 tx.value, .ofLe 128 tx.maxFeePerBlobGas]
  | .eip7702 tx =>
    [.ofU64 tx.chainId, .ofU64 tx.nonce, .ofLe 64 tx.gasLimit, .ofLe 128 tx.maxFeePerGas,
      .ofLe 128 tx.maxPriorityFeePerGas, .ofLe 256 tx.value] ++
    tx.authorizationList.flatMap AuthorizationListItem.numbers

/-- The numbers of a transaction, those of its signature first. -/
def Transaction.numbers (transaction : Transaction) : List Number :=
  transaction.signature.elim [] (Signature.numbers 1) ++
    transaction.transaction.elim [] Transaction.Kind.numbers

/-- The authorizations of a transaction, if it is one that has some. -/
def Transaction.Kind.authorizations : Transaction.Kind → List AuthorizationListItem
  | .eip7702 tx => tx.authorizationList
  | _ => []

def Transaction.authorizations (transaction : Transaction) : List AuthorizationListItem :=
  transaction.transaction.elim [] Transaction.Kind.authorizations

end Proto

/-- The parity of an authorization, if it has a signature, is a byte. -/
def ByteParity (item : Proto.AuthorizationListItem) : Prop :=
  ∀ signature ∈ item.signature, signature.yParity.toNat < 256

/-! ## Numbers of transactions -/

namespace Transactions

def signatureNumbers (signature : Reth.Signature) : List Number :=
  [.ofWord signature.r, .ofWord signature.s, ⟨1, signature.yParity.toNat⟩]

def authorizationNumbers (authorization : Reth.SignedAuthorization) : List Number :=
  [.ofWord authorization.inner.chainId, .ofU64 authorization.inner.nonce, .ofWord authorization.r,
    .ofWord authorization.s, ⟨8, authorization.yParity.toNat⟩]

def kindNumbers : Reth.Transaction → List Number
  | .legacy tx => tx.chainId.toList.map .ofU64 ++
    [.ofU64 tx.nonce, .ofWord tx.gasPrice, .ofU64 tx.gasLimit, .ofWord tx.value]
  | .eip2930 tx =>
    [.ofU64 tx.chainId, .ofU64 tx.nonce, .ofWord tx.gasPrice, .ofU64 tx.gasLimit, .ofWord tx.value]
  | .eip1559 tx =>
    [.ofU64 tx.chainId, .ofU64 tx.nonce, .ofU64 tx.gasLimit, .ofWord tx.maxFeePerGas,
      .ofWord tx.maxPriorityFeePerGas, .ofWord tx.value]
  | .eip4844 tx =>
    [.ofU64 tx.chainId, .ofU64 tx.nonce, .ofU64 tx.gasLimit, .ofWord tx.maxFeePerGas,
      .ofWord tx.maxPriorityFeePerGas, .ofWord tx.value, .ofWord tx.maxFeePerBlobGas]
  | .eip7702 tx =>
    [.ofU64 tx.chainId, .ofU64 tx.nonce, .ofU64 tx.gasLimit, .ofWord tx.maxFeePerGas,
      .ofWord tx.maxPriorityFeePerGas, .ofWord tx.value] ++
    tx.authorizationList.flatMap authorizationNumbers

/-- The numbers of a transaction, in the same order. -/
def numbers (tx : Reth.TransactionSigned) : List Number :=
  signatureNumbers tx.signature ++ kindNumbers tx.transaction

end Transactions

/-! ## What is kept -/

theorem u256TryFromLeSlice_keeps {b : Bytes} {message : String} {x : U256}
    (h : u256TryFromLeSlice b message = .ok x) : Number.ofLe 256 b = .ofWord x :=
  congrArg (Number.mk 256) (Word.toNat_of_tryFromLeSlice (okOrEyre_eq_ok.1 h)).symm

theorem u128FromLeBytes_keeps {b : Bytes} {x : U128} (h : u128FromLeBytes b = .ok x) :
    Number.ofLe 128 b = .ofWord x := by
  rw [u128FromLeBytes] at h
  split at h <;> cases h
  rename_i hx
  exact congrArg (Number.mk 128) (Word.toNat_of_fromLeBytes (by decide) hx).symm

theorem u64FromLeBytes_keeps {b : Bytes} {n : UInt64} (h : u64FromLeBytes b = .ok n) :
    Number.ofLe 64 b = .ofU64 n := by
  rw [u64FromLeBytes] at h
  split at h <;> cases h
  rename_i hx
  exact congrArg (Number.mk 64) (Word.toNat_of_fromLeBytes (by decide) hx).symm

/-- The parity of a transaction is kept: it is `0` or `1`. -/
theorem Signature.numbers_of_tryFrom {message : Proto.Signature} {signature : Reth.Signature}
    (h : Signature.tryFrom message = .ok signature) :
    message.numbers 1 = Transactions.signatureNumbers signature := by
  rw [Signature.tryFrom] at h
  split_ifs at h with hparity
  · cases h
  simp only [bind_eq_ok] at h
  obtain ⟨r, hr, s, hs, h⟩ := h
  obtain rfl := Except.ok.inj h
  have hbit : message.yParity.toNat = (decide (message.yParity = 1)).toNat := by
    rw [UInt32.lt_iff_toNat_lt, not_lt] at hparity
    rcases Nat.le_one_iff_eq_zero_or_eq_one.1 hparity with h0 | h1
    · obtain h0 : message.yParity = 0 := UInt32.toNat_inj.1 h0
      rw [h0]; rfl
    · obtain h1 : message.yParity = 1 := UInt32.toNat_inj.1 h1
      rw [h1]; rfl
  rw [Proto.Signature.numbers, u256TryFromLeSlice_keeps hr, u256TryFromLeSlice_keeps hs, hbit]
  rfl

/-- The cast to a byte keeps the parity of an authorization if it is one. -/
theorem SignedAuthorization.numbers_of_tryFrom {item : Proto.AuthorizationListItem}
    {authorization : Reth.SignedAuthorization}
    (h : SignedAuthorization.tryFrom item = .ok authorization) (hparity : ByteParity item) :
    item.numbers = Transactions.authorizationNumbers authorization := by
  simp only [SignedAuthorization.tryFrom, bind_eq_ok, okOrEyre_eq_ok] at h
  obtain ⟨signature, hsignature, r, hr, s, hs, inner, hinner, chainId, hchain, address, -, h⟩ := h
  obtain rfl := Except.ok.inj h
  have hbyte : signature.yParity.toNat = signature.yParity.toUInt8.toNat := by
    rw [UInt32.toNat_toUInt8]
    exact (Nat.mod_eq_of_lt (hparity signature hsignature)).symm
  have hid : Number.ofLe 256 inner.chainId = .ofWord chainId :=
    congrArg (Number.mk 256) (Word.toNat_of_fromLeBytes (by decide) hchain).symm
  rw [Proto.AuthorizationListItem.numbers, hinner, hsignature]
  simp only [Option.elim_some, Proto.Authorization.numbers, Proto.Signature.numbers]
  rw [u256TryFromLeSlice_keeps hr, u256TryFromLeSlice_keeps hs, hbyte, hid]
  rfl

/-- Every other number of a transaction is kept. -/
theorem Transaction.numbers_of_tryFrom {kind : Proto.Transaction.Kind} {tx : Reth.Transaction}
    (h : Transaction.tryFrom kind = .ok tx)
    (hparity : ∀ item ∈ kind.authorizations, ByteParity item) :
    kind.numbers = Transactions.kindNumbers tx := by
  cases kind with
  | legacy message =>
    simp only [Transaction.tryFrom, bind_eq_ok] at h
    obtain ⟨gasPrice, hprice, gasLimit, hlimit, _, -, _, -, value, hvalue, h⟩ := h
    obtain rfl := Except.ok.inj h
    rw [Proto.Transaction.Kind.numbers, u128FromLeBytes_keeps hprice, u64FromLeBytes_keeps hlimit,
      u256TryFromLeSlice_keeps hvalue]
    rfl
  | eip2930 message =>
    simp only [Transaction.tryFrom, bind_eq_ok] at h
    obtain ⟨gasPrice, hprice, gasLimit, hlimit, _, -, _, -, value, hvalue, _, -, h⟩ := h
    obtain rfl := Except.ok.inj h
    rw [Proto.Transaction.Kind.numbers, u128FromLeBytes_keeps hprice, u64FromLeBytes_keeps hlimit,
      u256TryFromLeSlice_keeps hvalue]
    rfl
  | eip1559 message =>
    simp only [Transaction.tryFrom, bind_eq_ok] at h
    obtain ⟨gasLimit, hlimit, maxFee, hmax, priorityFee, hpriority, _, -, _, -, value, hvalue, _, -,
      h⟩ := h
    obtain rfl := Except.ok.inj h
    rw [Proto.Transaction.Kind.numbers, u64FromLeBytes_keeps hlimit, u128FromLeBytes_keeps hmax,
      u128FromLeBytes_keeps hpriority, u256TryFromLeSlice_keeps hvalue]
    rfl
  | eip4844 message =>
    simp only [Transaction.tryFrom, bind_eq_ok] at h
    obtain ⟨gasLimit, hlimit, maxFee, hmax, priorityFee, hpriority, _, -, value, hvalue, _, -, _, -,
      blobFee, hblob, h⟩ := h
    obtain rfl := Except.ok.inj h
    rw [Proto.Transaction.Kind.numbers, u64FromLeBytes_keeps hlimit, u128FromLeBytes_keeps hmax,
      u128FromLeBytes_keeps hpriority, u256TryFromLeSlice_keeps hvalue, u128FromLeBytes_keeps hblob]
    rfl
  | eip7702 message =>
    simp only [Transaction.tryFrom, bind_eq_ok] at h
    obtain ⟨gasLimit, hlimit, maxFee, hmax, priorityFee, hpriority, _, -, value, hvalue, _, -,
      authorizations, hauthorizations, h⟩ := h
    obtain rfl := Except.ok.inj h
    have hall : message.authorizationList.map Proto.AuthorizationListItem.numbers =
        authorizations.map Transactions.authorizationNumbers := by
      rw [← List.forall₂_eq_eq_eq, List.forall₂_map_left_iff, List.forall₂_map_right_iff]
      refine ((List.forall₂_and_left _ _).2 ⟨hparity, mapM_eq_ok.1 hauthorizations⟩).imp ?_
      exact fun item authorization h => SignedAuthorization.numbers_of_tryFrom h.2 h.1
    rw [Proto.Transaction.Kind.numbers, u64FromLeBytes_keeps hlimit, u128FromLeBytes_keeps hmax,
      u128FromLeBytes_keeps hpriority, u256TryFromLeSlice_keeps hvalue, List.flatMap_def, hall,
      ← List.flatMap_def]
    rfl

/-- There is room for every number of a transaction. -/
theorem Transactions.fits_numbers (tx : Reth.TransactionSigned) :
    ∀ n ∈ Transactions.numbers tx, n.Fits := by
  have hsignature : ∀ n ∈ Transactions.signatureNumbers tx.signature, n.Fits := by
    have hbit : Number.Fits ⟨1, tx.signature.yParity.toNat⟩ := Bool.toNat_lt _
    simp [Transactions.signatureNumbers, hbit]
  have hauthorization (authorization : Reth.SignedAuthorization) :
      ∀ n ∈ Transactions.authorizationNumbers authorization, n.Fits := by
    have hbyte : Number.Fits ⟨8, authorization.yParity.toNat⟩ := authorization.yParity.toNat_lt
    simp [Transactions.authorizationNumbers, hbyte]
  have hkind : ∀ n ∈ Transactions.kindNumbers tx.transaction, n.Fits := by
    cases tx.transaction with
    | legacy t =>
      rw [Transactions.kindNumbers, List.forall_mem_append, List.forall_mem_map]
      exact ⟨fun n _ => Number.fits_ofU64 n, by simp⟩
    | eip7702 t =>
      rw [Transactions.kindNumbers, List.forall_mem_append]
      refine ⟨by simp, fun n hn => ?_⟩
      obtain ⟨authorization, -, hn⟩ := List.mem_flatMap.1 hn
      exact hauthorization authorization n hn
    | _ => simp [Transactions.kindNumbers]
  intro n hn
  exact (List.mem_append.1 hn).elim (hsignature n) (hkind n)

/-- An authorization of which every number fits has a byte as its parity. -/
theorem byteParity_of_fits {message : Proto.Transaction} (h : ∀ n ∈ message.numbers, n.Fits) :
    ∀ item ∈ message.authorizations, ByteParity item := by
  intro item hitem signature hsignature
  rw [Proto.Transaction.authorizations] at hitem
  rcases hkind : message.transaction with _ | kind <;> rw [hkind] at hitem
  · cases hitem
  · cases kind with
    | eip7702 tx =>
      refine h ⟨8, signature.yParity.toNat⟩ ?_
      rw [Proto.Transaction.numbers, hkind]
      refine List.mem_append_right _ (List.mem_append_right _ ?_)
      refine List.mem_flatMap.2 ⟨item, hitem, ?_⟩
      rw [Proto.AuthorizationListItem.numbers, Option.mem_def.1 hsignature]
      exact List.mem_append_right _ (by simp [Proto.Signature.numbers])
    | _ => cases hitem

/-- A transaction that is accepted has the numbers of its message, each of which fits, iff
    the parities of its authorizations are bytes. -/
theorem numbers_eq_iff {message : Proto.Transaction} {tx : Reth.TransactionSigned}
    (h : TransactionSigned.tryFrom message = .ok tx) :
    (message.numbers = Transactions.numbers tx ∧ ∀ n ∈ message.numbers, n.Fits) ↔
      ∀ item ∈ message.authorizations, ByteParity item := by
  constructor
  · exact fun hkept => byteParity_of_fits hkept.2
  · intro hparity
    have hnumbers : message.numbers = Transactions.numbers tx := by
      simp only [TransactionSigned.tryFrom, bind_eq_ok, okOrEyre_eq_ok] at h
      obtain ⟨hash, -, protoSignature, hproto, signature, hsignature, kind, hkind, transaction,
        htransaction, h⟩ := h
      obtain rfl := Except.ok.inj h
      rw [Proto.Transaction.authorizations, hkind] at hparity
      rw [Proto.Transaction.numbers, hproto, hkind, Option.elim_some, Option.elim_some,
        Signature.numbers_of_tryFrom hsignature,
        Transaction.numbers_of_tryFrom htransaction hparity]
      rfl
    exact ⟨hnumbers, hnumbers ▸ Transactions.fits_numbers tx⟩

/-! ### A parity that is no byte -/

/-- A message of a transaction with an authorization whose signature has this parity. -/
def authorizedMessage (yParity : UInt32) : Proto.Transaction where
  hash := (FixedBytes.zero : B256).toVec
  signature := some ⟨[1], [1], 0⟩
  transaction := some (.eip7702
    { chainId := 1
      nonce := 0
      gasLimit := toLeBytes 8 100000
      maxFeePerGas := toLeBytes 16 7
      maxPriorityFeePerGas := toLeBytes 16 0
      «to» := (FixedBytes.zero : Address).toVec
      value := []
      accessList := []
      authorizationList :=
        [{ authorization := some ⟨toLeBytes 32 1, (FixedBytes.zero : Address).toVec, 0⟩
           signature := some ⟨[1], [1], yParity⟩ }]
      input := [] })

/-- The parity `256` becomes `0`: the authorization is the one that has this parity. -/
theorem parity_wraps :
    (TransactionSigned.tryFrom (authorizedMessage 256)).toOption =
        (TransactionSigned.tryFrom (authorizedMessage 0)).toOption ∧
      ∃ tx, TransactionSigned.tryFrom (authorizedMessage 256) = .ok tx ∧
        (authorizedMessage 256).numbers ≠ Transactions.numbers tx := by
  refine ⟨by decide +kernel, ?_⟩
  obtain ⟨tx, h⟩ : Succeeds (TransactionSigned.tryFrom (authorizedMessage 256)) := by decide +kernel
  refine ⟨tx, h, fun hnumbers => ?_⟩
  have hfits : 256 < 2 ^ 8 := Transactions.fits_numbers tx ⟨8, 256⟩ (hnumbers ▸ by decide +kernel)
  exact absurd hfits (by decide)

/-- With the parity `1`, the transaction has the numbers of its message. -/
theorem numbers_authorizedMessage :
    ∃ tx, TransactionSigned.tryFrom (authorizedMessage 1) = .ok tx ∧
      (authorizedMessage 1).numbers = Transactions.numbers tx ∧
      ∀ n ∈ (authorizedMessage 1).numbers, n.Fits := by
  obtain ⟨tx, h⟩ : Succeeds (TransactionSigned.tryFrom (authorizedMessage 1)) := by decide +kernel
  refine ⟨tx, h, (numbers_eq_iff h).2 ?_⟩
  intro item hitem signature hsignature
  obtain rfl := List.mem_singleton.1 hitem
  obtain rfl := Option.some.inj hsignature
  decide

end ExEx.Remote
