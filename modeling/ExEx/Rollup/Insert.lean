import ExEx.Rollup.Database

/-!
# What inserting a block leaves

Each step of `insertBlockWithBundle` writes one table, and the lookups in that
table after it are an equation over the lookups before. `inserted` collects them
for the whole call:

* an account is that of the changeset, if it has an entry for it;
* a slot is that of the changeset, if it is written there, and otherwise it is
  gone if the storage of its account was wiped;
* the revert rows of the block are those listed by the bundle, overwritten, for
  a wiped account, by *what is stored after the block*: the storage table is read
  once the changeset has been applied.
-/

namespace ExEx.Rollup

open Reth (RecoveredBlock RevertToSlot)
open Assoc (lastWrite lastWrite_map lastWrite_map_of_forall_ne lastWrite_append lastWrite_entries
  lastWrite_mapM lastWrite_eq_none_iff)

/-! ## Views of a bundle -/

/-- The slots a changeset writes, by key. -/
def PlainStorageChangeset.slots (c : PlainStorageChangeset) : List (B256 × U256) :=
  c.storage.map fun e => (B256.ofU256 e.1, e.2)

/-- The slots a revert lists, by key. -/
def PlainStorageRevert.slots (r : PlainStorageRevert) : List (B256 × RevertToSlot) :=
  r.storageRevert.map fun e => (B256.ofU256 e.1, e.2)

/-- The account reverts of the block. -/
def BundleState.accountReverts (b : BundleState) : List (Address × Option AccountInfo) :=
  b.reverts.accounts.headD []

/-- The storage reverts of the block. -/
def BundleState.storageReverts (b : BundleState) : List PlainStorageRevert :=
  b.reverts.storage.headD []

/-- The value a bundle writes to a slot, if any. -/
def BundleState.written (b : BundleState) (a : Address) (k : B256) : Option U256 :=
  (b.changeset.storage.find? fun c => c.address = a).bind fun c => lastWrite c.slots k

/-- Whether a bundle wipes the storage of an account. -/
def BundleState.wipes (b : BundleState) (a : Address) : Bool :=
  (b.changeset.storage.find? fun c => c.address = a).any PlainStorageChangeset.wipeStorage

/-- What a bundle lists as the old value of a slot, if anything. -/
def BundleState.listed (b : BundleState) (a : Address) (k : B256) : Option RevertToSlot :=
  (b.storageReverts.find? fun r => r.address = a).bind fun r => lastWrite r.slots k

/-- Whether the reverts of a bundle have the storage of an account wiped. -/
def BundleState.wiped (b : BundleState) (a : Address) : Bool :=
  (b.storageReverts.find? fun r => r.address = a).any PlainStorageRevert.wiped

/-! ## Keys -/

/-- Where ids are distinct, the entry of an id is the one found for it. -/
theorem find?_eq_some_of_mem {α κ : Type*} [DecidableEq κ] {g : α → κ} {l : List α}
    (hl : (l.map g).Nodup) {x : α} (hx : x ∈ l) : l.find? (fun y => g y = g x) = some x := by
  induction l with
  | nil => exact absurd hx List.not_mem_nil
  | cons y l ih =>
    rw [List.map_cons, List.nodup_cons] at hl
    rw [List.find?_cons]
    rcases List.mem_cons.1 hx with rfl | hx
    · rw [decide_eq_true rfl]
    · have hne : g y ≠ g x := fun h => hl.1 (h ▸ List.mem_map_of_mem hx)
      rw [decide_eq_false hne]
      exact ih hl.2 hx

theorem find?_eq_none_of_not_mem {α κ : Type*} [DecidableEq κ] {g : α → κ} {l : List α} {k : κ}
    (hk : k ∉ l.map g) : l.find? (fun y => g y = k) = none :=
  List.find?_eq_none.2 fun _ hy h => hk (of_decide_eq_true h ▸ List.mem_map_of_mem hy)

theorem prodMk_injective {α β : Type*} (a : α) : Function.Injective (Prod.mk a : β → α × β) :=
  fun _ _ h => (Prod.mk.inj h).2

/-- Writes under `(a, k)` leave at `(a, k)` the last one at `k`, and nothing
    under another `a'`. -/
theorem lastWrite_map_prodMk {α κ ν ν' : Type*} [DecidableEq α] [DecidableEq κ] (a a' : α)
    (f : ν → ν') (l : List (κ × ν)) (k : κ) :
    lastWrite (l.map fun e => ((a, e.1), f e.2)) (a', k) =
      if a' = a then (lastWrite l k).map f else none := by
  split_ifs with h
  · subst h
    exact lastWrite_map (prodMk_injective a') f l k
  · exact lastWrite_map_of_forall_ne f l fun _ he => h (Prod.mk.inj he).1.symm

/-! ## Steps -/

theorem insertBlock_ok {t t' : Tables} {block : RecoveredBlock} (h : insertBlock t block = .ok t') :
    t.block.lookup (numberText block.number) = none ∧
      t' = { t with block := t.block.put (numberText block.number) block } := by
  rw [insertBlock] at h
  rcases hn : t.block.insertNew (numberText block.number) block with _ | rows
  · rw [hn] at h; cases h
  · rw [hn] at h
    obtain ⟨hfree, rfl⟩ := Assoc.insertNew_eq_some.1 hn
    exact ⟨hfree, (Except.ok.inj h).symm⟩

theorem writeAccountReverts_ok {t t' : Tables} {number : UInt64}
    {reverts : List (List (Address × Option AccountInfo))}
    (h : writeAccountReverts t number reverts = .ok t') :
    t' = { t with
      accountRevert :=
        t.accountRevert.putAll ((reverts.headD []).map fun e => ((numberText number, e.1), e.2)) } := by
  rw [writeAccountReverts] at h
  split_ifs at h
  exact (Except.ok.inj h).symm

/-- A changeset writes the slots of its own account only. -/
theorem lookup_writeStorage (t : Tables) (c : PlainStorageChangeset) (a : Address) (k : B256) :
    (writeStorage t c).storage.lookup (a, k) =
      if a = c.address then
        ((lastWrite c.slots k).map U256.toText).or
          (if c.wipeStorage then none else t.storage.lookup (a, k))
      else t.storage.lookup (a, k) := by
  have hmap : (c.storage.map fun e => ((c.address, B256.ofU256 e.1), e.2.toText)) =
      c.slots.map fun e => ((c.address, e.1), U256.toText e.2) := by
    rw [PlainStorageChangeset.slots, List.map_map]; rfl
  simp only [writeStorage]
  rw [Assoc.lookup_putAll, hmap, lastWrite_map_prodMk]
  by_cases ha : a = c.address <;> cases hw : c.wipeStorage <;> simp [ha]

/-- The slots read back for an address are those stored. -/
theorem getStorages_ok {t : Tables} {a : Address} {l : List (B256 × U256)}
    (h : getStorages t a = .ok l) (k : B256) :
    (t.storage.lookup (a, k) = none → lastWrite l k = none) ∧
      ∀ data, t.storage.lookup (a, k) = some data →
        ∃ v, parseWord data = .ok v ∧ lastWrite l k = some v := by
  obtain ⟨hkeys, hw⟩ := lastWrite_mapM h
  refine ⟨?_, ?_⟩
  · intro hn
    rw [lastWrite_eq_none_iff, hkeys, ← lastWrite_eq_none_iff, lastWrite_entries,
      Assoc.lookup_slice, hn]
  · intro data hd
    refine hw k data ?_
    rw [lastWrite_entries, Assoc.lookup_slice, hd]

/-- The revert rows written for an account: the listed slots, overwritten by
    those found in the storage table if it was wiped. -/
theorem writeStorageRevert_ok {t t' : Tables} {number : UInt64} {r : PlainStorageRevert}
    (h : writeStorageRevert number t r = .ok t') :
    ∃ found : List (B256 × U256),
      wipedStorage t r = .ok found ∧
      t' = { t with
        storageRevert := t.storageRevert.putAll
          ((r.slots ++ found.map fun e => (e.1, RevertToSlot.some e.2)).map fun e =>
            ((numberText number, r.address, e.1), revertText e.2)) } := by
  rw [writeStorageRevert] at h
  obtain ⟨found, hw, h⟩ := bind_eq_ok.1 h
  exact ⟨found, hw, (Except.ok.inj h).symm⟩

/-- The revert row of a slot of the account, after its rows are written. -/
theorem lookup_writeStorageRevert (m : Assoc (Text × Address × B256) Text) (number : UInt64)
    (r : PlainStorageRevert) (found : List (B256 × U256)) (n : Text) (a : Address) (k : B256) :
    (m.putAll ((r.slots ++ found.map fun e => (e.1, RevertToSlot.some e.2)).map fun e =>
        ((numberText number, r.address, e.1), revertText e.2))).lookup (n, a, k) =
      if n = numberText number ∧ a = r.address then
        (((lastWrite found k).map U256.toText).or ((lastWrite r.slots k).map revertText)).or
          (m.lookup (n, a, k))
      else m.lookup (n, a, k) := by
  rw [Assoc.lookup_putAll]
  split_ifs with h
  · obtain ⟨rfl, rfl⟩ := h
    have hinj : Function.Injective fun k : B256 => (numberText number, r.address, k) :=
      fun _ _ h => (Prod.mk.inj (Prod.mk.inj h).2).2
    have hfound : lastWrite (found.map fun e => (e.1, RevertToSlot.some e.2)) k =
        (lastWrite found k).map RevertToSlot.some :=
      lastWrite_map Function.injective_id RevertToSlot.some found k
    rw [lastWrite_map hinj revertText, lastWrite_append, hfound]
    cases lastWrite found k <;> cases lastWrite r.slots k <;> rfl
  · rw [lastWrite_map_of_forall_ne (g := fun k : B256 => (numberText number, r.address, k))
      revertText _ fun k' he => h ⟨(Prod.mk.inj he).1.symm,
        (Prod.mk.inj (Prod.mk.inj he).2).1.symm⟩, Option.none_or]

/-! ## Loops -/

/-- The changesets of different accounts write different slots. -/
theorem lookup_foldl_writeStorage {b : BundleState}
    (hb : (b.changeset.storage.map PlainStorageChangeset.address).Nodup) (t : Tables) (a : Address)
    (k : B256) :
    (b.changeset.storage.foldl writeStorage t).storage.lookup (a, k) =
      ((b.written a k).map U256.toText).or
        (if b.wipes a then none else t.storage.lookup (a, k)) := by
  obtain ⟨hin, hout⟩ := foldl_keyed (f := writeStorage) PlainStorageChangeset.address
    (fun t a => fun k => t.storage.lookup (a, k))
    (fun c old k => ((lastWrite c.slots k).map U256.toText).or
      (if c.wipeStorage then none else old k))
    (fun t c => ⟨funext fun k => by rw [lookup_writeStorage, if_pos rfl],
      fun a ha => funext fun k => by rw [lookup_writeStorage, if_neg ha]⟩) hb t
  rw [BundleState.written, BundleState.wipes]
  by_cases ha : a ∈ b.changeset.storage.map PlainStorageChangeset.address
  · obtain ⟨c, hc, rfl⟩ := List.mem_map.1 ha
    rw [find?_eq_some_of_mem hb hc]
    exact congrFun (hin c hc) k
  · rw [find?_eq_none_of_not_mem ha]
    exact congrFun (hout a ha) k

theorem wipedStorage_congr {t t' : Tables} (h : t'.storage = t.storage) (r : PlainStorageRevert) :
    wipedStorage t' r = wipedStorage t r := by
  rw [wipedStorage, wipedStorage, getStorages, getStorages, h]

/-- The rows the reverts of a block leave under its number. The rows of an
    account with wiped storage are, first of all, the slots found. -/
theorem lookup_foldlM_writeStorageRevert {number : UInt64} {l : List PlainStorageRevert}
    (hl : (l.map PlainStorageRevert.address).Nodup) {t t' : Tables}
    (h : l.foldlM (writeStorageRevert number) t = .ok t') :
    t' = { t with storageRevert := t'.storageRevert } ∧
      (∀ n a k, n ≠ numberText number ∨ a ∉ l.map PlainStorageRevert.address →
        t'.storageRevert.lookup (n, a, k) = t.storageRevert.lookup (n, a, k)) ∧
      ∀ r ∈ l, ∃ found, wipedStorage t r = .ok found ∧ ∀ k,
        t'.storageRevert.lookup (numberText number, r.address, k) =
          (((lastWrite found k).map U256.toText).or ((lastWrite r.slots k).map revertText)).or
            (t.storageRevert.lookup (numberText number, r.address, k)) := by
  induction l generalizing t with
  | nil =>
    obtain rfl : t = t' := Except.ok.inj h
    exact ⟨rfl, fun _ _ _ _ => rfl, fun _ hr => absurd hr List.not_mem_nil⟩
  | cons r l ih =>
    rw [List.map_cons, List.nodup_cons] at hl
    rw [List.foldlM_cons] at h
    obtain ⟨t₁, h₁, h⟩ := bind_eq_ok.1 h
    obtain ⟨found, hfound, rfl⟩ := writeStorageRevert_ok h₁
    obtain ⟨hframe, hother, hlisted⟩ := ih hl.2 h
    -- The rows of `r` are written first, and those after are of other accounts.
    refine ⟨hframe, ?_, ?_⟩
    · intro n a k hna
      rw [hother n a k (hna.imp_right fun ha hal => ha (List.mem_cons_of_mem _ hal)),
        lookup_writeStorageRevert, if_neg]
      rintro ⟨rfl, rfl⟩
      exact hna.elim (fun h => h rfl) fun h => h List.mem_cons_self
    · intro r' hr'
      rcases List.mem_cons.1 hr' with rfl | hr'
      · refine ⟨found, hfound, ?_⟩
        intro k
        rw [hother _ _ k (.inr hl.1), lookup_writeStorageRevert, if_pos ⟨rfl, rfl⟩]
      · obtain ⟨found', hfound', hrow⟩ := hlisted r' hr'
        have hne : r'.address ≠ r.address := fun he => hl.1 (he ▸ List.mem_map_of_mem hr')
        refine ⟨found', wipedStorage_congr rfl r' ▸ hfound', ?_⟩
        intro k
        rw [hrow k, lookup_writeStorageRevert, if_neg fun h => hne h.2]

/-! ## The whole call -/

/-- Writing slots changes the storage table only. -/
theorem foldl_writeStorage_frame (l : List PlainStorageChangeset) (t : Tables) :
    l.foldl writeStorage t = { t with storage := (l.foldl writeStorage t).storage } :=
  foldl_invariant (P := fun t' : Tables => t' = { t with storage := t'.storage })
    (fun t' c h => by rw [writeStorage, h]) l rfl

/-- The steps of a successful insertion. -/
theorem insertBlockWithBundle_ok {t t' : Tables} {block : RecoveredBlock} {b : BundleState}
    (h : insertBlockWithBundle t block b = .ok t') :
    t.block.lookup (numberText block.number) = none ∧
      ∃ t₂, b.storageReverts.foldlM (writeStorageRevert block.number)
          (b.changeset.storage.foldl writeStorage
            { t with
              block := t.block.put (numberText block.number) block
              account := t.account.setAll b.changeset.accounts
              accountRevert := t.accountRevert.putAll
                (b.accountReverts.map fun e => ((numberText block.number, e.1), e.2)) }) = .ok t₂ ∧
        t' = writeContracts t₂ b.changeset.contracts := by
  rw [insertBlockWithBundle] at h
  obtain ⟨t₁, h₁, h⟩ := bind_eq_ok.1 h
  obtain ⟨hfree, rfl⟩ := insertBlock_ok h₁
  obtain ⟨t₁, h₁, h⟩ := bind_eq_ok.1 h
  obtain rfl := writeAccountReverts_ok h₁
  obtain ⟨t₂, h₂, h⟩ := bind_eq_ok.1 h
  rw [writeStorageReverts] at h₂
  split_ifs at h₂
  exact ⟨hfree, t₂, h₂, (Except.ok.inj h).symm⟩

/-- Writing the revert rows of slots changes their table only. -/
theorem foldlM_writeStorageRevert_frame {number : UInt64} {l : List PlainStorageRevert}
    {t t' : Tables} (h : l.foldlM (writeStorageRevert number) t = .ok t') :
    t' = { t with storageRevert := t'.storageRevert } := by
  refine foldlM_invariant (P := fun t' : Tables => t' = { t with storageRevert := t'.storageRevert })
    (fun t₁ r t₂ h₁ hr => ?_) rfl h
  obtain ⟨found, -, rfl⟩ := writeStorageRevert_ok hr
  rw [h₁]

/-- A block is inserted under a free number, for any bundle. -/
theorem block_insertBlockWithBundle {t t' : Tables} {block : RecoveredBlock} {b : BundleState}
    (h : insertBlockWithBundle t block b = .ok t') :
    t.block.lookup (numberText block.number) = none ∧
      t'.block = t.block.put (numberText block.number) block := by
  obtain ⟨hfree, t₂, h₂, rfl⟩ := insertBlockWithBundle_ok h
  refine ⟨hfree, ?_⟩
  rw [writeContracts, foldlM_writeStorageRevert_frame h₂, foldl_writeStorage_frame]

/-- The codes a bundle deploys are written to what is there. -/
theorem bytecode_insertBlockWithBundle {t t' : Tables} {block : RecoveredBlock} {b : BundleState}
    (h : insertBlockWithBundle t block b = .ok t') :
    t'.bytecode = (writeContracts t b.changeset.contracts).bytecode := by
  obtain ⟨-, t₂, h₂, rfl⟩ := insertBlockWithBundle_ok h
  rw [writeContracts, foldlM_writeStorageRevert_frame h₂, foldl_writeStorage_frame, writeContracts]

/-- What a successful insertion makes of the tables. -/
structure Inserted (t : Tables) (block : RecoveredBlock) (b : BundleState) (t' : Tables) : Prop where
  /-- The number of the block was free. -/
  number_free : t.block.lookup (numberText block.number) = none
  block_eq : t'.block = t.block.put (numberText block.number) block
  account_eq : t'.account = t.account.setAll b.changeset.accounts
  accountRevert_eq : t'.accountRevert = t.accountRevert.putAll
    (b.accountReverts.map fun e => ((numberText block.number, e.1), e.2))
  lookup_storage : ∀ a k, t'.storage.lookup (a, k) =
    ((b.written a k).map U256.toText).or (if b.wipes a then none else t.storage.lookup (a, k))
  /-- Under a wiped account, the values written take the place of those listed. -/
  lookup_storageRevert : ∀ n a k, t'.storageRevert.lookup (n, a, k) =
    if n = numberText block.number then
      ((if b.wiped a then (b.written a k).map U256.toText else none).or
        ((b.listed a k).map revertText)).or (t.storageRevert.lookup (n, a, k))
    else t.storageRevert.lookup (n, a, k)

/-- The entries of a bundle are for different accounts, and the storage its
    reverts have wiped is storage it wipes. -/
structure BundleState.Keyed (b : BundleState) : Prop where
  storage : (b.changeset.storage.map PlainStorageChangeset.address).Nodup
  storageReverts : (b.storageReverts.map PlainStorageRevert.address).Nodup
  wipes_of_wiped : ∀ a, b.wiped a → b.wipes a

theorem inserted {t t' : Tables} {block : RecoveredBlock} {b : BundleState} (hb : b.Keyed)
    (h : insertBlockWithBundle t block b = .ok t') : Inserted t block b t' := by
  obtain ⟨hfree, t₂, h₂, rfl⟩ := insertBlockWithBundle_ok h
  rw [foldl_writeStorage_frame] at h₂
  obtain ⟨hframe, hother, hlisted⟩ := lookup_foldlM_writeStorageRevert hb.storageReverts h₂
  have hstorage (a : Address) (k : B256) := lookup_foldl_writeStorage hb.storage
    { t with
      block := t.block.put (numberText block.number) block
      account := t.account.setAll b.changeset.accounts
      accountRevert := t.accountRevert.putAll
        (b.accountReverts.map fun e => ((numberText block.number, e.1), e.2)) } a k
  refine ⟨hfree, ?_, ?_, ?_, ?_, ?_⟩
  · rw [writeContracts, hframe]
  · rw [writeContracts, hframe]
  · rw [writeContracts, hframe]
  · rw [writeContracts, hframe]; exact hstorage
  intro n a k
  rw [writeContracts]
  -- The rows under other numbers are as they were.
  by_cases hn : n = numberText block.number
  swap
  · rw [if_neg hn]; exact hother n a k (.inl hn)
  subst hn
  rw [if_pos rfl, BundleState.wiped, BundleState.listed]
  -- Under the number of the block, so are those of accounts without a revert.
  by_cases ha : a ∈ b.storageReverts.map PlainStorageRevert.address
  swap
  · rw [find?_eq_none_of_not_mem ha]
    exact hother _ a k (.inr ha)
  obtain ⟨r, hr, rfl⟩ := List.mem_map.1 ha
  obtain ⟨found, hfound, hrow⟩ := hlisted r hr
  have hfind := find?_eq_some_of_mem hb.storageReverts hr
  rw [hfind, hrow k]
  congr 2
  -- Without a wipe nothing is read back, and the rows are those listed. With one,
  -- the old slots are gone, and what is read back is what the block has written.
  cases hw : r.wiped with
  | false =>
    rw [wipedStorage, hw] at hfound
    obtain rfl : [] = found := Except.ok.inj hfound
    simp [lastWrite, hw]
  | true =>
    have hwipes : b.wipes r.address = true := hb.wipes_of_wiped _ (by rw [BundleState.wiped, hfind]; exact hw)
    rw [wipedStorage, hw] at hfound
    obtain ⟨hnone, hsome⟩ := getStorages_ok hfound k
    rw [hstorage, hwipes] at hnone hsome
    cases hv : b.written r.address k with
    | none => rw [hnone (by rw [hv]; rfl)]; simp
    | some v =>
      obtain ⟨v', hp, hl⟩ := hsome _ (by rw [hv]; rfl)
      rw [parseWord, U256.fromStr_toText] at hp
      rw [hl, ← Except.ok.inj hp]
      simp [hw]

end ExEx.Rollup
