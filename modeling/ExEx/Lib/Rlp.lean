import ExEx.Lib.Bytes

/-!
# RLP

Byte strings and lists, each behind a header that says which of the two it is
and how long its payload is. The header of a short payload is one byte, that of
a long one has the length behind it, and a single byte below `0x80` is its own
encoding. Numbers are byte strings, most significant byte first and without
leading zeros. A record is the list of its fields.

Decoders take the bytes they need off the front of a buffer. They accept
canonical encodings only. What an encoder gives, its decoder takes off the front
of any buffer, whatever is behind it (`Decodes`).
-/

namespace ExEx.Rlp

/-! ## Numbers -/

/-- How many bytes a number needs. -/
def byteLength (n : ℕ) : ℕ := if n = 0 then 0 else n.log2 / 8 + 1

/-- The bytes of a number, most significant first, without leading zeros. -/
def toBeBytesTrimmed (n : ℕ) : Bytes := (toLeBytes (byteLength n) n).reverse

/-- The value of a byte string, most significant byte first. -/
def beValue (b : Bytes) : ℕ := leValue b.reverse

/-! ## Encoding -/

/-- What comes before a payload. -/
structure Header where
  list : Bool
  payloadLength : ℕ

def Header.encode (h : Header) : Bytes :=
  let code := if h.list then 0xc0 else 0x80
  if h.payloadLength < 56 then [UInt8.ofNat (code + h.payloadLength)]
  else
    let length := toBeBytesTrimmed h.payloadLength
    UInt8.ofNat (code + 55 + length.length) :: length

/-- A byte string. -/
def encodeBytes (b : Bytes) : Bytes :=
  if b.length = 1 ∧ b.headD 0 < 0x80 then b else Header.encode ⟨false, b.length⟩ ++ b

/-- A number. -/
def encodeUInt64 (n : UInt64) : Bytes := encodeBytes (toBeBytesTrimmed n.toNat)

/-- A list, or a record, of items that are encoded already. -/
def encodeList (items : List Bytes) : Bytes :=
  Header.encode ⟨true, items.flatten.length⟩ ++ items.flatten

/-! ## Decoding -/

/-- Takes what it decodes off the front of a buffer. -/
abbrev Decoder := StateT Bytes Option

/-- The number of bytes without leading zeros, when it has `n` bytes at most. -/
def staticLeftPad (n : ℕ) (b : Bytes) : Option ℕ :=
  if n < b.length then none
  else if b.head? = some 0 then none
  else some (beValue b)

/-- The length behind a header, in `n` bytes. -/
def decodeLength (n : ℕ) (buf : Bytes) : Option (ℕ × Bytes) := do
  if buf.length < n then none
  let length ← staticLeftPad 8 (buf.take n)
  if length < 56 then none
  some (length, buf.drop n)

def Header.decode : Decoder Header := fun buf => do
  let first ← buf.head?
  let b := first.toNat
  let rest := buf.tail
  let (h, rest) ←
    -- The byte is its own payload.
    if b < 0x80 then some (⟨false, 1⟩, buf)
    else if b < 0xb8 then
      if b = 0x81 then
        match rest.head? with
        | some c => if c < 0x80 then none else some (⟨false, 1⟩, rest)
        | none => none
      else some (⟨false, b - 0x80⟩, rest)
    else if b < 0xc0 then (decodeLength (b - 0xb7) rest).map fun (n, rest) => (⟨false, n⟩, rest)
    else if b < 0xf8 then some (⟨true, b - 0xc0⟩, rest)
    else (decodeLength (b - 0xf7) rest).map fun (n, rest) => (⟨true, n⟩, rest)
  if rest.length < h.payloadLength then none
  some (h, rest)

/-- The payload of a byte string or of a list. -/
def decodePayload (list : Bool) : Decoder Bytes := fun buf => do
  let (h, rest) ← Header.decode buf
  if h.list = list then some (rest.take h.payloadLength, rest.drop h.payloadLength) else none

def decodeBytes : Decoder Bytes := decodePayload false

/-- A byte string of length `n`. -/
def decodeFixedBytes (n : ℕ) : Decoder (FixedBytes n) := fun buf => do
  let (b, rest) ← decodeBytes buf
  (FixedBytes.tryFrom b).map (·, rest)

/-- A text. -/
def decodeString : Decoder Utf8 := fun buf => do
  let (b, rest) ← decodeBytes buf
  (Utf8.fromUtf8 b).map (·, rest)

def decodeUInt64 : Decoder UInt64 := fun buf => do
  let (b, rest) ← decodeBytes buf
  (staticLeftPad 8 b).map (UInt64.ofNat ·, rest)

section

variable {α : Type}

/-- The items of a payload, of which there are at most `n`. -/
def decodeItems (item : Decoder α) : ℕ → Bytes → Option (List α)
  | _, [] => some []
  | 0, _ => none
  | n + 1, payload => do
    let (a, payload) ← item payload
    let items ← decodeItems item n payload
    some (a :: items)

/-- A list. An item takes a byte at least. -/
def decodeList (item : Decoder α) : Decoder (List α) := fun buf => do
  let (payload, rest) ← decodePayload true buf
  (decodeItems item payload.length payload).map (·, rest)

/-- A record, whose fields must take the whole payload. -/
def decodeRecord (fields : Decoder α) : Decoder α := fun buf => do
  let (h, rest) ← Header.decode buf
  if h.list = false then none
  let (a, rest') ← fields rest
  if rest.length - rest'.length = h.payloadLength then some (a, rest') else none

end

/-! ## Numbers round trip -/

theorem lt_pow_byteLength (n : ℕ) : n < 256 ^ byteLength n := by
  rw [byteLength]
  split_ifs with h
  · simp [h]
  · calc n < 2 ^ (n.log2 + 1) := Nat.lt_log2_self
      _ ≤ 2 ^ (8 * (n.log2 / 8 + 1)) := Nat.pow_le_pow_right (by decide) (by omega)
      _ = 256 ^ (n.log2 / 8 + 1) := by rw [Nat.pow_mul]

theorem pow_le_of_byteLength {n k : ℕ} (h : byteLength n = k + 1) : 256 ^ k ≤ n := by
  rw [byteLength] at h
  split_ifs at h with hn
  · calc 256 ^ k = 2 ^ (8 * k) := by rw [Nat.pow_mul]
      _ ≤ 2 ^ n.log2 := Nat.pow_le_pow_right (by decide) (by omega)
      _ ≤ n := Nat.log2_self_le hn

theorem byteLength_le {n k : ℕ} (h : n < 256 ^ k) : byteLength n ≤ k := by
  rcases hk : byteLength n with _ | m
  · exact Nat.zero_le k
  · have hlt := (pow_le_of_byteLength hk).trans_lt h
    exact (Nat.pow_lt_pow_iff_right (by decide)).1 hlt

@[simp] theorem length_toBeBytesTrimmed (n : ℕ) : (toBeBytesTrimmed n).length = byteLength n := by
  rw [toBeBytesTrimmed, List.length_reverse, length_toLeBytes]

@[simp] theorem beValue_toBeBytesTrimmed (n : ℕ) : beValue (toBeBytesTrimmed n) = n := by
  rw [beValue, toBeBytesTrimmed, List.reverse_reverse, leValue_toLeBytes_of_lt (lt_pow_byteLength n)]

/-- The most significant byte is not zero. -/
theorem getLast?_toLeBytes {n k : ℕ} (h : 256 ^ k ≤ n) (hlt : n < 256 ^ (k + 1)) :
    (toLeBytes (k + 1) n).getLast? ≠ some 0 := by
  induction k generalizing n with
  | zero =>
    rw [toLeBytes, toLeBytes, List.getLast?_singleton]
    intro h0
    have hn := congrArg UInt8.toNat (Option.some.inj h0)
    rw [UInt8.toNat_ofNat'] at hn
    simp at hn
    omega
  | succ k ih =>
    rw [toLeBytes, toLeBytes, List.getLast?_cons_cons, ← toLeBytes]
    exact ih ((Nat.le_div_iff_mul_le (by decide)).2 (by rwa [← pow_succ]))
      ((Nat.div_lt_iff_lt_mul (by decide)).2 (by rwa [← pow_succ]))

theorem head?_toBeBytesTrimmed (n : ℕ) : (toBeBytesTrimmed n).head? ≠ some 0 := by
  rw [toBeBytesTrimmed, List.head?_reverse]
  rcases hk : byteLength n with _ | k
  · exact nofun
  · exact getLast?_toLeBytes (pow_le_of_byteLength hk) (hk ▸ lt_pow_byteLength n)

theorem staticLeftPad_toBeBytesTrimmed {n k : ℕ} (h : n < 256 ^ k) :
    staticLeftPad k (toBeBytesTrimmed n) = some n := by
  rw [staticLeftPad, length_toBeBytesTrimmed, if_neg (byteLength_le h).not_gt,
    if_neg (head?_toBeBytesTrimmed n), beValue_toBeBytesTrimmed]

/-! ## Round trips -/

/-- The decoder takes the encoding off the front of any buffer, and gives the value. -/
def Decodes {α : Type} (decoder : Decoder α) (encoding : Bytes) (a : α) : Prop :=
  ∀ rest, decoder (encoding ++ rest) = some (a, rest)

theorem decodeLength_toBeBytesTrimmed {n : ℕ} (h : 56 ≤ n) (hlt : n < 2 ^ 64) :
    Decodes (decodeLength (byteLength n)) (toBeBytesTrimmed n) n := by
  intro rest
  have hpad : staticLeftPad 8 (toBeBytesTrimmed n) = some n :=
    staticLeftPad_toBeBytesTrimmed (hlt.trans_eq (by norm_num))
  simp [decodeLength, hpad, not_lt.2 h, List.take_left', List.drop_left']


section

variable {list : Bool} {n : ℕ} {payload : Bytes}

/-- A header of one byte. -/
theorem Header.decode_short {first : UInt8} (hfirst : first.toNat = (if list then 0xc0 else 0x80) + n)
    (h56 : n < 56) (hlen : payload.length = n)
    (hone : list = false → n = 1 → ∀ b ∈ payload.head?, ¬b < 0x80) (rest : Bytes) :
    Header.decode (first :: (payload ++ rest)) = some (⟨list, n⟩, payload ++ rest) := by
  have hrest : ¬(payload ++ rest).length < n := by
    rw [List.length_append]; omega
  cases list
  · simp only [Bool.false_eq_true, if_false] at hfirst
    have h80 : ¬first.toNat < 0x80 := by omega
    have hb8 : first.toNat < 0xb8 := by omega
    by_cases h1 : n = 1
    · obtain ⟨b, rfl⟩ := List.length_eq_one_iff.1 (hlen.trans h1)
      have hb := hone rfl h1 b rfl
      have h81 : first.toNat = 0x81 := by omega
      subst h1
      rw [List.cons_append] at hrest ⊢
      simp only [Header.decode, List.head?_cons, List.tail_cons, Option.bind_eq_bind,
        Option.bind_some, if_neg h80, if_pos hb8, if_pos h81, if_neg hb, if_neg hrest]
    · have h81 : first.toNat ≠ 0x81 := by omega
      have hn : first.toNat - 0x80 = n := by omega
      simp only [Header.decode, List.head?_cons, List.tail_cons, Option.bind_eq_bind,
        Option.bind_some, if_neg h80, if_pos hb8, if_neg h81, hn, if_neg hrest]
  · simp only [if_true] at hfirst
    have h80 : ¬first.toNat < 0x80 := by omega
    have hb8 : ¬first.toNat < 0xb8 := by omega
    have hc0 : ¬first.toNat < 0xc0 := by omega
    have hf8 : first.toNat < 0xf8 := by omega
    have hn : first.toNat - 0xc0 = n := by omega
    simp only [Header.decode, List.head?_cons, List.tail_cons, Option.bind_eq_bind,
      Option.bind_some, if_neg h80, if_neg hb8, if_neg hc0, if_pos hf8, hn, if_neg hrest]

/-- A header with a length behind it. -/
theorem Header.decode_long {first : UInt8}
    (hfirst : first.toNat = (if list then 0xc0 else 0x80) + 55 + byteLength n)
    (h56 : 56 ≤ n) (hlt : n < 2 ^ 64) (hlen : payload.length = n) (rest : Bytes) :
    Header.decode (first :: (toBeBytesTrimmed n ++ (payload ++ rest))) =
      some (⟨list, n⟩, payload ++ rest) := by
  have hrest : ¬(payload ++ rest).length < n := by
    rw [List.length_append]; omega
  have hbytes : byteLength n ≤ 8 := byteLength_le (hlt.trans_eq (by norm_num))
  have hpos : 0 < byteLength n := by
    rw [byteLength]; split_ifs <;> omega
  have hdecode := decodeLength_toBeBytesTrimmed h56 hlt (payload ++ rest)
  have h80 : ¬first.toNat < 0x80 := by split_ifs at hfirst <;> omega
  have hb8 : ¬first.toNat < 0xb8 := by split_ifs at hfirst <;> omega
  cases list
  · simp only [Bool.false_eq_true, if_false] at hfirst
    have hc0 : first.toNat < 0xc0 := by omega
    have hn : first.toNat - 0xb7 = byteLength n := by omega
    simp only [Header.decode, List.head?_cons, List.tail_cons, Option.bind_eq_bind,
      Option.bind_some, if_neg h80, if_neg hb8, if_pos hc0, hn, hdecode, Option.map_some,
      if_neg hrest]
  · simp only [if_true] at hfirst
    have hc0 : ¬first.toNat < 0xc0 := by omega
    have hf8 : ¬first.toNat < 0xf8 := by omega
    have hn : first.toNat - 0xf7 = byteLength n := by omega
    simp only [Header.decode, List.head?_cons, List.tail_cons, Option.bind_eq_bind,
      Option.bind_some, if_neg h80, if_neg hb8, if_neg hc0, if_neg hf8, hn, hdecode,
      Option.map_some, if_neg hrest]

/-- A header is decoded in front of its payload, which is not a single byte that
    encodes itself. -/
theorem Header.decode_encode (hlen : payload.length = n) (hlt : n < 2 ^ 64)
    (hone : list = false → n = 1 → ∀ b ∈ payload.head?, ¬b < 0x80) (rest : Bytes) :
    Header.decode (Header.encode ⟨list, n⟩ ++ (payload ++ rest)) =
      some (⟨list, n⟩, payload ++ rest) := by
  rw [Header.encode]
  by_cases h56 : n < 56
  · simp only [if_pos h56]
    refine Header.decode_short ?_ h56 hlen hone rest
    rw [UInt8.toNat_ofNat']
    split_ifs <;> omega
  · have hbytes : byteLength n ≤ 8 := byteLength_le (hlt.trans_eq (by norm_num))
    simp only [if_neg h56, length_toBeBytesTrimmed]
    refine Header.decode_long ?_ (not_lt.1 h56) hlt hlen rest
    rw [UInt8.toNat_ofNat']
    split_ifs <;> omega

end

theorem decodePayload_encode {list : Bool} {payload : Bytes} (hlt : payload.length < 2 ^ 64)
    (hone : list = false → payload.length = 1 → ∀ b ∈ payload.head?, ¬b < 0x80) :
    Decodes (decodePayload list) (Header.encode ⟨list, payload.length⟩ ++ payload) payload := by
  intro rest
  rw [List.append_assoc, decodePayload, Header.decode_encode rfl hlt hone rest]
  simp

theorem decodeBytes_encodeBytes {b : Bytes} (hlt : b.length < 2 ^ 64) :
    Decodes decodeBytes (encodeBytes b) b := by
  rw [encodeBytes, decodeBytes]
  split_ifs with hself
  · -- The byte is its own encoding.
    intro rest
    obtain ⟨c, rfl⟩ := List.length_eq_one_iff.1 hself.1
    have hc : c.toNat < 0x80 := hself.2
    simp [decodePayload, Header.decode, hc]
  · refine decodePayload_encode hlt fun _ h1 c hc => ?_
    obtain ⟨d, rfl⟩ := List.length_eq_one_iff.1 h1
    obtain rfl := Option.some.inj hc
    exact fun hlt => hself ⟨rfl, hlt⟩

theorem decodeFixedBytes_encodeBytes {n : ℕ} (hn : n < 2 ^ 64) (a : FixedBytes n) :
    Decodes (decodeFixedBytes n) (encodeBytes a.toVec) a := by
  intro rest
  have hlt : a.toVec.length < 2 ^ 64 := a.length_toVec.trans_lt hn
  rw [decodeFixedBytes, decodeBytes_encodeBytes hlt rest]
  simp

theorem Header.encode_ne_nil (h : Header) : h.encode ≠ [] := by
  simp only [Header.encode]
  split_ifs <;> exact List.cons_ne_nil _ _

theorem encodeBytes_ne_nil (b : Bytes) : encodeBytes b ≠ [] := by
  rw [encodeBytes]
  split_ifs with hself
  · exact List.ne_nil_of_length_pos (hself.1 ▸ Nat.one_pos)
  · exact List.append_ne_nil_of_left_ne_nil (Header.encode_ne_nil _) _

section

variable {α : Type} {item : Decoder α} {encode : α → Bytes}

/-- The items of a payload, each of which takes a byte at least. -/
theorem decodeItems_encode (hitem : ∀ a, Decodes item (encode a) a)
    (hne : ∀ a, encode a ≠ []) (l : List α) {n : ℕ} (hn : l.length ≤ n) :
    decodeItems item n (l.map encode).flatten = some l := by
  induction l generalizing n with
  | nil => cases n <;> rfl
  | cons a l ih =>
    obtain ⟨n, rfl⟩ := Nat.exists_eq_add_of_le' (Nat.one_le_of_lt hn)
    obtain ⟨b, tail, hb⟩ := List.exists_cons_of_ne_nil (hne a)
    have hdecode := hitem a (l.map encode).flatten
    rw [List.map_cons, List.flatten_cons]
    rw [hb] at hdecode ⊢
    rw [List.cons_append] at hdecode ⊢
    simp [decodeItems, hdecode, ih (Nat.le_of_succ_le_succ hn)]

theorem length_le_length_flatten (hne : ∀ a, encode a ≠ []) (l : List α) :
    l.length ≤ (l.map encode).flatten.length := by
  induction l with
  | nil => exact Nat.zero_le _
  | cons a l ih =>
    have hpos := List.length_pos_iff.2 (hne a)
    rw [List.map_cons, List.flatten_cons, List.length_append, List.length_cons]
    omega

theorem decodeList_encodeList (hitem : ∀ a, Decodes item (encode a) a) (hne : ∀ a, encode a ≠ [])
    {l : List α} (hlt : (l.map encode).flatten.length < 2 ^ 64) :
    Decodes (decodeList item) (encodeList (l.map encode)) l := by
  intro rest
  have hitems := decodeItems_encode hitem hne l (length_le_length_flatten hne l)
  rw [decodeList, encodeList, decodePayload_encode hlt (fun h => by cases h) rest]
  simp only [Option.bind_eq_bind, Option.bind_some, hitems, Option.map_some]

end

/-! ## Round trips of what fits in a buffer -/

theorem length_le_length_encodeBytes (b : Bytes) : b.length ≤ (encodeBytes b).length := by
  rw [encodeBytes]
  split_ifs
  · exact le_rfl
  · rw [List.length_append]
    exact Nat.le_add_left _ _

theorem length_le_length_encodeList (items : List Bytes) :
    items.flatten.length ≤ (encodeList items).length := by
  rw [encodeList, List.length_append]
  exact Nat.le_add_left _ _

section

variable {α β : Type}

/-- The value is decoded from its encoding if that fits in a buffer, whose length is a
    machine word. -/
def Reads (decoder : Decoder α) (encoding : Bytes) (a : α) : Prop :=
  encoding.length < 2 ^ 64 → Decodes decoder encoding a

namespace Reads

theorem bytes (b : Bytes) : Reads decodeBytes (encodeBytes b) b := fun hlt =>
  decodeBytes_encodeBytes ((length_le_length_encodeBytes b).trans_lt hlt)

theorem fixedBytes {n : ℕ} (a : FixedBytes n) :
    Reads (decodeFixedBytes n) (encodeBytes a.toVec) a := fun hlt =>
  decodeFixedBytes_encodeBytes
    (a.length_toVec ▸ (length_le_length_encodeBytes a.toVec).trans_lt hlt) a

theorem string (t : Utf8) : Reads decodeString (encodeBytes t.toVec) t := by
  intro hlt rest
  have hutf8 : Utf8.fromUtf8 t.toVec = some t := dif_pos t.valid
  rw [decodeString, bytes t.toVec hlt rest]
  simp only [Option.bind_eq_bind, Option.bind_some, hutf8, Option.map_some]

theorem uint64 (n : UInt64) : Reads decodeUInt64 (encodeUInt64 n) n := by
  intro hlt rest
  have hpad : staticLeftPad 8 (toBeBytesTrimmed n.toNat) = some n.toNat :=
    staticLeftPad_toBeBytesTrimmed (n.toNat_lt.trans_eq (by norm_num))
  rw [decodeUInt64, encodeUInt64, bytes _ hlt rest]
  simp only [Option.bind_eq_bind, Option.bind_some, hpad, Option.map_some, UInt64.ofNat_toNat]

/-- What is read without taking anything. -/
theorem pure (a : α) : Reads (pure a) [].flatten a := fun _ _ => rfl

/-- A field, and the fields after it. -/
theorem field {decoder : Decoder α} {fields : α → Decoder β} {item : Bytes} {items : List Bytes}
    {a : α} {b : β} (hitem : Reads decoder item a)
    (hitems : Reads (fields a) items.flatten b) :
    Reads (decoder >>= fields) (item :: items).flatten b := by
  intro hlt rest
  rw [List.flatten_cons, List.length_append] at hlt
  rw [List.flatten_cons, List.append_assoc]
  change (decoder (item ++ (items.flatten ++ rest))).bind _ = some (b, rest)
  rw [hitem (Nat.lt_of_le_of_lt (Nat.le_add_right _ _) hlt), Option.bind_some]
  exact hitems (Nat.lt_of_le_of_lt (Nat.le_add_left _ _) hlt) rest

theorem record {fields : Decoder α} {items : List Bytes} {a : α}
    (h : Reads fields items.flatten a) :
    Reads (decodeRecord fields) (encodeList items) a := by
  intro hlt rest
  have hfit := (length_le_length_encodeList items).trans_lt hlt
  rw [decodeRecord, encodeList, List.append_assoc,
    Header.decode_encode rfl hfit (fun h => by cases h) rest]
  simp [h hfit rest]

theorem list {item : Decoder α} {encode : α → Bytes} (hitem : ∀ a, Decodes item (encode a) a)
    (hne : ∀ a, encode a ≠ []) (l : List α) :
    Reads (decodeList item) (encodeList (l.map encode)) l := fun hlt =>
  decodeList_encodeList hitem hne ((length_le_length_encodeList _).trans_lt hlt)

end Reads

end

end ExEx.Rlp
