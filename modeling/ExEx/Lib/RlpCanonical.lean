import ExEx.Lib.Rlp

/-!
# Canonical RLP

What a decoder takes off the front of a buffer is the encoding of what it gives
(`Canonical`): leading zeros, headers that are longer than needed and headers of
single bytes that encode themselves are all refused. So a value has one encoding,
and who encodes it again has the very bytes that were received.

There is a rule for each decoder, and one that peels the first field off a record
(`Canonical.field`).
-/

namespace ExEx

/-- Some bytes are the low bytes of their value. -/
theorem toLeBytes_leValue (b : Bytes) : toLeBytes b.length (leValue b) = b := by
  induction b with
  | nil => rfl
  | cons c b ih =>
    have hc := c.toNat_lt
    have hdiv : (c.toNat + 256 * leValue b) / 256 = leValue b := by omega
    have hmod : UInt8.ofNat (c.toNat + 256 * leValue b) = c := by
      apply UInt8.toNat_inj.1
      rw [UInt8.toNat_ofNat']
      omega
    rw [List.length_cons, toLeBytes, leValue, hdiv, hmod, ih]

theorem leValue_concat (b : Bytes) (c : UInt8) :
    leValue (b ++ [c]) = leValue b + 256 ^ b.length * c.toNat := by
  induction b with
  | nil => simp [leValue]
  | cons d b ih =>
    rw [List.cons_append, leValue, leValue, ih, List.length_cons, pow_succ]
    ring

namespace Rlp

/-! ## Numbers -/

theorem byteLength_beValue {b : Bytes} (h : b.head? ≠ some 0) : byteLength (beValue b) = b.length := by
  have hlt : beValue b < 256 ^ b.length := by
    rw [beValue, ← List.length_reverse]
    exact leValue_lt _
  refine le_antisymm (byteLength_le hlt) ?_
  rcases b with _ | ⟨c, l⟩
  · exact Nat.zero_le _
  -- The first byte is not zero, so the value needs as many bytes as there are.
  have hc : 1 ≤ c.toNat := Nat.one_le_iff_ne_zero.2 fun h0 =>
    h (congrArg some (UInt8.toNat_inj.1 h0))
  have hle : 256 ^ l.length ≤ beValue (c :: l) := by
    rw [beValue, List.reverse_cons, leValue_concat, List.length_reverse]
    calc 256 ^ l.length = 256 ^ l.length * 1 := (Nat.mul_one _).symm
      _ ≤ 256 ^ l.length * c.toNat := Nat.mul_le_mul_left _ hc
      _ ≤ leValue l.reverse + 256 ^ l.length * c.toNat := Nat.le_add_left _ _
  exact (Nat.pow_lt_pow_iff_right (by decide)).1 (hle.trans_lt (lt_pow_byteLength _))

/-- Without leading zeros, bytes are those of their value. -/
theorem toBeBytesTrimmed_beValue {b : Bytes} (h : b.head? ≠ some 0) :
    toBeBytesTrimmed (beValue b) = b := by
  rw [toBeBytesTrimmed, byteLength_beValue h, beValue, ← List.length_reverse, toLeBytes_leValue,
    List.reverse_reverse]

theorem staticLeftPad_eq_some {n v : ℕ} {b : Bytes} (h : staticLeftPad n b = some v) :
    b.length ≤ n ∧ b = toBeBytesTrimmed v := by
  rw [staticLeftPad] at h
  split_ifs at h with hlength hzero
  obtain rfl := Option.some.inj h
  exact ⟨not_lt.1 hlength, (toBeBytesTrimmed_beValue hzero).symm⟩

/-! ## Headers -/

theorem decodeLength_eq_some {k n : ℕ} {buf rest : Bytes} (h : decodeLength k buf = some (n, rest)) :
    buf = toBeBytesTrimmed n ++ rest ∧ (toBeBytesTrimmed n).length = k ∧ 56 ≤ n := by
  rw [decodeLength] at h
  split_ifs at h with hshort
  · cases h
  obtain ⟨length, hlength, h⟩ := Option.bind_eq_some_iff.1 h
  dsimp only at h
  split_ifs at h with h56
  · cases h
  obtain ⟨rfl, rfl⟩ := Prod.mk.inj (Option.some.inj h)
  obtain ⟨-, hbytes⟩ := staticLeftPad_eq_some hlength
  refine ⟨?_, ?_, not_lt.1 h56⟩
  · rw [← hbytes, List.take_append_drop]
  · rw [← hbytes, List.length_take]
    omega

/-- A header in front of `rest`, unless the first byte of `rest` is its own payload. -/
inductive Header.Before (buf : Bytes) : Header → Bytes → Prop
  | itself {c : UInt8} {tail : Bytes} : buf = c :: tail → c < 0x80 → Before buf ⟨false, 1⟩ buf
  | encoded {h : Header} {rest : Bytes} : buf = h.encode ++ rest →
      (h.list = false → h.payloadLength = 1 → ∀ c ∈ rest.head?, ¬c < 0x80) → Before buf h rest

/-- A header of one byte is in front of what is behind it. -/
theorem Header.before_short {list : Bool} {n : ℕ} {first : UInt8} {rest : Bytes}
    (hfirst : first.toNat = (if list then 0xc0 else 0x80) + n) (h56 : n < 56)
    (hone : list = false → n = 1 → ∀ c ∈ rest.head?, ¬c < 0x80) :
    Before (first :: rest) ⟨list, n⟩ rest := by
  refine .encoded ?_ hone
  have hcode : UInt8.ofNat ((if list then 0xc0 else 0x80) + n) = first := by
    rw [← hfirst, UInt8.ofNat_toNat]
  simp only [Header.encode, if_pos h56, hcode, List.cons_append, List.nil_append]

/-- So is one with a length behind it. -/
theorem Header.before_long {list : Bool} {k n : ℕ} {first : UInt8} {buf rest : Bytes}
    (hfirst : first.toNat = (if list then 0xc0 else 0x80) + 55 + k)
    (hlength : decodeLength k buf = some (n, rest)) : Before (first :: buf) ⟨list, n⟩ rest := by
  obtain ⟨hbuf, hk, h56⟩ := decodeLength_eq_some hlength
  refine .encoded ?_ fun _ h1 => ?_
  · have hcode : UInt8.ofNat ((if list then 0xc0 else 0x80) + 55 + (toBeBytesTrimmed n).length) =
        first := by
      rw [hk, ← hfirst, UInt8.ofNat_toNat]
    simp only [Header.encode, if_neg (not_lt.2 h56), hcode, hbuf, List.cons_append]
  · dsimp only at h1
    omega

/-- The header that a first byte starts, and what is behind it. -/
def Header.behind (first : UInt8) (buf : Bytes) : Option (Header × Bytes) :=
  let b := first.toNat
  if b < 0x80 then some (⟨false, 1⟩, first :: buf)
  else if b < 0xb8 then
    if b = 0x81 ∧ buf.head?.all (· < 0x80) then none else some (⟨false, b - 0x80⟩, buf)
  else if b < 0xc0 then (decodeLength (b - 0xb7) buf).map fun r => (⟨false, r.1⟩, r.2)
  else if b < 0xf8 then some (⟨true, b - 0xc0⟩, buf)
  else (decodeLength (b - 0xf7) buf).map fun r => (⟨true, r.1⟩, r.2)

/-- A header with what is behind it, which must be as long as the payload. -/
def Header.fits (r : Header × Bytes) : Option (Header × Bytes) :=
  if r.2.length < r.1.payloadLength then none else some r

theorem Header.decode_cons (first : UInt8) (tail : Bytes) :
    Header.decode (first :: tail) = (behind first tail).bind fits := by
  simp only [Header.decode, behind, List.head?_cons, List.tail_cons, Option.bind_eq_bind,
    Option.bind_some, Option.bind_none]
  by_cases h80 : first.toNat < 0x80
  · simp only [if_pos h80, Option.bind_some, fits]
  by_cases hb8 : first.toNat < 0xb8
  · simp only [if_neg h80, if_pos hb8]
    by_cases h81 : first.toNat = 0x81
    · rcases tail with _ | ⟨c, tail⟩
      · simp [h81]
      · by_cases hc : c < 0x80 <;> simp [h81, hc, fits]
    · simp only [h81, false_and, if_false, Option.bind_some, fits]
  by_cases hc0 : first.toNat < 0xc0
  · simp only [if_neg h80, if_neg hb8, if_pos hc0]
    rcases decodeLength (first.toNat - 0xb7) tail with _ | r
    · rfl
    · simp only [Option.map_some, Option.bind_some, fits]
  by_cases hf8 : first.toNat < 0xf8
  · simp only [if_neg h80, if_neg hb8, if_neg hc0, if_pos hf8, Option.bind_some, fits]
  · simp only [if_neg h80, if_neg hb8, if_neg hc0, if_neg hf8]
    rcases decodeLength (first.toNat - 0xf7) tail with _ | r
    · rfl
    · simp only [Option.map_some, Option.bind_some, fits]

/-- What a header is decoded from. -/
theorem Header.before_of_decode {buf rest : Bytes} {h : Header}
    (hdecode : Header.decode buf = some (h, rest)) :
    h.payloadLength ≤ rest.length ∧ Before buf h rest := by
  rcases buf with _ | ⟨first, tail⟩
  · cases hdecode
  rw [Header.decode_cons] at hdecode
  obtain ⟨r, hbehind, hfits⟩ := Option.bind_eq_some_iff.1 hdecode
  rw [Header.fits] at hfits
  split_ifs at hfits with hfit
  obtain rfl := Option.some.inj hfits
  refine ⟨not_lt.1 hfit, ?_⟩
  simp only [Header.behind] at hbehind
  split_ifs at hbehind with h80 hb8 h81 hc0 hf8
  · obtain ⟨rfl, rfl⟩ := Prod.mk.inj (Option.some.inj hbehind)
    exact .itself rfl h80
  · obtain ⟨rfl, rfl⟩ := Prod.mk.inj (Option.some.inj hbehind)
    refine Header.before_short (by simp only [Bool.false_eq_true, if_false]; omega) (by omega) ?_
    intro _ h1 c hc hself
    rw [hc] at h81
    exact h81 ⟨by omega, decide_eq_true hself⟩
  · obtain ⟨⟨n, rest''⟩, hlength, heq⟩ := Option.map_eq_some_iff.1 hbehind
    obtain ⟨rfl, rfl⟩ := Prod.mk.inj heq
    exact Header.before_long (by simp only [Bool.false_eq_true, if_false]; omega) hlength
  · obtain ⟨rfl, rfl⟩ := Prod.mk.inj (Option.some.inj hbehind)
    exact Header.before_short (by simp only [if_true]; omega) (by omega) (fun h => by cases h)
  · obtain ⟨⟨n, rest''⟩, hlength, heq⟩ := Option.map_eq_some_iff.1 hbehind
    obtain ⟨rfl, rfl⟩ := Prod.mk.inj heq
    have hlt := first.toNat_lt
    exact Header.before_long (by simp only [if_true]; omega) hlength

/-! ## Decoders -/

section

variable {α β : Type}

/-- What the decoder takes off the front of a buffer is the encoding of what it gives. -/
def Canonical (decoder : Decoder α) (encode : α → Bytes) : Prop :=
  ∀ buf a rest, decoder buf = some (a, rest) → buf = encode a ++ rest

/-- What the fields of a record take are its items. -/
def CanonicalFields (fields : Decoder α) (encode : α → Bytes) : Prop :=
  ∀ buf a rest, fields buf = some (a, rest) →
    ∃ items, encode a = encodeList items ∧ buf = items.flatten ++ rest

namespace Canonical

theorem bytes : Canonical decodeBytes encodeBytes := by
  intro buf b rest h
  rw [decodeBytes, decodePayload] at h
  obtain ⟨⟨⟨list, n⟩, rest'⟩, hheader, h⟩ := Option.bind_eq_some_iff.1 h
  obtain ⟨hfit, hbefore⟩ := Header.before_of_decode hheader
  dsimp only at h hfit
  split_ifs at h with hlist
  obtain ⟨rfl, rfl⟩ := Prod.mk.inj (Option.some.inj h)
  have hlength : (rest'.take n).length = n := by rw [List.length_take]; omega
  cases hbefore with
  | itself hbuf hself =>
    subst hbuf
    have henc : encodeBytes [_] = [_] := if_pos ⟨rfl, hself⟩
    simp only [List.take_succ_cons, List.take_zero, List.drop_succ_cons, List.drop_zero, henc,
      List.cons_append, List.nil_append]
  | encoded hbuf hone =>
    -- The header was needed.
    have hneeded : ¬((rest'.take n).length = 1 ∧ (rest'.take n).headD 0 < 0x80) := by
      rintro ⟨h1, hlt⟩
      obtain ⟨c, hc⟩ := List.length_eq_one_iff.1 h1
      rw [hc] at hlt
      have hn : n = 1 := hlength.symm.trans h1
      subst hn
      refine hone hlist rfl c ?_ hlt
      rcases rest' with _ | ⟨d, rest'⟩
      · cases hc
      · exact congrArg List.head? hc
    rw [encodeBytes, if_neg hneeded, hlength, hbuf, ← hlist, List.append_assoc,
      List.take_append_drop]

theorem fixedBytes (n : ℕ) : Canonical (decodeFixedBytes n) fun a => encodeBytes a.toVec := by
  intro buf a rest h
  obtain ⟨⟨b, rest'⟩, hb, h⟩ := Option.bind_eq_some_iff.1 h
  obtain ⟨a', ha, heq⟩ := Option.map_eq_some_iff.1 h
  obtain ⟨rfl, rfl⟩ := Prod.mk.inj heq
  rw [FixedBytes.tryFrom] at ha
  split_ifs at ha
  obtain rfl := Option.some.inj ha
  exact bytes _ _ _ hb

theorem string : Canonical decodeString fun t => encodeBytes t.toVec := by
  intro buf t rest h
  obtain ⟨⟨b, rest'⟩, hb, h⟩ := Option.bind_eq_some_iff.1 h
  obtain ⟨t', ht, heq⟩ := Option.map_eq_some_iff.1 h
  obtain ⟨rfl, rfl⟩ := Prod.mk.inj heq
  rw [Utf8.fromUtf8] at ht
  split_ifs at ht
  obtain rfl := Option.some.inj ht
  exact bytes _ _ _ hb

theorem uint64 : Canonical decodeUInt64 encodeUInt64 := by
  intro buf n rest h
  obtain ⟨⟨b, rest'⟩, hb, h⟩ := Option.bind_eq_some_iff.1 h
  obtain ⟨v, hv, heq⟩ := Option.map_eq_some_iff.1 h
  obtain ⟨rfl, rfl⟩ := Prod.mk.inj heq
  obtain ⟨hlength, hbytes⟩ := staticLeftPad_eq_some hv
  -- Eight bytes at most hold a number below `2 ^ 64`.
  have hlt : v < 2 ^ 64 := by
    rw [hbytes, length_toBeBytesTrimmed] at hlength
    calc v < 256 ^ byteLength v := lt_pow_byteLength v
      _ ≤ 256 ^ 8 := Nat.pow_le_pow_right (by decide) hlength
      _ = 2 ^ 64 := by norm_num
  rw [encodeUInt64, UInt64.toNat_ofNat_of_lt' hlt, ← hbytes]
  exact bytes _ _ _ hb

/-- Items take the whole payload. -/
theorem items {item : Decoder α} {encode : α → Bytes} (hitem : Canonical item encode) {n : ℕ}
    {payload : Bytes} {l : List α} (h : decodeItems item n payload = some l) :
    payload = (l.map encode).flatten := by
  induction n generalizing payload l with
  | zero =>
    rcases payload with _ | ⟨b, payload⟩
    · obtain rfl := Option.some.inj h
      rfl
    · cases h
  | succ n ih =>
    rcases payload with _ | ⟨b, payload⟩
    · obtain rfl := Option.some.inj h
      rfl
    · obtain ⟨⟨a, rest⟩, ha, h⟩ := Option.bind_eq_some_iff.1 h
      obtain ⟨l', hl', heq⟩ := Option.bind_eq_some_iff.1 h
      obtain rfl := Option.some.inj heq
      rw [hitem _ _ _ ha, ih hl', List.map_cons, List.flatten_cons]

theorem list {item : Decoder α} {encode : α → Bytes} (hitem : Canonical item encode) :
    Canonical (decodeList item) fun l => encodeList (l.map encode) := by
  intro buf l rest h
  obtain ⟨⟨payload, rest'⟩, hpayload, h⟩ := Option.bind_eq_some_iff.1 h
  obtain ⟨l', hl', heq⟩ := Option.map_eq_some_iff.1 h
  obtain ⟨rfl, rfl⟩ := Prod.mk.inj heq
  rw [decodePayload] at hpayload
  obtain ⟨⟨⟨isList, n⟩, rest⟩, hheader, hpayload⟩ := Option.bind_eq_some_iff.1 hpayload
  obtain ⟨hfit, hbefore⟩ := Header.before_of_decode hheader
  dsimp only at hpayload hfit
  split_ifs at hpayload with hlist
  obtain ⟨rfl, rfl⟩ := Prod.mk.inj (Option.some.inj hpayload)
  have hlength : (rest.take n).length = n := by rw [List.length_take]; omega
  cases hbefore with
  | itself => cases hlist
  | encoded hbuf =>
    change _ = encodeList _ ++ _
    rw [encodeList, ← items hitem hl', hlength, hbuf, hlist, List.append_assoc,
      List.take_append_drop]

/-- A record whose fields are canonical. -/
theorem record {fields : Decoder α} {encode : α → Bytes} (h : CanonicalFields fields encode) :
    Canonical (decodeRecord fields) encode := by
  intro buf a rest hrecord
  rw [decodeRecord] at hrecord
  obtain ⟨⟨⟨list, n⟩, rest'⟩, hheader, hrecord⟩ := Option.bind_eq_some_iff.1 hrecord
  obtain ⟨-, hbefore⟩ := Header.before_of_decode hheader
  cases list with
  | false => cases hrecord
  | true =>
    obtain ⟨⟨a', rest''⟩, hfields, hrecord⟩ := Option.bind_eq_some_iff.1 hrecord
    dsimp only at hrecord
    split_ifs at hrecord with htaken
    obtain ⟨rfl, rfl⟩ := Prod.mk.inj (Option.some.inj hrecord)
    obtain ⟨items, hencode, hpayload⟩ := h _ _ _ hfields
    have hlength : items.flatten.length = n := by
      rw [← htaken, hpayload, List.length_append, Nat.add_sub_cancel]
    cases hbefore with
    | encoded hbuf =>
      rw [hencode, encodeList, hlength, hbuf, hpayload, List.append_assoc]

/-- The first field of a record, and the fields after it. -/
theorem field {decoder : Decoder α} {encode : α → Bytes} (hitem : Canonical decoder encode)
    {fields : α → Decoder β} {buf : Bytes} {b : β} {rest : Bytes}
    (h : (decoder >>= fields) buf = some (b, rest)) :
    ∃ a buf', buf = encode a ++ buf' ∧ fields a buf' = some (b, rest) := by
  obtain ⟨⟨a, buf'⟩, ha, h⟩ := Option.bind_eq_some_iff.1 h
  exact ⟨a, buf', hitem _ _ _ ha, h⟩

end Canonical

end

end Rlp

end ExEx
