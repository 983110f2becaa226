import ExEx.Lib.RlpCanonical
import ExEx.Oracle.RoundTrip

/-!
# Accepted messages

A message that is accepted is one that a peer can build, and the bytes it takes off
the buffer are its encoding: there is no other way to write it (`decodeMessage_sound`).
So the encoding of a ticker, which a connection makes again to check a signature, is
what the peer has sent.
-/

namespace ExEx.Oracle

open Rlp (Canonical)

/-- A ticker is received as it is encoded. -/
theorem Ticker.canonical : Canonical Ticker.decode Ticker.encode := by
  refine Canonical.record ?_
  intro buf t rest h
  obtain ⟨eventType, _, rfl, h₁⟩ := Canonical.string.field h
  obtain ⟨eventTime, _, rfl, h₂⟩ := Canonical.uint64.field h₁
  obtain ⟨symbol, _, rfl, h₃⟩ := Canonical.string.field h₂
  obtain ⟨priceChange, _, rfl, h₄⟩ := Canonical.string.field h₃
  obtain ⟨priceChangePercent, _, rfl, h₅⟩ := Canonical.string.field h₄
  obtain ⟨weightedAvgPrice, _, rfl, h₆⟩ := Canonical.string.field h₅
  obtain ⟨prevClosePrice, _, rfl, h₇⟩ := Canonical.string.field h₆
  obtain ⟨lastPrice, _, rfl, h₈⟩ := Canonical.string.field h₇
  obtain ⟨lastQuantity, _, rfl, h₉⟩ := Canonical.string.field h₈
  obtain ⟨bestBidPrice, _, rfl, h₁₀⟩ := Canonical.string.field h₉
  obtain ⟨bestBidQuantity, _, rfl, h₁₁⟩ := Canonical.string.field h₁₀
  obtain ⟨bestAskPrice, _, rfl, h₁₂⟩ := Canonical.string.field h₁₁
  obtain ⟨bestAskQuantity, _, rfl, h₁₃⟩ := Canonical.string.field h₁₂
  obtain ⟨openPrice, _, rfl, h₁₄⟩ := Canonical.string.field h₁₃
  obtain ⟨highPrice, _, rfl, h₁₅⟩ := Canonical.string.field h₁₄
  obtain ⟨lowPrice, _, rfl, h₁₆⟩ := Canonical.string.field h₁₅
  obtain ⟨volume, _, rfl, h₁₇⟩ := Canonical.string.field h₁₆
  obtain ⟨quoteVolume, _, rfl, h₁₈⟩ := Canonical.string.field h₁₇
  obtain ⟨openTime, _, rfl, h₁₉⟩ := Canonical.uint64.field h₁₈
  obtain ⟨closeTime, _, rfl, h₂₀⟩ := Canonical.uint64.field h₁₉
  obtain ⟨firstTradeId, _, rfl, h₂₁⟩ := Canonical.uint64.field h₂₀
  obtain ⟨lastTradeId, _, rfl, h₂₂⟩ := Canonical.uint64.field h₂₁
  obtain ⟨numTrades, _, rfl, h₂₃⟩ := Canonical.uint64.field h₂₂
  obtain ⟨rfl, rfl⟩ := Prod.mk.inj (Option.some.inj h₂₃)
  refine ⟨_, rfl, ?_⟩
  simp only [List.flatten_cons, List.flatten_nil, List.append_assoc, List.append_nil]

theorem SignedTicker.canonical : Canonical SignedTicker.decode SignedTicker.encode := by
  refine Canonical.record ?_
  intro buf t rest h
  obtain ⟨ticker, _, rfl, h₁⟩ := Ticker.canonical.field h
  obtain ⟨signature, _, rfl, h₂⟩ := Canonical.bytes.field h₁
  obtain ⟨signer, _, rfl, h₃⟩ := (Canonical.fixedBytes 20).field h₂
  obtain ⟨id, _, rfl, h₄⟩ := (Canonical.fixedBytes 32).field h₃
  obtain ⟨rfl, rfl⟩ := Prod.mk.inj (Option.some.inj h₄)
  refine ⟨_, rfl, ?_⟩
  simp only [List.flatten_cons, List.flatten_nil, List.append_assoc, List.append_nil]

namespace OracleProtoMessage

/-- A message that is decoded is one that can be built, and its encoding is what it
    takes off the front of the buffer. -/
theorem decodeMessage_sound {buf rest : Bytes} {m : OracleProtoMessage}
    (h : decodeMessage buf = some (m, rest)) : Built m ∧ buf = m.encoded ++ rest := by
  rw [decodeMessage] at h
  obtain ⟨id, hid, h⟩ := Option.bind_eq_some_iff.1 h
  obtain ⟨tail, rfl⟩ := List.head?_eq_some_iff.1 hid
  obtain ⟨messageType, htype, h⟩ := Option.bind_eq_some_iff.1 h
  obtain rfl := OracleProtoMessageId.eq_toByte_of_ofByte htype
  cases messageType with
  | ping =>
    obtain ⟨rfl, rfl⟩ := Prod.mk.inj (Option.some.inj h)
    exact ⟨.ping, rfl⟩
  | pong =>
    obtain ⟨rfl, rfl⟩ := Prod.mk.inj (Option.some.inj h)
    exact ⟨.pong, rfl⟩
  | tickData =>
    obtain ⟨⟨data, rest'⟩, hdata, h⟩ := Option.bind_eq_some_iff.1 h
    obtain ⟨rfl, rfl⟩ := Prod.mk.inj (Option.some.inj h)
    exact ⟨.signedTicker data, congrArg _ (SignedTicker.canonical _ _ _ hdata)⟩
  | attestations =>
    obtain ⟨⟨data, rest'⟩, hdata, h⟩ := Option.bind_eq_some_iff.1 h
    obtain ⟨rfl, rfl⟩ := Prod.mk.inj (Option.some.inj h)
    exact ⟨.attestations data, congrArg _ ((Canonical.fixedBytes 20).list _ _ _ hdata)⟩

/-- The message of a signed ticker, with a byte behind it. -/
theorem decodeMessage_sound_honest :
    Built (signedTicker honest) ∧
      (signedTicker honest).encoded ++ [7] = (signedTicker honest).encoded ++ [7] :=
  decodeMessage_sound (by decide +kernel)

end OracleProtoMessage

end ExEx.Oracle
