import ExEx.Lib.Rlp
import ExEx.Reth.Block

/-!
# Messages of the oracle protocol

Peers exchange pings and pongs, signed tickers, and attestations (lists of the
signers of a ticker). A message is a byte that tells its kind, and the RLP of
what it carries.

A signed ticker has the ticker, a signature, the address that claims to have
signed, and an id, the hash of the ticker. Its RLP has all four: nothing in the
format relates them, it is `SignedTicker.new` that does.
-/

namespace ExEx.Oracle

open Reth (Signature)
open Rlp (Decoder)

/-! ## Signatures -/

/-- The parity a signature's last byte stands for, if any. -/
def normalizeV (v : UInt8) : Option Bool :=
  if v = 0 then some false
  else if v = 1 then some true
  else if v = 27 then some false
  else if v = 28 then some true
  else if 35 ≤ v then some ((v - 35) % 2 = 1)
  else none

/-- The signature of a slice: 65 bytes, the last one a parity. -/
def Signature.tryFrom (b : Bytes) : Option Signature :=
  if b.length = 65 then
    (normalizeV (b.getD 64 0)).map fun yParity => ⟨wordAt b 0, wordAt b 32, yParity⟩
  else none

/-- The bytes of a signature. -/
def Signature.asBytes (signature : Signature) : Bytes :=
  (B256.ofU256 signature.r).toVec ++ (B256.ofU256 signature.s).toVec ++
    [if signature.yParity then 28 else 27]

/-! ## Tickers -/

/-- The state of a market. -/
structure Ticker where
  eventType : Utf8
  eventTime : UInt64
  symbol : Utf8
  priceChange : Utf8
  priceChangePercent : Utf8
  weightedAvgPrice : Utf8
  prevClosePrice : Utf8
  lastPrice : Utf8
  lastQuantity : Utf8
  bestBidPrice : Utf8
  bestBidQuantity : Utf8
  bestAskPrice : Utf8
  bestAskQuantity : Utf8
  openPrice : Utf8
  highPrice : Utf8
  lowPrice : Utf8
  volume : Utf8
  quoteVolume : Utf8
  openTime : UInt64
  closeTime : UInt64
  firstTradeId : UInt64
  lastTradeId : UInt64
  numTrades : UInt64
  deriving DecidableEq

def Ticker.encode (t : Ticker) : Bytes :=
  Rlp.encodeList
    [Rlp.encodeBytes t.eventType.toVec, Rlp.encodeUInt64 t.eventTime,
      Rlp.encodeBytes t.symbol.toVec, Rlp.encodeBytes t.priceChange.toVec,
      Rlp.encodeBytes t.priceChangePercent.toVec, Rlp.encodeBytes t.weightedAvgPrice.toVec,
      Rlp.encodeBytes t.prevClosePrice.toVec, Rlp.encodeBytes t.lastPrice.toVec,
      Rlp.encodeBytes t.lastQuantity.toVec, Rlp.encodeBytes t.bestBidPrice.toVec,
      Rlp.encodeBytes t.bestBidQuantity.toVec, Rlp.encodeBytes t.bestAskPrice.toVec,
      Rlp.encodeBytes t.bestAskQuantity.toVec, Rlp.encodeBytes t.openPrice.toVec,
      Rlp.encodeBytes t.highPrice.toVec, Rlp.encodeBytes t.lowPrice.toVec,
      Rlp.encodeBytes t.volume.toVec, Rlp.encodeBytes t.quoteVolume.toVec,
      Rlp.encodeUInt64 t.openTime, Rlp.encodeUInt64 t.closeTime, Rlp.encodeUInt64 t.firstTradeId,
      Rlp.encodeUInt64 t.lastTradeId, Rlp.encodeUInt64 t.numTrades]

def Ticker.decode : Decoder Ticker := Rlp.decodeRecord do
  let eventType ← Rlp.decodeString
  let eventTime ← Rlp.decodeUInt64
  let symbol ← Rlp.decodeString
  let priceChange ← Rlp.decodeString
  let priceChangePercent ← Rlp.decodeString
  let weightedAvgPrice ← Rlp.decodeString
  let prevClosePrice ← Rlp.decodeString
  let lastPrice ← Rlp.decodeString
  let lastQuantity ← Rlp.decodeString
  let bestBidPrice ← Rlp.decodeString
  let bestBidQuantity ← Rlp.decodeString
  let bestAskPrice ← Rlp.decodeString
  let bestAskQuantity ← Rlp.decodeString
  let openPrice ← Rlp.decodeString
  let highPrice ← Rlp.decodeString
  let lowPrice ← Rlp.decodeString
  let volume ← Rlp.decodeString
  let quoteVolume ← Rlp.decodeString
  let openTime ← Rlp.decodeUInt64
  let closeTime ← Rlp.decodeUInt64
  let firstTradeId ← Rlp.decodeUInt64
  let lastTradeId ← Rlp.decodeUInt64
  let numTrades ← Rlp.decodeUInt64
  return ⟨eventType, eventTime, symbol, priceChange, priceChangePercent, weightedAvgPrice,
    prevClosePrice, lastPrice, lastQuantity, bestBidPrice, bestBidQuantity, bestAskPrice,
    bestAskQuantity, openPrice, highPrice, lowPrice, volume, quoteVolume, openTime, closeTime,
    firstTradeId, lastTradeId, numTrades⟩

/-- A ticker with a signature. -/
structure SignedTicker where
  ticker : Ticker
  signature : Bytes
  signer : Address
  id : B256
  deriving DecidableEq

/-- The signed ticker of an honest signer. -/
def SignedTicker.new (keccak256 : Bytes → B256) (ticker : Ticker) (signature : Signature)
    (signer : Address) : SignedTicker where
  ticker := ticker
  signature := Signature.asBytes signature
  signer := signer
  id := keccak256 ticker.encode

/-- The id of an honest signed ticker is the hash of its ticker. -/
theorem SignedTicker.id_new (keccak256 : Bytes → B256) (ticker : Ticker) (signature : Signature)
    (signer : Address) : (new keccak256 ticker signature signer).id =
      keccak256 (new keccak256 ticker signature signer).ticker.encode := rfl

def SignedTicker.encode (t : SignedTicker) : Bytes :=
  Rlp.encodeList
    [t.ticker.encode, Rlp.encodeBytes t.signature, Rlp.encodeBytes t.signer.toVec,
      Rlp.encodeBytes t.id.toVec]

def SignedTicker.decode : Decoder SignedTicker := Rlp.decodeRecord do
  let ticker ← Ticker.decode
  let signature ← Rlp.decodeBytes
  let signer ← Rlp.decodeFixedBytes 20
  let id ← Rlp.decodeFixedBytes 32
  return ⟨ticker, signature, signer, id⟩

/-! ## Messages -/

inductive OracleProtoMessageId
  | ping
  | pong
  | tickData
  | attestations
  deriving DecidableEq

/-- The byte of a kind of message. -/
def OracleProtoMessageId.toByte : OracleProtoMessageId → UInt8
  | .ping => 0x00
  | .pong => 0x01
  | .tickData => 0x02
  | .attestations => 0x03

/-- The kind of message of a byte. -/
def OracleProtoMessageId.ofByte (id : UInt8) : Option OracleProtoMessageId :=
  if id = 0x00 then some .ping
  else if id = 0x01 then some .pong
  else if id = 0x02 then some .tickData
  else if id = 0x03 then some .attestations
  else none

theorem OracleProtoMessageId.eq_toByte_of_ofByte {id : UInt8} {messageType : OracleProtoMessageId}
    (h : ofByte id = some messageType) : id = messageType.toByte := by
  rw [ofByte] at h
  split_ifs at h with h0 h1 h2 h3 <;> obtain rfl := Option.some.inj h <;> assumption

inductive OracleProtoMessageKind
  | ping
  | pong
  | signedTicker (data : SignedTicker)
  | attestations (data : List Address)
  deriving DecidableEq

structure OracleProtoMessage where
  messageType : OracleProtoMessageId
  message : OracleProtoMessageKind
  deriving DecidableEq

namespace OracleProtoMessage

def attestations (attestations : List Address) : OracleProtoMessage :=
  ⟨.attestations, .attestations attestations⟩

def signedTicker (data : SignedTicker) : OracleProtoMessage := ⟨.tickData, .signedTicker data⟩

def ping : OracleProtoMessage := ⟨.ping, .ping⟩

def pong : OracleProtoMessage := ⟨.pong, .pong⟩

def encoded (m : OracleProtoMessage) : Bytes :=
  m.messageType.toByte ::
    match m.message with
    | .ping => []
    | .pong => []
    | .attestations data => Rlp.encodeList (data.map fun a => Rlp.encodeBytes a.toVec)
    | .signedTicker data => data.encode

/-- The message at the front of a buffer. -/
def decodeMessage : Decoder OracleProtoMessage := fun buf => do
  let id ← buf.head?
  let messageType ← OracleProtoMessageId.ofByte id
  match messageType with
  | .ping => some (⟨messageType, .ping⟩, buf.tail)
  | .pong => some (⟨messageType, .pong⟩, buf.tail)
  | .attestations =>
    let (data, buf) ← Rlp.decodeList (Rlp.decodeFixedBytes 20) buf.tail
    some (⟨messageType, .attestations data⟩, buf)
  | .tickData =>
    let (data, buf) ← SignedTicker.decode buf.tail
    some (⟨messageType, .signedTicker data⟩, buf)

/-- A message of attestations is decoded if the list is. -/
theorem decodes_attestations_of {l : List Address}
    (h : Rlp.Decodes (Rlp.decodeList (Rlp.decodeFixedBytes 20))
      (Rlp.encodeList (l.map fun a => Rlp.encodeBytes a.toVec)) l) :
    Rlp.Decodes decodeMessage (attestations l).encoded (attestations l) := by
  intro rest
  have hrest := h rest
  simp [decodeMessage, encoded, attestations, OracleProtoMessageId.toByte,
    OracleProtoMessageId.ofByte, hrest]

/-- A list of attestations of which a vector can hold that many. -/
theorem decodes_attestations {l : List Address} (h : l.length * 20 < 2 ^ 63) :
    Rlp.Decodes decodeMessage (attestations l).encoded (attestations l) := by
  have hlength : ∀ a : Address, (Rlp.encodeBytes a.toVec).length = 21 := by
    intro a
    have hne : ¬(a.toVec.length = 1 ∧ a.toVec.headD 0 < 0x80) := by
      rw [a.length_toVec]; omega
    rw [Rlp.encodeBytes, if_neg hne, List.length_append, a.length_toVec]
    rfl
  have hflatten : (l.map fun a => Rlp.encodeBytes a.toVec).flatten.length = l.length * 21 := by
    rw [List.length_flatten, List.map_map]
    simp [Function.comp_def, hlength]
  exact decodes_attestations_of (Rlp.decodeList_encodeList
    (Rlp.decodeFixedBytes_encodeBytes (by decide)) (fun a => Rlp.encodeBytes_ne_nil a.toVec)
    (by rw [hflatten]; omega))

end OracleProtoMessage

end ExEx.Oracle
