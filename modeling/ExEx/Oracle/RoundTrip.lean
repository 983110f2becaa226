import ExEx.Oracle.Peer

/-!
# Round trips of oracle messages

What a peer encodes, the other one decodes: a message taken off the front of a buffer
is the one that was put there, and what is behind it is left (`decodes_encoded`). The
only limit is that of a buffer, whose length is a machine word.

A ticker has 23 fields and is itself a field of a signed ticker. Both are records, so
this is the rule for one more field, at each of them.
-/

namespace ExEx.Oracle

open Rlp (Reads)

theorem Ticker.reads (t : Ticker) : Reads Ticker.decode t.encode t :=
  .record <| .field (.string _) <| .field (.uint64 _) <| .field (.string _) <|
    .field (.string _) <| .field (.string _) <| .field (.string _) <| .field (.string _) <|
    .field (.string _) <| .field (.string _) <| .field (.string _) <| .field (.string _) <|
    .field (.string _) <| .field (.string _) <| .field (.string _) <| .field (.string _) <|
    .field (.string _) <| .field (.string _) <| .field (.string _) <| .field (.uint64 _) <|
    .field (.uint64 _) <| .field (.uint64 _) <| .field (.uint64 _) <| .field (.uint64 _) <|
    .pure _

theorem SignedTicker.reads (t : SignedTicker) : Reads SignedTicker.decode t.encode t :=
  .record <| .field t.ticker.reads <| .field (.bytes _) <| .field (.fixedBytes _) <|
    .field (.fixedBytes _) <| .pure _

namespace OracleProtoMessage

/-- What a message is made by. -/
inductive Built : OracleProtoMessage → Prop
  | ping : Built ping
  | pong : Built pong
  | attestations (l : List Address) : Built (attestations l)
  | signedTicker (data : SignedTicker) : Built (signedTicker data)

/-- A message of a signed ticker is decoded if the ticker is. -/
theorem decodes_signedTicker_of {data : SignedTicker}
    (h : Rlp.Decodes SignedTicker.decode data.encode data) :
    Rlp.Decodes decodeMessage (signedTicker data).encoded (signedTicker data) := by
  intro rest
  have hrest := h rest
  simp [decodeMessage, encoded, signedTicker, OracleProtoMessageId.toByte,
    OracleProtoMessageId.ofByte, hrest]

/-- Every message that fits in a buffer is decoded from the front of one, and what is
    behind it is left there. -/
theorem decodes_encoded {m : OracleProtoMessage} (hm : Built m) (hlt : m.encoded.length < 2 ^ 64)
    (rest : Bytes) : decodeMessage (m.encoded ++ rest) = some (m, rest) := by
  -- The byte that tells the kind comes before what is limited.
  have hbody : m.encoded.tail.length < 2 ^ 64 := by
    rw [List.length_tail]
    exact (Nat.sub_le _ _).trans_lt hlt
  cases hm with
  | ping => rfl
  | pong => rfl
  | attestations l =>
    exact decodes_attestations_of (Reads.list (Rlp.decodeFixedBytes_encodeBytes (by decide))
      (fun a => Rlp.encodeBytes_ne_nil a.toVec) l hbody) rest
  | signedTicker data => exact decodes_signedTicker_of (data.reads hbody) rest

/-- A signed ticker, with a byte behind it. -/
theorem decodes_honest :
    decodeMessage ((signedTicker honest).encoded ++ [7]) = some (signedTicker honest, [7]) :=
  decodes_encoded (.signedTicker honest) (by decide +kernel) [7]

end OracleProtoMessage

end ExEx.Oracle
