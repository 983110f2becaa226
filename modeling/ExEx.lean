import ExEx.Lib.Loop
import ExEx.Lib.Except
import ExEx.Lib.Iteration
import ExEx.Lib.Assoc
import ExEx.Lib.SortedMap
import ExEx.Lib.Selection
import ExEx.Lib.Decimal
import ExEx.Lib.Bytes
import ExEx.Lib.Rlp
import ExEx.Lib.RlpCanonical
import ExEx.Lib.Codec
import ExEx.Lib.System
import ExEx.Lib.Undo
import ExEx.Lib.Broadcast
import ExEx.Lib.BaseFee
import ExEx.Reth.Primitives
import ExEx.Reth.Block
import ExEx.Reth.Chain
import ExEx.Reth.Outcome
import ExEx.Rollup.Database
import ExEx.Rollup.Insert
import ExEx.Rollup.Revert
import ExEx.Rollup.RoundTrip
import ExEx.Rollup.Reuse
import ExEx.Rollup.Tip
import ExEx.Rollup.Execution
import ExEx.Rollup.Driver
import ExEx.Rollup.Ideal
import ExEx.Rollup.Linked
import ExEx.Rollup.Atomic
import ExEx.Rollup.EvmDatabase
import ExEx.Rollup.BaseFee
import ExEx.Rollup.Overlay
import ExEx.Rollup.Gas
import ExEx.Rollup.Blobs
import ExEx.Rollup.Reorg
import ExEx.Rollup.Stored
import ExEx.InMemoryState
import ExEx.OpBridge
import ExEx.OpBridge.Canonical
import ExEx.OpBridge.Failure
import ExEx.OpBridge.Redelivery
import ExEx.Backfill.Model
import ExEx.Backfill.Invariant
import ExEx.Backfill.Bookkeeping
import ExEx.Backfill.Cancel
import ExEx.Backfill.Admission
import ExEx.Backfill.Rpc
import ExEx.Oracle.Message
import ExEx.Oracle.Connection
import ExEx.Oracle.Peer
import ExEx.Oracle.RoundTrip
import ExEx.Oracle.Signers
import ExEx.Oracle.Answers
import ExEx.Oracle.Joined
import ExEx.Oracle.Commands
import ExEx.Oracle.Wakeups
import ExEx.Oracle.Polling
import ExEx.Oracle.Canonical
import ExEx.Oracle.Traffic
import ExEx.Oracle.Binance
import ExEx.Oracle.Signing
import ExEx.Oracle.Gossip
import ExEx.Oracle.Owed
import ExEx.Oracle.EndToEnd
import ExEx.Oracle.Settling
import ExEx.Discv5
import ExEx.Remote.Proto
import ExEx.Remote.Encode
import ExEx.Remote.Decode
import ExEx.Remote.Numbers
import ExEx.Remote.RoundTrip
import ExEx.Remote.Integrity
import ExEx.Remote.Panics
import ExEx.Remote.WellFormed
import ExEx.Remote.Subscribe
import ExEx.Remote.Consumer
import ExEx.Remote.CatchUp
