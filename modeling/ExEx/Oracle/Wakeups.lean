import ExEx.Oracle.Peer
import Mathlib.Logic.Function.Iterate

/-!
# Wake-ups of a connection

A poll that answers pending relies on its inputs to wake it again. An input that is
open does so only if it answered pending itself the last time it was polled
(`quiet_pollNext`): after an item, or after a report of missed tickers, no waker is
registered.

Each turn of the loop polls every input once, so an input is quiet at the end if it
had fewer items than there were turns (`quiet_polled`). Commands that are there are
replied to, and the messages of the peer are what the turns are counted by. But a
report of missed tickers is dropped without polling for the next ticker, so a poll
that finds more reports than messages goes to sleep on its tickers
(`watched_pollNext`).
-/

namespace ExEx.Oracle

open Reth (Signature)

namespace Channel

variable {α : Type}

/-- Nothing is left in the channel, and its receiver is woken if anything comes. -/
def Quiet (c : Channel α) : Prop := c.queue = [] ∧ (c.closed = false → c.waker = true)

instance (c : Channel α) : Decidable c.Quiet :=
  decidable_of_iff (c.queue.isEmpty = true ∧ (c.closed = false → c.waker = true))
    (and_congr_left' List.isEmpty_iff)

/-- The channel after some polls. -/
def polled (n : ℕ) (c : Channel α) : Channel α := (fun c => c.pollNext.2)^[n] c

@[simp] theorem closed_pollNext (c : Channel α) : c.pollNext.2.closed = c.closed := by
  rw [pollNext]
  split
  · rfl
  · split_ifs <;> rfl

theorem polled_succ (n : ℕ) (c : Channel α) : c.polled (n + 1) = c.pollNext.2.polled n :=
  Function.iterate_succ_apply _ n c

/-- An open channel is quiet after a poll iff it answered pending. -/
theorem quiet_pollNext {c : Channel α} (h : c.closed = false) :
    c.pollNext.2.Quiet ↔ c.pollNext.1 = .pending := by
  rw [Quiet, closed_pollNext]
  rcases hqueue : c.queue with _ | ⟨a, queue⟩
  · rw [pollNext, hqueue, h]
    exact ⟨fun _ => rfl, fun _ => ⟨rfl, fun _ => rfl⟩⟩
  · rw [pollNext_of_cons hqueue]
    exact ⟨fun hq => absurd (hq.2 h) Bool.false_ne_true, fun hp => by cases hp⟩

/-- A channel is quiet after a poll iff it was empty, or is closed and had one item. -/
theorem quiet_pollNext_iff {c : Channel α} :
    c.pollNext.2.Quiet ↔ c.queue.length = 0 ∨ (c.closed = true ∧ c.queue.length = 1) := by
  rw [Quiet, closed_pollNext, queue_pollNext, List.length_eq_zero_iff]
  rcases hqueue : c.queue with _ | ⟨a, queue⟩
  · rw [pollNext, hqueue]
    refine iff_of_true ⟨rfl, fun h => ?_⟩ (.inl rfl)
    simp only [h, Bool.false_eq_true, if_false]
  · rw [pollNext_of_cons hqueue]
    simp [and_comm]

/-- A channel is quiet after some polls iff there were more of them than items. The
    last item of a closed channel needs no other poll. -/
theorem quiet_polled {n : ℕ} {c : Channel α} :
    (c.polled (n + 1)).Quiet ↔
      c.queue.length ≤ n ∨ (c.closed = true ∧ c.queue.length ≤ n + 1) := by
  induction n generalizing c with
  | zero =>
    rw [polled_succ]
    refine quiet_pollNext_iff.trans ⟨?_, ?_⟩
    · exact Or.imp le_of_eq fun h => ⟨h.1, le_of_eq h.2⟩
    · rintro (h | ⟨hclosed, h⟩)
      · exact .inl (Nat.le_zero.1 h)
      · exact (Nat.le_one_iff_eq_zero_or_eq_one.1 h).imp id fun h => ⟨hclosed, h⟩
  | succ n ih =>
    rw [polled_succ, ih, closed_pollNext, queue_pollNext, List.length_tail]
    simp only [Nat.sub_le_iff_le_add]

end Channel

namespace OracleConnection

/-- Every input wakes the connection if anything comes, and none has anything left. -/
def Watched (s : OracleConnection) : Prop :=
  s.commands.Quiet ∧ s.signedTicks.Quiet ∧ s.conn.Quiet

instance (s : OracleConnection) : Decidable s.Watched :=
  inferInstanceAs (Decidable (_ ∧ _ ∧ _))

variable {recoverAddressFromMsg : Signature → Bytes → Option Address}

/-- A message is not answered pending. -/
theorem receive_ne_pending (msg : Bytes) (s : OracleConnection) :
    (receive recoverAddressFromMsg msg s).1 ≠ some .pending := by
  intro h
  rw [receive] at h
  split at h
  · cases h
  · split at h
    · cases h
    · cases h
    · cases h
    · simp only [attest] at h
      split at h
      · cases h
      · split at h <;> cases h

/-- When the loop goes to sleep, the commands and the peer wake it, and the tickers were
    polled once in each turn. -/
theorem pollLoop_pending {s : OracleConnection}
    (h : (pollLoop recoverAddressFromMsg s.conn.queue s).1 = .pending) :
    (pollLoop recoverAddressFromMsg s.conn.queue s).2.commands.Quiet ∧
      (pollLoop recoverAddressFromMsg s.conn.queue s).2.conn.Quiet ∧
      (pollLoop recoverAddressFromMsg s.conn.queue s).2.signedTicks =
        s.signedTicks.polled (s.conn.queue.length + 1) := by
  have hticks {c : OracleConnection} (hc : (pollLocal c).1 = none) :
      (pollLocal c).2.signedTicks = c.signedTicks.pollNext.2 := by
    rw [(pollLocal_eq_none hc).2]
  refine pollLoop_rule
    (P := fun messages c => c.conn.queue = messages ∧
      c.signedTicks.polled (messages.length + 1) = s.signedTicks.polled (s.conn.queue.length + 1))
    (Q := fun polled c => polled = .pending → c.commands.Quiet ∧ c.conn.Quiet ∧
      c.signedTicks = s.signedTicks.polled (s.conn.queue.length + 1))
    ?_ ?_ ?_ ?_ ?_ ⟨rfl, rfl⟩ h
  · rintro _ c _ - hlocal rfl
    obtain ⟨msg, hmsg⟩ := pollLocal_replies hlocal
    cases hmsg
  · rintro c - - hpolled
    cases hpolled
  · rintro c ⟨hmessages, hpolled⟩ hlocal -
    obtain ⟨hcommands, hsleep⟩ := pollLocal_eq_none hlocal
    refine ⟨?_, ?_, ?_⟩
    · rw [hsleep]
      exact Channel.quiet_pollNext_iff.2 (.inl (List.length_eq_zero_iff.2 hcommands))
    · exact ⟨(congrArg Channel.queue (conn_pollLocal c)).trans hmessages, fun _ => rfl⟩
    · exact (hticks hlocal).trans hpolled
  · rintro msg messages c ⟨-, hpolled⟩ hlocal -
    refine ⟨by rw [conn_receive]; rfl, ?_⟩
    rw [signedTicks_receive]
    -- The turn of this message has polled the tickers once.
    exact (congrArg (Channel.polled _) (hticks hlocal)).trans
      ((Channel.polled_succ _ _).symm.trans hpolled)
  · rintro msg messages c _ - - hreply rfl
    exact absurd hreply (receive_ne_pending msg _)

/-- No wake-up is lost, and nothing that is there stays unsent, iff there are no more
    reports of missed tickers than messages of the peer: in a poll that answers
    pending, each of them takes a turn. -/
theorem watched_pollNext {s : OracleConnection}
    (h : (s.pollNext recoverAddressFromMsg).1 = .pending) :
    (s.pollNext recoverAddressFromMsg).2.Watched ↔
      s.signedTicks.queue.length ≤ s.conn.queue.length ∨
        (s.signedTicks.closed = true ∧ s.signedTicks.queue.length ≤ s.conn.queue.length + 1) := by
  rw [pollNext] at h ⊢
  rcases hping : s.initialPing with _ | ping
  · rw [hping] at h
    obtain ⟨hcommands, hconn, hticks⟩ := pollLoop_pending h
    simp only
    rw [Watched, hticks, Channel.quiet_polled, and_iff_right hcommands, and_iff_left hconn]
  · rw [hping] at h
    cases h

end OracleConnection

/-! ## A connection that was too slow -/

/-- A connection that missed a ticker: the oracle has signed one more than the 256 the
    channel holds. -/
def lagging : OracleConnection :=
  { intoConnection false with
    signedTicks := ⟨.error 1 :: List.replicate 256 (.ok honest), false, false⟩ }

/-- Its poll drops the report and goes to sleep, and the tickers that are there do not
    wake it. -/
theorem lagging_sleeps :
    (lagging.pollNext tickerRecover).1 = .pending ∧
      (lagging.pollNext tickerRecover).2.signedTicks =
        ⟨List.replicate 256 (.ok honest), false, false⟩ ∧
      ¬(lagging.pollNext tickerRecover).2.Watched := by
  have hticks : (lagging.pollNext tickerRecover).2.signedTicks =
      ⟨List.replicate 256 (.ok honest), false, false⟩ := rfl
  refine ⟨rfl, hticks, fun h => ?_⟩
  have hquiet := h.2.1
  rw [hticks] at hquiet
  exact absurd (hquiet.2 rfl) Bool.false_ne_true

/-- With the report alone, a message of the peer that needs no reply makes it poll for
    tickers again. -/
theorem watched_after_pong :
    let s := { intoConnection false with
      conn := ⟨[OracleProtoMessage.pong.encoded], false, false⟩
      signedTicks := ⟨[.error 1], false, false⟩ }
    (s.pollNext tickerRecover).1 = .pending ∧ (s.pollNext tickerRecover).2.Watched :=
  ⟨by decide +kernel, (OracleConnection.watched_pollNext (by decide +kernel)).2 (.inl le_rfl)⟩

end ExEx.Oracle
