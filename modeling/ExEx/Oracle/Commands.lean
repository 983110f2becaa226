import ExEx.Oracle.Answers
import Mathlib.Data.List.Perm.Subperm

/-!
# Commands that are dropped

A command that is taken from the queue leaves its response channel with the
connection, until attestations come from the peer. There is room for one. When the
next command is taken before that, it takes the place of the first, whose response
channel is dropped.

So no command is dropped in the runs that take a command only when none waits for
its answer; and after the first that does not, one has been dropped (`none_dropped`).

A poll is not atomic for who sends commands and messages: they can arrive while the
loop runs. The steps here are the turns of the loop (`pollTurn`), and a poll is some
of them (`pollNext_eq`).
-/

namespace ExEx.Oracle

open Reth (Signature)

namespace OracleConnection

section

variable (recoverAddressFromMsg : Signature → Bytes → Option Address)

/-- One turn of the loop of a poll, or the ping. -/
def pollTurn (s : OracleConnection) : Option Polled × OracleConnection :=
  match s.initialPing with
  | some ping => (some (.ready (some ping.encoded)), { s with initialPing := none })
  | none =>
    match pollLocal s with
    | (some polled, s) => (some polled, s)
    | (none, s) =>
      match s.conn.queue with
      | [] =>
        if s.conn.closed then (some (.ready none), s)
        else (some .pending, { s with conn := { s.conn with waker := true } })
      | msg :: messages =>
        receive recoverAddressFromMsg msg { s with conn := ⟨messages, s.conn.closed, false⟩ }

end

/-- The response channel of a command. -/
def sender : OracleCommand → Sender
  | .attestation _ sender => sender

/-- The response channel of the command that a turn takes, if it takes one. -/
def takes (s : OracleConnection) : List Sender :=
  if s.initialPing = none then (s.commands.queue.take 1).map sender else []

/-- The response channels that were answered, and the one that is kept. -/
def held (s : OracleConnection) : List Sender := s.answers.map Prod.fst ++ s.pendingAtt.toList

end OracleConnection

/-- A session, and the response channels of the commands taken from the queue. -/
structure Asked where
  session : Session
  taken : List Sender

section

variable (recoverAddressFromMsg : Signature → Bytes → Option Address)

/-- The session after an event, where only one turn of a poll is made. -/
def Asked.act (s : Asked) : Event → Asked
  | .poll =>
    let r := s.session.connection.pollTurn recoverAddressFromMsg
    { session :=
        { s.session with
          connection := r.2
          ended := r.1 = some (.ready none) ∨ r.1 = some .panic }
      taken := s.taken ++ s.session.connection.takes }
  | e => { s with session := s.session.act recoverAddressFromMsg e }

/-- Sessions turn by turn, where anything can happen between two turns. -/
def asking : System Asked Event where
  init s := ∃ outgoing, s = ⟨.start outgoing, []⟩
  step s e s' := (e = .poll → s.session.ended = false) ∧ s' = s.act recoverAddressFromMsg e

end

/-- Every command that was taken is answered, or its response channel is kept. -/
def NoneDropped (s : Asked) : Prop := s.taken.Subperm s.session.connection.held

/-- A turn takes a command only when none waits for its answer. -/
def TakesAlone (s : Asked) (e : Event) : Prop :=
  e = .poll → s.session.connection.takes ≠ [] → s.session.connection.pendingAtt = none

variable {recoverAddressFromMsg : Signature → Bytes → Option Address}

namespace OracleConnection

/-! ## Polls are turns -/

theorem pollTurn_eq {s : OracleConnection} (hping : s.initialPing = none) :
    s.pollTurn recoverAddressFromMsg =
      match pollLocal s with
      | (some polled, s') => (some polled, s')
      | (none, s') =>
        match s.conn.queue with
        | [] =>
          if s'.conn.closed then (some (.ready none), s')
          else (some .pending, { s' with conn := { s'.conn with waker := true } })
        | msg :: messages =>
          receive recoverAddressFromMsg msg { s' with conn := ⟨messages, s'.conn.closed, false⟩ } := by
  have hconn := conn_pollLocal s
  rw [pollTurn, hping]
  dsimp only
  rcases hlocal : pollLocal s with ⟨_ | polled, s'⟩
  · rw [hlocal] at hconn
    dsimp only at hconn ⊢
    rw [hconn]
  · rfl

/-- The loop goes on with its next turn. -/
theorem pollLoop_eq {s : OracleConnection} (hping : s.initialPing = none) :
    pollLoop recoverAddressFromMsg s.conn.queue s =
      match s.pollTurn recoverAddressFromMsg with
      | (some polled, s') => (polled, s')
      | (none, s') => pollLoop recoverAddressFromMsg s'.conn.queue s' := by
  rw [pollTurn_eq hping]
  rcases hlocal : pollLocal s with ⟨_ | polled, s₁⟩
  · rcases hqueue : s.conn.queue with _ | ⟨msg, messages⟩
    · rw [pollLoop, hlocal]
      dsimp only
      split_ifs <;> rfl
    · rw [pollLoop, hlocal]
      dsimp only
      have hconn := conn_receive recoverAddressFromMsg msg (s₁.withMessages messages)
      rcases hreceive : receive recoverAddressFromMsg msg (s₁.withMessages messages) with
        ⟨_ | polled, s₂⟩ <;> rw [withMessages] at hreceive <;> rw [hreceive]
      rw [withMessages, hreceive] at hconn
      dsimp only at hconn ⊢
      rw [hconn]
  · exact pollLoop_of_pollLocal hlocal

/-- A command is taken, and its response channel kept. -/
theorem pollTurn_command {s : OracleConnection} (hping : s.initialPing = none) {id : B256}
    {sender : Sender} {rest : List OracleCommand}
    (h : s.commands.queue = .attestation id sender :: rest) :
    (s.pollTurn recoverAddressFromMsg).2 =
      { s with commands := ⟨rest, s.commands.closed, false⟩, pendingAtt := some sender } := by
  rw [pollTurn_eq hping, pollLocal_command h]

/-- Without a command, a turn takes none, and what it answers is what was kept. -/
theorem pollTurn_of_nil {s : OracleConnection} (hping : s.initialPing = none)
    (h : s.commands.queue = []) :
    (s.pollTurn recoverAddressFromMsg).2.initialPing = none ∧
      (s.pollTurn recoverAddressFromMsg).2.commands.queue = [] ∧
      (s.pollTurn recoverAddressFromMsg).2.held = s.held := by
  obtain ⟨-, commands, signedTicks, hcommands, -, heq⟩ := pollLocal_of_nil h
  rw [pollTurn_eq hping]
  rcases hlocal : pollLocal s with ⟨_ | polled, s'⟩ <;> rw [hlocal] at heq <;>
    obtain rfl : s' = _ := heq
  · dsimp only
    rcases s.conn.queue with _ | ⟨msg, messages⟩
    · dsimp only
      split_ifs <;> exact ⟨hping, hcommands, rfl⟩
    · refine ⟨by rw [initialPing_receive, hping], by rw [commands_receive, hcommands], ?_⟩
      have hreceive := receive_answers recoverAddressFromMsg msg
        { s with
          conn := ⟨messages, s.conn.closed, false⟩
          commands := commands
          signedTicks := signedTicks }
      rcases hcarried : carriedAttestations msg with _ | attestations <;>
        simp only [hcarried] at hreceive
      · rw [held, hreceive.1, hreceive.2]
        rfl
      · -- The response channel that was kept is answered.
        dsimp only
        rw [hreceive, answer, held, held]
        rcases s.pendingAtt with _ | sender
        · rfl
        · simp
  · exact ⟨hping, hcommands, rfl⟩

/-- What a turn takes is what it removes from the queue. -/
theorem commands_pollTurn (s : OracleConnection) :
    s.commands.queue.map sender =
      s.takes ++ (s.pollTurn recoverAddressFromMsg).2.commands.queue.map sender := by
  rw [takes]
  rcases hping : s.initialPing with _ | ping
  · rw [if_pos rfl]
    rcases hqueue : s.commands.queue with _ | ⟨⟨id, sender⟩, rest⟩
    · rw [(pollTurn_of_nil hping hqueue).2.1]
      rfl
    · rw [pollTurn_command hping hqueue]
      rfl
  · rw [pollTurn, hping]
    rfl

/-- The command that a turn takes replaces the one that waits. -/
theorem held_pollTurn (s : OracleConnection) :
    (s.pollTurn recoverAddressFromMsg).2.held =
      if s.takes = [] then s.held else s.answers.map Prod.fst ++ s.takes := by
  rw [takes]
  rcases hping : s.initialPing with _ | ping
  · rw [if_pos rfl]
    rcases hqueue : s.commands.queue with _ | ⟨⟨id, sender⟩, rest⟩
    · exact (pollTurn_of_nil hping hqueue).2.2
    · rw [pollTurn_command hping hqueue]
      rfl
  · rw [pollTurn, hping]
    rfl

variable (recoverAddressFromMsg) in
/-- A turn that ends the poll leaves what it is, and others go on with it. -/
theorem pollNext_eq (s : OracleConnection) :
    s.pollNext recoverAddressFromMsg =
      match s.pollTurn recoverAddressFromMsg with
      | (some polled, s') => (polled, s')
      | (none, s') => s'.pollNext recoverAddressFromMsg := by
  rcases hping : s.initialPing with _ | ping
  · have hnext : (s.pollTurn recoverAddressFromMsg).2.initialPing = none := by
      rcases hqueue : s.commands.queue with _ | ⟨⟨id, sender⟩, rest⟩
      · exact (pollTurn_of_nil hping hqueue).1
      · rw [pollTurn_command hping hqueue]
        exact hping
    rw [pollNext, hping]
    dsimp only
    rw [pollLoop_eq hping]
    rcases hturn : s.pollTurn recoverAddressFromMsg with ⟨_ | polled, s'⟩
    · rw [hturn] at hnext
      dsimp only at hnext ⊢
      rw [pollNext, hnext]
    · rfl
  · rw [pollNext, pollTurn, hping]

/-- A turn that goes on has handled a message. -/
theorem length_pollTurn {s : OracleConnection}
    (h : (s.pollTurn recoverAddressFromMsg).1 = none) :
    (s.pollTurn recoverAddressFromMsg).2.conn.queue.length < s.conn.queue.length := by
  rcases hping : s.initialPing with _ | ping
  · rw [pollTurn_eq hping] at h ⊢
    rcases hlocal : pollLocal s with ⟨_ | polled, s'⟩ <;> rw [hlocal] at h
    · dsimp only at h ⊢
      rcases hqueue : s.conn.queue with _ | ⟨msg, messages⟩ <;> rw [hqueue] at h
      · dsimp only at h
        split_ifs at h
      · dsimp only
        rw [conn_receive]
        exact Nat.lt_succ_self _
    · cases h
  · rw [pollTurn, hping] at h
    cases h

end OracleConnection

theorem leads_turn {s : Session} (hs : s.ended = false) (taken : List Sender) {r : Option Polled}
    {s' : OracleConnection}
    (hturn : s.connection.pollTurn recoverAddressFromMsg = (r, s')) :
    (asking recoverAddressFromMsg).Leads ⟨s, taken⟩
      ⟨{ s with connection := s', ended := r = some (.ready none) ∨ r = some .panic },
        taken ++ s.connection.takes⟩ := by
  refine .single ⟨.poll, fun _ => hs, ?_⟩
  rw [Asked.act, hturn]

/-- A poll is some turns. -/
theorem leads_poll {s : Session} (hs : s.ended = false) (taken : List Sender) :
    ∃ taken', (asking recoverAddressFromMsg).Leads ⟨s, taken⟩
      ⟨s.poll recoverAddressFromMsg, taken'⟩ := by
  induction hn : s.connection.conn.queue.length using Nat.strong_induction_on
    generalizing s taken with
  | _ n ih =>
    have hpoll := s.connection.pollNext_eq recoverAddressFromMsg
    rcases hturn : s.connection.pollTurn recoverAddressFromMsg with ⟨_ | polled, s'⟩
    · -- The rest of the poll is a poll of what the turn leaves.
      have hlength := s.connection.length_pollTurn (by rw [hturn])
      rw [hturn] at hpoll hlength
      have hrest : ({ s with connection := s', ended := false } : Session).poll
          recoverAddressFromMsg = s.poll recoverAddressFromMsg := by
        rw [Session.poll, Session.poll, hpoll]
      obtain ⟨taken', hleads⟩ := ih _ (hn ▸ hlength)
        (s := { s with connection := s', ended := false }) rfl (taken ++ s.connection.takes) rfl
      rw [hrest] at hleads
      exact ⟨taken', (leads_turn hs taken hturn).trans hleads⟩
    · rw [hturn] at hpoll
      refine ⟨taken ++ s.connection.takes, ?_⟩
      have hleads := leads_turn hs taken hturn
      rw [Session.poll, hpoll]
      simpa only [Option.some.injEq] using hleads

/-- Every state of a session is reached turn by turn. -/
theorem reachable_asking {s : Session} (hs : (sessions recoverAddressFromMsg).Reachable s) :
    ∃ taken, (asking recoverAddressFromMsg).Reachable ⟨s, taken⟩ := by
  refine hs.invariant (I := fun s => ∃ taken, (asking recoverAddressFromMsg).Reachable ⟨s, taken⟩)
    ?_ ?_
  · rintro s ⟨outgoing, rfl⟩
    exact ⟨[], .init ⟨outgoing, rfl⟩⟩
  · rintro s e s' _ ⟨taken, h⟩ _ ⟨hended, rfl⟩
    by_cases he : e = .poll
    · subst he
      obtain ⟨taken', hleads⟩ := leads_poll (hended rfl) taken
      exact ⟨taken', h.leads hleads⟩
    · have hact : (⟨s.act recoverAddressFromMsg e, taken⟩ : Asked) =
          Asked.act recoverAddressFromMsg ⟨s, taken⟩ e := by
        cases e <;> first | rfl | exact absurd rfl he
      exact ⟨taken, h.step trivial ⟨fun h => absurd h he, hact⟩⟩

/-! ## What is dropped -/

variable (recoverAddressFromMsg) in
/-- What happens between two turns takes no command, and drops none. -/
theorem Asked.act_of_ne {s : Asked} {e : Event} (he : e ≠ .poll) :
    (s.act recoverAddressFromMsg e).taken = s.taken ∧
      (s.act recoverAddressFromMsg e).session.connection.held = s.session.connection.held := by
  cases e with
  | poll => exact absurd rfl he
  | _ => exact ⟨rfl, rfl⟩

variable (recoverAddressFromMsg) in
theorem Asked.act_poll (s : Asked) :
    (s.act recoverAddressFromMsg .poll).taken = s.taken ++ s.session.connection.takes ∧
      (s.act recoverAddressFromMsg .poll).session.connection.held =
        if s.session.connection.takes = [] then s.session.connection.held
        else s.session.connection.answers.map Prod.fst ++ s.session.connection.takes :=
  ⟨rfl, OracleConnection.held_pollTurn _⟩

/-- What is taken alone is kept, after the others. -/
theorem taken_step {s s' : Asked} {e : Event} (h : s.taken = s.session.connection.held)
    (hc : TakesAlone s e) (hstep : (asking recoverAddressFromMsg).step s e s') :
    s'.taken = s'.session.connection.held := by
  obtain ⟨-, rfl⟩ := hstep
  by_cases he : e = .poll
  · subst he
    obtain ⟨htaken, hheld⟩ := s.act_poll recoverAddressFromMsg
    rw [htaken, hheld, h]
    split_ifs with htakes
    · rw [htakes, List.append_nil]
    · rw [OracleConnection.held, hc rfl htakes, Option.toList_none, List.append_nil]
  · obtain ⟨htaken, hheld⟩ := s.act_of_ne recoverAddressFromMsg he
    rw [htaken, hheld, h]

/-- No step makes room for a command that was dropped. -/
theorem length_step {s s' : Asked} {e : Event} {n : ℕ}
    (h : s.session.connection.held.length + n ≤ s.taken.length)
    (hstep : (asking recoverAddressFromMsg).step s e s') :
    s'.session.connection.held.length + n ≤ s'.taken.length := by
  obtain ⟨-, rfl⟩ := hstep
  by_cases he : e = .poll
  · subst he
    obtain ⟨htaken, hheld⟩ := s.act_poll recoverAddressFromMsg
    rw [htaken, hheld, List.length_append]
    rw [OracleConnection.held, List.length_append] at h
    split_ifs with htakes
    · rw [OracleConnection.held, List.length_append]
      omega
    · rw [List.length_append]
      omega
  · obtain ⟨htaken, hheld⟩ := s.act_of_ne recoverAddressFromMsg he
    rwa [htaken, hheld]

/-- The command that waits is dropped when another one is taken. -/
theorem length_step_of_not_takesAlone {s s' : Asked} {e : Event}
    (h : s.taken = s.session.connection.held) (hc : ¬TakesAlone s e)
    (hstep : (asking recoverAddressFromMsg).step s e s') :
    s'.session.connection.held.length + 1 ≤ s'.taken.length := by
  obtain ⟨-, rfl⟩ := hstep
  simp only [TakesAlone, Classical.not_imp] at hc
  obtain ⟨rfl, htakes, hpending⟩ := hc
  obtain ⟨sender, hsender⟩ := Option.ne_none_iff_exists'.1 hpending
  obtain ⟨htaken, hheld⟩ := s.act_poll recoverAddressFromMsg
  rw [htaken, hheld, h, if_neg htakes, OracleConnection.held, hsender]
  rw [List.length_append, List.length_append, List.length_append]
  exact Nat.le_of_eq (Nat.add_right_comm _ _ _)

/-- In the runs that take a command only when none waits for its answer, no command is
    dropped. Once one is taken when another waits, one has been dropped. -/
theorem none_dropped {s : Asked} (hs : (asking recoverAddressFromMsg).ReachableBy TakesAlone s) :
    NoneDropped s ∧ ∀ e s', (asking recoverAddressFromMsg).step s e s' → ¬TakesAlone s e →
      ∀ s'', (asking recoverAddressFromMsg).Leads s' s'' → ¬NoneDropped s'' := by
  have htaken : s.taken = s.session.connection.held := by
    refine hs.invariant (I := fun s => s.taken = s.session.connection.held) ?_ ?_
    · rintro s ⟨outgoing, rfl⟩
      rfl
    · exact fun s e s' _ h hc hstep => taken_step h hc hstep
  constructor
  · exact List.Perm.subperm (List.Perm.of_eq htaken)
  · intro e s' hstep hc s'' hleads hsub
    have hlength : s''.session.connection.held.length + 1 ≤ s''.taken.length :=
      hleads.invariant (fun _ _ _ h hstep => length_step h hstep)
        (length_step_of_not_takesAlone htaken hc hstep)
    exact absurd hsub.length_le (Nat.not_le.2 hlength)

/-! ### Two commands -/

/-- The session after some events. -/
def askedAfter (events : List Event) : Asked :=
  events.foldl (Asked.act tickerRecover) ⟨.start false, []⟩

theorem reachableBy_askedAfter {C : Asked → Event → Prop} {events : List Event}
    (check : Asked → Bool) (hcheck : ∀ s e, check s = true → C s e ∧ s.session.ended = false)
    (h : System.passes (Asked.act tickerRecover) (fun s _ => check s) events
      ⟨.start false, []⟩ = true) :
    (asking tickerRecover).ReachableBy C (askedAfter events) := by
  refine System.ReachableBy.run (fun s _ => check s) (fun s e hs => ?_) (.init ⟨false, rfl⟩) h
  obtain ⟨hc, hended⟩ := hcheck s e hs
  exact ⟨hc, fun _ => hended, rfl⟩

/-- The second command comes when the first one has its answer. -/
def oneByOne : List Event :=
  [.command (.attestation .zero 1), .poll,
    .message (OracleProtoMessage.attestations [tickerSigner]).encoded, .poll,
    .command (.attestation .zero 2), .poll]

/-- The second command comes right after the first one. -/
def backToBack : List Event :=
  [.command (.attestation .zero 1), .command (.attestation .zero 2), .poll, .poll]

/-- The first of two commands is dropped by the second one. -/
theorem first_command_dropped :
    (asking tickerRecover).Reachable (askedAfter backToBack) ∧
      (askedAfter backToBack).session.ended = false ∧ (askedAfter backToBack).taken = [1, 2] ∧
      (askedAfter backToBack).session.connection.held = [2] ∧ ¬NoneDropped (askedAfter backToBack) := by
  have hheld : (askedAfter backToBack).session.connection.held = [2] := by decide +kernel
  have htaken : (askedAfter backToBack).taken = [1, 2] := by decide +kernel
  refine ⟨?_, by decide +kernel, htaken, hheld, ?_⟩
  · exact reachableBy_askedAfter (fun s => !s.session.ended)
      (fun s _ hs => ⟨trivial, Bool.not_eq_true' _ ▸ hs⟩) (by decide +kernel)
  · intro h
    rw [NoneDropped, htaken, hheld] at h
    exact absurd h.length_le (by decide)

/-- One by one, the first is answered and the second waits. -/
theorem none_dropped_oneByOne :
    (askedAfter oneByOne).taken = [1, 2] ∧
      (askedAfter oneByOne).session.connection.answers = [(1, [tickerSigner])] ∧
      NoneDropped (askedAfter oneByOne) := by
  refine ⟨by decide +kernel, by decide +kernel, (none_dropped (reachableBy_askedAfter
    (fun s => !s.session.ended &&
      (s.session.connection.takes.isEmpty || s.session.connection.pendingAtt.isNone))
    ?_ (by decide +kernel))).1⟩
  intro s e hs
  obtain ⟨hended, halone⟩ := Bool.and_eq_true_iff.1 hs
  refine ⟨fun _ htakes => ?_, Bool.not_eq_true' _ ▸ hended⟩
  rcases Bool.or_eq_true_iff.1 halone with hnil | hnone
  · exact absurd (List.isEmpty_iff.1 hnil) htakes
  · exact Option.isNone_iff_eq_none.1 hnone

end ExEx.Oracle
