import ExEx.Oracle.Gossip

/-!
# Answers of another id

A connection that has taken a command waits for a list of attestations, and the first that
comes is the answer. Which list comes first is settled before it does. The lists on the way
to a side come in order; behind them come the replies of the peer to the tickers of that
side which it has still to handle. These are the lists owed to the side (`Joined.owed`), and
a command of the peer adds one, behind those on the way.

So a command has its own answer in the runs in which it never comes to wait for the list of
another id (`answers_own`): when it is taken, the first list owed is of its id, if any is;
and when none is, neither a ticker of its oracle nor a command of the peer with another id
makes one. Otherwise it can be answered with the list of another id (`answers_other`).
-/

namespace ExEx.Oracle

open Reth (Signature)

/-! ## What is owed -/

/-- The id that a command is for. -/
def OracleCommand.id : OracleCommand → B256
  | .attestation id _ => id

namespace End

variable (e : End)

/-- The tags of the lists that have come to a side, or are on the way to it. -/
def lists : List (Option B256) :=
  (taggedLists (e.session.connection.conn.queue.zip e.tags ++ e.inFlight)).map Prod.snd

/-- The tags of the replies to some tickers. -/
def replies (ticks : List SignedTicker) : List (Option B256) := ticks.map fun tick => some tick.id

/-- The id of the command that waits for its answer, if one does. -/
def waits : Option B256 :=
  if e.session.ended then none else
    e.session.connection.pendingAtt.bind fun sender => e.issued[sender]?

/-- The id of the command that the next poll takes, if it takes one. -/
def takes : Option B256 := e.session.connection.nextCommand.map OracleCommand.id

end End

/-- The tags of the lists that will come to a side, in order: of those on the way, and of the
    replies to its tickers that the peer has still to handle, unless its stream has ended. -/
def Joined.owed (s : Joined) (side : Side) : List (Option B256) :=
  (s side).lists ++ if (s side.other).session.ended then [] else
    End.replies ((s side.other).arrives ++ tickersIn (s side).session.connection.tickMessages)

theorem End.mem_waits {e : End} {id : B256} : id ∈ e.waits ↔ e.session.ended = false ∧
    ∃ sender, e.session.connection.pendingAtt = some sender ∧ e.issued[sender]? = some id := by
  rw [End.waits]
  rcases e.session.ended <;> simp [Option.bind_eq_some_iff]

/-- The first list owed to a side, if any is, is of the id. -/
def Joined.OwedFirst (s : Joined) (side : Side) (id : B256) : Prop :=
  ∀ tag ∈ (s.owed side).head?, tag = some id

/-- By a step, no command comes to wait for the list of another id. -/
def AsksInTurn (s : Joined) : JoinedEvent → Prop
  | .tick side (.ok tick) =>
    -- With nothing owed, the next list is the reply to this ticker, as the peer reads it.
    (s side.other).session.ended = false → s.owed side = [] → ∀ id ∈ (s side).waits,
      ∀ signedData ∈ carried (OracleProtoMessage.signedTicker tick).encoded, signedData.id = id
  | .poll side => ∀ id ∈ (s side).takes, s.OwedFirst side id ∧
    -- With none on the way to the other side, the next there is the one sent for this command.
    ((s side.other).lists = [] → ∀ id' ∈ (s side.other).waits, id = id')
  | _ => True

instance instDecidableOwedFirst (s : Joined) (side : Side) (id : B256) :
    Decidable (s.OwedFirst side id) := by
  unfold Joined.OwedFirst; infer_instance

instance instDecidableAsksInTurn (s : Joined) (event : JoinedEvent) :
    Decidable (AsksInTurn s event) := by
  rcases event with _ | _ | ⟨_, _ | _⟩ | _ | _ | _ | _ <;> (unfold AsksInTurn; infer_instance)

/-- The answer to a command was sent for its id, and the peer held it, at some moment, under
    the id. -/
def OwnAnswer (issued : List B256) (peer : List (B256 → List Address))
    (answer : Sender × List Address) (tag : Option B256) : Prop :=
  ∃ id, issued[answer.1]? = some id ∧ tag = some id ∧
    ∃ attestations ∈ peer, attestations id = answer.2

/-- Every answer is the peer's list for the id of the command, and for no other. -/
def AnswersOwn (s : Joined) : Prop :=
  ∀ side, List.Forall₂ (OwnAnswer (s side).issued (s side.other).held)
    (s side).session.connection.answers (s side).sentFor

variable {recoverAddressFromMsg : Signature → Bytes → Option Address}

/-! ## What a poll replies to -/

theorem taggedLists_append (messages messages' : List TaggedMessage) :
    taggedLists (messages ++ messages') = taggedLists messages ++ taggedLists messages' :=
  List.filterMap_append

theorem map_fst_taggedLists (messages : List TaggedMessage) :
    (taggedLists messages).map Prod.fst = listsIn (messages.map Prod.fst) := by
  rw [taggedLists, listsIn, List.map_filterMap, List.filterMap_map]
  congr 1
  funext m
  cases hcarried : carriedAttestations m.1 <;> simp [hcarried]

theorem tickersIn_append (messages messages' : List Bytes) :
    tickersIn (messages ++ messages') = tickersIn messages ++ tickersIn messages' :=
  List.filterMap_append

theorem carriedAttestations_encoded {m : OracleProtoMessage} (h : m.messageType ≠ .attestations) :
    carriedAttestations m.encoded = none := by
  refine Option.eq_none_iff_forall_ne_some.2 fun l hcarried => h ?_
  have hhead := Option.some.inj (head?_of_carriedAttestations hcarried)
  rcases hkind : m.messageType <;> rw [hkind] at hhead <;> first
    | rfl
    | exact absurd hhead (by decide)

namespace OracleConnection

variable (recoverAddressFromMsg) in
/-- A ticker is replied to with the attestations under its id, unless the stream ends. Other
    messages are not replied to with attestations. -/
theorem receive_replies (msg : Bytes) (s : OracleConnection) :
    match carried msg with
    | some tick =>
      (receive recoverAddressFromMsg msg s).1 = some (.ready none) ∨
        (receive recoverAddressFromMsg msg s).1 = some .panic ∨
          (receive recoverAddressFromMsg msg s).1 =
            some (.ready (some (OracleProtoMessage.attestations
              ((receive recoverAddressFromMsg msg s).2.attestationsOf tick.id)).encoded))
    | none => listsIn ((receive recoverAddressFromMsg msg s).1.elim [] Polled.messages) = [] := by
  rw [receive, carried]
  rcases OracleProtoMessage.decodeMessage msg with _ | ⟨⟨messageType, message⟩, rest⟩
  · rfl
  rcases message with _ | _ | tick | attestations
  · exact List.filterMap_cons_none (carriedAttestations_encoded (by decide))
  · rfl
  · simp only [attest]
    split
    · exact .inr (.inl rfl)
    · split
      · exact .inl rfl
      · exact .inr (.inr rfl)
  · rfl

/-- A poll without commands has handled no ticker and replied with no list, or has handled one
    ticker, the last message, and replied with the attestations under its id; else the stream
    has ended. -/
inductive Replies (s : OracleConnection) (polled : Polled) (s' : OracleConnection) : Prop
  | ended (h : polled = .ready none ∨ polled = .panic)
  | none (taken : List Bytes) (hqueue : s.conn.queue = taken ++ s'.conn.queue)
      (hticks : tickersIn taken = []) (hlists : listsIn polled.messages = [])
  | ticker (taken : List Bytes) (msg : Bytes) (tick : SignedTicker)
      (hcommands : s.commands.queue = [])
      (hqueue : s.conn.queue = (taken ++ [msg]) ++ s'.conn.queue)
      (hticks : tickersIn taken = []) (hcarried : carried msg = some tick)
      (hreply : polled = .ready (some
        (OracleProtoMessage.attestations (s'.attestationsOf tick.id)).encoded))

theorem listsIn_pollLocal {s : OracleConnection} (h : s.commands.queue = []) :
    listsIn ((pollLocal s).1.elim [] Polled.messages) = [] := by
  rw [(pollLocal_of_nil h).1]
  rcases s.signedTicks.queue with _ | ⟨_ | tick, ticks⟩
  · rfl
  · rfl
  · exact List.filterMap_cons_none (carriedAttestations_encoded (by exact nofun))

theorem pollLoop_replies {s : OracleConnection} (hcommands : s.commands.queue = []) :
    s.Replies (pollLoop recoverAddressFromMsg s.conn.queue s).1
      (pollLoop recoverAddressFromMsg s.conn.queue s).2 := by
  have hlocal (t : OracleConnection) (hnil : t.commands.queue = []) :
      (pollLocal t).2.commands.queue = [] := by
    obtain ⟨-, _, _, hqueue, -, heq⟩ := pollLocal_of_nil hnil
    rw [heq]
    exact hqueue
  refine pollLoop_rule
    (P := fun messages t => t.commands.queue = [] ∧ t.conn.queue = messages ∧
      ∃ taken, s.conn.queue = taken ++ messages ∧ tickersIn taken = [])
    (Q := s.Replies) ?_ ?_ ?_ ?_ ?_ ⟨hcommands, rfl, [], rfl, rfl⟩
  · rintro messages t polled ⟨hnil, hqueue, taken, htaken, hticks⟩ hpolled
    have hlists := listsIn_pollLocal hnil
    rw [hpolled] at hlists
    exact .none taken (by rw [conn_pollLocal, hqueue, htaken]) hticks hlists
  · exact fun t _ _ => .ended (.inl rfl)
  · rintro t ⟨-, hqueue, taken, htaken, hticks⟩ -
    exact .none taken (by rw [conn_pollLocal]; dsimp only; rw [hqueue, htaken]) hticks rfl
  · rintro msg messages t ⟨hnil, -, taken, htaken, hticks⟩ - hnone
    refine ⟨by rw [commands_receive]; exact hlocal t hnil, by rw [conn_receive]; rfl,
      taken ++ [msg], by rw [htaken, List.append_assoc]; rfl, ?_⟩
    have hreceive :=
      receive_replies recoverAddressFromMsg msg ((pollLocal t).2.withMessages messages)
    rcases hcarried : carried msg with _ | tick <;> simp only [hcarried, hnone] at hreceive
    · rw [tickersIn_append, hticks]
      exact List.filterMap_cons_none hcarried
    · simp at hreceive
  · rintro msg messages t polled ⟨-, -, taken, htaken, hticks⟩ - hpolled
    have hqueue : s.conn.queue = (taken ++ [msg]) ++
        (receive recoverAddressFromMsg msg ((pollLocal t).2.withMessages messages)).2.conn.queue := by
      rw [conn_receive, htaken, List.append_assoc]
      rfl
    have hreceive :=
      receive_replies recoverAddressFromMsg msg ((pollLocal t).2.withMessages messages)
    rcases hcarried : carried msg with _ | tick <;> simp only [hcarried, hpolled] at hreceive
    · refine .none _ hqueue ?_ hreceive
      rw [tickersIn_append, hticks]
      exact List.filterMap_cons_none hcarried
    · rcases hreceive with hended | hpanic | hreply
      · exact .ended (.inl (Option.some.inj hended))
      · exact .ended (.inr (Option.some.inj hpanic))
      · exact .ticker taken msg tick hcommands hqueue hticks hcarried (Option.some.inj hreply)

theorem pollNext_replies {s : OracleConnection} (hping : ∀ ping ∈ s.initialPing, ping = .ping)
    (h : s.nextCommand = none) :
    s.Replies (s.pollNext recoverAddressFromMsg).1 (s.pollNext recoverAddressFromMsg).2 := by
  rw [pollNext]
  rcases hinitial : s.initialPing with _ | ping
  · exact pollLoop_replies (nextCommand_eq_none hinitial h)
  · obtain rfl := hping ping hinitial
    exact .none [] rfl rfl (List.filterMap_cons_none (carriedAttestations_encoded (by decide)))

end OracleConnection

namespace End

variable {peer : List (B256 → List Address)} {e e' : End}

/-! ## What a poll does with what is owed -/

variable (recoverAddressFromMsg) in
theorem handled_poll (h : e.Consistent peer) :
    e.session.connection.conn.queue =
      e.session.connection.handled (e.poll recoverAddressFromMsg).session.connection ++
        (e.poll recoverAddressFromMsg).session.connection.conn.queue :=
  (OracleConnection.pollNext_polls recoverAddressFromMsg h.ping).queue

variable (recoverAddressFromMsg) in
/-- What a poll handles was the first of what was in the queue. -/
theorem queued_poll (h : e.Consistent peer) :
    e.session.connection.conn.queue.zip e.tags = e.handles recoverAddressFromMsg ++
      (e.poll recoverAddressFromMsg).session.connection.conn.queue.zip
        (e.poll recoverAddressFromMsg).tags := by
  have hqueue := handled_poll recoverAddressFromMsg h
  have hdrop := congrArg (List.drop (e.session.connection.handled
    (e.poll recoverAddressFromMsg).session.connection).length) hqueue
  rw [List.drop_left] at hdrop
  rw [← hdrop, handles, End.poll]
  simp only [List.zip_eq_zipWith]
  rw [← List.drop_zipWith]
  exact (List.take_append_drop _ _).symm

variable (recoverAddressFromMsg) in
theorem map_fst_handles (h : e.Consistent peer) :
    (e.handles recoverAddressFromMsg).map Prod.fst =
      e.session.connection.handled (e.poll recoverAddressFromMsg).session.connection := by
  have hqueue := handled_poll recoverAddressFromMsg h
  have htake := congrArg (List.take (e.session.connection.handled
    (e.poll recoverAddressFromMsg).session.connection).length) hqueue
  rw [List.take_left] at htake
  rw [handles, List.map_take, List.map_fst_zip h.queue.length_eq.le]
  exact htake

variable (recoverAddressFromMsg) in
theorem map_fst_lists_handles (h : e.Consistent peer) :
    (taggedLists (e.handles recoverAddressFromMsg)).map Prod.fst = listsIn
      (e.session.connection.handled (e.poll recoverAddressFromMsg).session.connection) := by
  rw [map_fst_taggedLists, map_fst_handles recoverAddressFromMsg h]

theorem lists_poll (h : e.Consistent peer) :
    e.lists = (taggedLists (e.handles recoverAddressFromMsg)).map Prod.snd ++
      (e.poll recoverAddressFromMsg).lists := by
  rw [lists, queued_poll recoverAddressFromMsg h, List.append_assoc, taggedLists_append,
    List.map_append]
  rfl

variable (recoverAddressFromMsg) in
theorem arrives_poll (h : e.Consistent peer) :
    e.arrives = tickersIn (e.session.connection.handled
        (e.poll recoverAddressFromMsg).session.connection) ++
      (e.poll recoverAddressFromMsg).arrives := by
  rw [arrives, handled_poll recoverAddressFromMsg h, tickersIn_append, List.append_assoc]
  rfl

theorem tickMessages_poll (h : e.Consistent peer) :
    tickersIn e.session.connection.tickMessages =
      tickersIn ((e.sends recoverAddressFromMsg).map Prod.fst) ++
        tickersIn (e.poll recoverAddressFromMsg).session.connection.tickMessages := by
  rw [messages_sends]
  exact OracleConnection.tickersIn_pollNext h.ping

theorem sends_of_ready {reply : Bytes}
    (h : (e.session.connection.pollNext recoverAddressFromMsg).1 = .ready (some reply)) :
    e.sends recoverAddressFromMsg = [(reply, e.session.connection.repliedId
      (e.poll recoverAddressFromMsg).session.connection)] := by
  rw [sends]
  rcases hpoll : e.session.connection.pollNext recoverAddressFromMsg with ⟨polled, connection⟩
  rw [hpoll] at h
  obtain rfl : polled = _ := h
  simp only [End.poll, Session.act, Session.poll, hpoll]

theorem taggedLists_attestations {l : List Address} (hlt : l.length * 20 < 2 ^ 63)
    (tag : Option B256) :
    taggedLists [((OracleProtoMessage.attestations l).encoded, tag)] = [(l, tag)] := by
  have hdecode := OracleProtoMessage.decodes_attestations hlt []
  rw [List.append_nil] at hdecode
  have hcarried : carriedAttestations (OracleProtoMessage.attestations l).encoded = some l := by
    rw [carriedAttestations, hdecode]
    rfl
  simp [taggedLists, hcarried]

/-- A poll that takes a command handles no message, and sends a list for its id. -/
structure TakesCommand (e e' : End) (handles sends : List TaggedMessage) (id : B256) : Prop where
  waits : e'.waits = some id
  answers : e'.session.connection.answers = e.session.connection.answers
  handles : handles = []
  sends : (taggedLists sends).map Prod.snd = [some id]

theorem takesCommand (h : e.Consistent peer) (hfits : (e.poll recoverAddressFromMsg).Fits)
    {id : B256} (htakes : e.takes = some id) :
    TakesCommand e (e.poll recoverAddressFromMsg) (e.handles recoverAddressFromMsg)
      (e.sends recoverAddressFromMsg) id := by
  obtain ⟨⟨id, sender⟩, hnext, rfl⟩ := Option.map_eq_some_iff.1 htakes
  have hpoll := OracleConnection.pollNext_command recoverAddressFromMsg hnext
  have hconnection : (e.poll recoverAddressFromMsg).session.connection = _ := congrArg Prod.snd hpoll
  have hlength := hfits.length_attestationsOf id
  rw [hconnection] at hlength
  refine ⟨?_, by rw [hconnection], ?_, ?_⟩
  · have hended : (e.poll recoverAddressFromMsg).session.ended = false := by
      simp [End.poll, Session.act, Session.poll, hpoll]
    have hissued := h.commands id sender (OracleConnection.mem_of_nextCommand hnext)
    exact mem_waits.2 ⟨hended, sender, by rw [hconnection], hissued⟩
  · have hhandled : e.session.connection.handled
        (e.poll recoverAddressFromMsg).session.connection = [] :=
      OracleConnection.handled_eq (by rw [hconnection]; rfl)
    have hfst := map_fst_handles recoverAddressFromMsg h
    rw [hhandled] at hfst
    exact List.map_eq_nil_iff.1 hfst
  · obtain ⟨rest, hqueue⟩ := List.head?_eq_some_iff.1 (OracleConnection.head?_of_nextCommand hnext)
    rw [sends_of_ready (congrArg Prod.fst hpoll), OracleConnection.repliedId, hqueue]
    exact congrArg (List.map Prod.snd) (taggedLists_attestations hlength (some id))

/-- A poll that takes no command sends lists for the tickers it handles, unless the stream
    ends. -/
theorem lists_sends (h : e.Consistent peer) (hfits : (e.poll recoverAddressFromMsg).Fits)
    (htakes : e.takes = none) :
    (taggedLists (e.sends recoverAddressFromMsg)).map Prod.snd =
        replies (tickersIn (e.session.connection.handled
          (e.poll recoverAddressFromMsg).session.connection)) ∨
      e.sends recoverAddressFromMsg = [] ∧ (e.poll recoverAddressFromMsg).session.ended = true := by
  have hnext : e.session.connection.nextCommand = none := Option.map_eq_none_iff.1 htakes
  rcases OracleConnection.pollNext_replies h.ping hnext with
    hended | ⟨taken, hqueue, hticks, hlists⟩ |
      ⟨taken, msg, tick, hcommands, hqueue, hticks, hcarried, hreply⟩
  · refine .inr ⟨?_, decide_eq_true hended⟩
    have hmessages := messages_sends recoverAddressFromMsg e
    rcases hended with hended | hended <;> rw [hended] at hmessages <;>
      exact List.map_eq_nil_iff.1 hmessages
  · left
    have hhandled : e.session.connection.handled
        (e.poll recoverAddressFromMsg).session.connection = taken :=
      OracleConnection.handled_eq hqueue
    have hnil : taggedLists (e.sends recoverAddressFromMsg) = [] := by
      rw [← List.map_eq_nil_iff (f := Prod.fst), map_fst_taggedLists, messages_sends]
      exact hlists
    rw [hhandled, hnil, hticks]
    rfl
  · left
    have hhandled : e.session.connection.handled
        (e.poll recoverAddressFromMsg).session.connection = taken ++ [msg] :=
      OracleConnection.handled_eq hqueue
    have htick : tickersIn (taken ++ [msg]) = [tick] := by
      rw [tickersIn_append, hticks]
      exact List.filterMap_cons_some hcarried
    have hlength := hfits.length_attestationsOf tick.id
    rw [sends_of_ready hreply, OracleConnection.repliedId, hcommands]
    simp only [hhandled, List.getLast?_concat, Option.bind_some, hcarried, Option.map_some, htick]
    exact congrArg (List.map Prod.snd) (taggedLists_attestations hlength (some tick.id))

variable (recoverAddressFromMsg) in
/-- A poll that takes no command answers with the first of the lists it handles, if it handles one
    and a command waits. -/
theorem answers_poll (h : e.Consistent peer) (htakes : e.takes = none) :
    (e.poll recoverAddressFromMsg).session.connection.answers = e.session.connection.answers ∧
        e.answersFor recoverAddressFromMsg = [] ∨
      ∃ sender l tag rest, e.session.connection.pendingAtt = some sender ∧
        taggedLists (e.handles recoverAddressFromMsg) = (l, tag) :: rest ∧
        (e.poll recoverAddressFromMsg).session.connection.answers =
          e.session.connection.answers ++ [(sender, l)] ∧
        e.answersFor recoverAddressFromMsg = [tag] := by
  have hanswers : (e.poll recoverAddressFromMsg).session.connection.answers = _ :=
    (OracleConnection.pollNext_answers (Option.map_eq_none_iff.1 htakes)).answers
  have hlists := map_fst_lists_handles recoverAddressFromMsg h
  have hsame (hnil : (e.poll recoverAddressFromMsg).session.connection.answers =
      e.session.connection.answers) : e.answersFor recoverAddressFromMsg = [] := if_pos hnil
  change _ = _ ++ e.session.connection.answersWith (listsIn (e.session.connection.handled
    (e.poll recoverAddressFromMsg).session.connection)) at hanswers
  rw [← hlists, OracleConnection.answersWith] at hanswers
  rcases hpending : e.session.connection.pendingAtt with _ | sender <;>
    rcases htagged : taggedLists (e.handles recoverAddressFromMsg) with _ | ⟨⟨l, tag⟩, rest⟩ <;>
    rw [hpending, htagged] at hanswers
  · exact .inl ⟨by simpa using hanswers, hsame (by simpa using hanswers)⟩
  · exact .inl ⟨by simpa using hanswers, hsame (by simpa using hanswers)⟩
  · exact .inl ⟨by simpa using hanswers, hsame (by simpa using hanswers)⟩
  · have hone : (e.poll recoverAddressFromMsg).session.connection.answers =
        e.session.connection.answers ++ [(sender, l)] := by simpa using hanswers
    refine .inr ⟨sender, l, tag, rest, rfl, rfl, hone, ?_⟩
    have hne : (e.poll recoverAddressFromMsg).session.connection.answers ≠
        e.session.connection.answers := by
      rw [hone]
      simp
    refine (if_neg hne).trans ?_
    rw [htagged]
    rfl

/-- A command waits after a poll that takes none if it did before, and no list has come. -/
theorem waits_poll (h : e.Consistent peer) (htakes : e.takes = none)
    (hopen : e.session.ended = false) {id : B256} (hid : id ∈ (e.poll recoverAddressFromMsg).waits) :
    id ∈ e.waits ∧ taggedLists (e.handles recoverAddressFromMsg) = [] := by
  have hpending : (e.poll recoverAddressFromMsg).session.connection.pendingAtt = _ :=
    (OracleConnection.pollNext_answers (Option.map_eq_none_iff.1 htakes)).pending
  have hlists := map_fst_lists_handles recoverAddressFromMsg h
  change _ = if listsIn (e.session.connection.handled
    (e.poll recoverAddressFromMsg).session.connection) = [] then _ else _ at hpending
  simp only [← hlists, List.map_eq_nil_iff] at hpending
  obtain ⟨-, sender, hsender, hissued⟩ := mem_waits.1 hid
  rw [hpending] at hsender
  split_ifs at hsender with hnil
  exact ⟨mem_waits.2 ⟨hopen, sender, hsender, hissued⟩, hnil⟩

/-! ## What stays as it is -/

/-- What a side was answered is as before. -/
structure SameAnswers (e e' : End) : Prop where
  answers : e'.session.connection.answers = e.session.connection.answers
  sentFor : e'.sentFor = e.sentFor
  held : e'.held = e.held
  issued : e.issued <+: e'.issued

/-- What a side is owed, and owes, is as before too, and no other command waits. -/
structure SameOwed (e e' : End) : Prop extends SameAnswers e e' where
  lists : e'.lists = e.lists
  arrives : e'.arrives = e.arrives
  ended : e'.session.ended = e.session.ended
  ticks : tickersIn e'.session.connection.tickMessages =
    tickersIn e.session.connection.tickMessages
  waits : ∀ id ∈ e'.waits, id ∈ e.waits

theorem SameAnswers.refl (e : End) : SameAnswers e e := ⟨rfl, rfl, rfl, List.prefix_rfl⟩

theorem SameOwed.refl (e : End) : SameOwed e e :=
  ⟨.refl e, rfl, rfl, rfl, rfl, fun _ h => h⟩

/-- Inputs are no answers. -/
theorem SameAnswers.input (e : End) (event : Event) (hevent : event ≠ .poll) :
    SameAnswers e (e.input recoverAddressFromMsg event) := by
  cases event with
  | poll => exact absurd rfl hevent
  | _ => exact ⟨rfl, rfl, rfl, List.prefix_rfl⟩

theorem SameOwed.command (h : e.Consistent peer) (id : B256) :
    SameOwed e (e.command recoverAddressFromMsg id) := by
  refine ⟨⟨rfl, rfl, rfl, List.prefix_append _ _⟩, rfl, rfl, rfl, rfl, fun id' hid => ?_⟩
  obtain ⟨hopen, sender, hsender, hissued⟩ := mem_waits.1 hid
  obtain ⟨id'', hid''⟩ := h.pending sender hsender
  have hsame : (e.issued ++ [id])[sender]? = some id'' := getElem?_append_of_eq_some hid''
  obtain rfl := Option.some.inj (hsame.symm.trans hissued)
  exact mem_waits.2 ⟨hopen, sender, hsender, hid''⟩

theorem SameOwed.close {event : Event}
    (hevent : event = .dropCommands ∨ event = .dropTicks ∨ event = .disconnect) :
    SameOwed e (e.input recoverAddressFromMsg event) := by
  rcases hevent with rfl | rfl | rfl <;>
    exact ⟨.input e _ (by exact nofun), rfl, rfl, rfl, rfl, fun _ h => h⟩

theorem tickMessages_lag (lag : UInt64) :
    (e.input recoverAddressFromMsg (.tick (.error lag))).session.connection.tickMessages =
      e.session.connection.tickMessages := by
  simp only [OracleConnection.tickMessages, input, Session.act, Channel.send]
  split_ifs
  · rfl
  · simp [ticksIn, Except.toOption]

variable (recoverAddressFromMsg) in
theorem tickMessages_tick (e : End) (tick : SignedTicker) :
    (e.input recoverAddressFromMsg (.tick (.ok tick))).session.connection.tickMessages =
        e.session.connection.tickMessages ∨
      (e.input recoverAddressFromMsg (.tick (.ok tick))).session.connection.tickMessages =
        e.session.connection.tickMessages ++ [(OracleProtoMessage.signedTicker tick).encoded] := by
  simp only [OracleConnection.tickMessages, input, Session.act, Channel.send]
  split_ifs
  · exact .inl rfl
  · exact .inr (by simp [ticksIn, Except.toOption])

theorem SameOwed.lag (lag : UInt64) :
    SameOwed e (e.input recoverAddressFromMsg (.tick (.error lag))) :=
  ⟨.input e _ (by exact nofun), rfl, rfl, rfl, congrArg tickersIn (tickMessages_lag lag),
    fun _ h => h⟩

theorem SameOwed.deliver (h : e.Consistent peer)
    (hopen : e.session.connection.conn.closed = false) :
    SameOwed e (e.deliver recoverAddressFromMsg) := by
  have hsame : Same e (e.deliver recoverAddressFromMsg) := .deliver hopen
  have harrives := hsame.arrives
  rw [End.deliver] at harrives ⊢
  rcases hflight : e.inFlight with _ | ⟨⟨msg, tag⟩, inFlight⟩ <;> rw [hflight] at harrives
  · exact .refl e
  · refine ⟨⟨rfl, rfl, rfl, List.prefix_rfl⟩, ?_, harrives, rfl, rfl, fun _ h => h⟩
    simp only [End.lists, input, Session.act, Channel.send, hopen, Bool.false_eq_true, if_false,
      hflight]
    rw [List.zip_append h.queue.length_eq, List.append_assoc]
    rfl

end End

/-! ## Runs -/

namespace Joined

variable {s : Joined}

/-- A command that waits has not come to wait for the list of another id. -/
def InTurn (s : Joined) : Prop := ∀ side, ∀ id ∈ (s side).waits, s.OwedFirst side id

/-- What is owed still begins as it did. -/
theorem OwedFirst.anti {s' : Joined} {side : Side} {id : B256} (h : s.OwedFirst side id)
    (howed : s'.owed side <+: s.owed side) : s'.OwedFirst side id := by
  obtain ⟨rest, hrest⟩ := howed
  intro tag htag
  refine h tag ?_
  obtain ⟨tail, htail⟩ := List.head?_eq_some_iff.1 htag
  rw [← hrest, htail]
  rfl

theorem owed_of_same {s' : Joined} (h : ∀ side, End.SameOwed (s side) (s' side)) (side : Side) :
    s'.owed side = s.owed side := by
  rw [owed, owed, (h side).lists, (h side).ticks, (h side.other).ended, (h side.other).arrives]

theorem InTurn.same {s' : Joined} (h : s.InTurn) (hsame : ∀ side, End.SameOwed (s side) (s' side)) :
    s'.InTurn := fun side id hid =>
  (h side id ((hsame side).waits id hid)).anti (owed_of_same hsame side ▸ List.prefix_rfl)

theorem act_poll_self (s : Joined) (side : Side) : s.act recoverAddressFromMsg (.poll side) side =
    (s side).poll recoverAddressFromMsg := if_pos rfl

theorem act_poll_other (s : Joined) (side : Side) :
    s.act recoverAddressFromMsg (.poll side) side.other =
      { s side.other with
        inFlight := (s side.other).inFlight ++ (s side).sends recoverAddressFromMsg } :=
  if_neg side.other_ne

theorem act_tick_self (s : Joined) (side : Side) (tick : SignedTicker) :
    s.act recoverAddressFromMsg (.tick side (.ok tick)) side =
      (s side).input recoverAddressFromMsg (.tick (.ok tick)) := Function.update_self ..

theorem act_tick_other (s : Joined) (side : Side) (tick : SignedTicker) :
    s.act recoverAddressFromMsg (.tick side (.ok tick)) side.other = s side.other :=
  Function.update_of_ne side.other_ne ..

/-- What is sent to a side is on the way to it. -/
theorem lists_append (e : End) (l : List TaggedMessage) :
    ({ e with inFlight := e.inFlight ++ l } : End).lists =
      e.lists ++ (taggedLists l).map Prod.snd := by
  rw [End.lists, End.lists, ← List.map_append, ← taggedLists_append, List.append_assoc]

theorem arrives_append (e : End) (l : List TaggedMessage) :
    ({ e with inFlight := e.inFlight ++ l } : End).arrives =
      e.arrives ++ tickersIn (l.map Prod.fst) := by
  rw [End.arrives, End.arrives, List.map_append, tickersIn_append, List.append_assoc]

variable (recoverAddressFromMsg) in
/-- A poll of a side handles some of the lists it is owed, and takes none of the others away. -/
theorem owed_poll_self {peer : List (B256 → List Address)} {side : Side}
    (h : (s side).Consistent peer) :
    s.owed side = (taggedLists ((s side).handles recoverAddressFromMsg)).map Prod.snd ++
      (s.act recoverAddressFromMsg (.poll side)).owed side := by
  rw [owed, owed, act_poll_self, act_poll_other, arrives_append, End.lists_poll h,
    End.tickMessages_poll h, List.append_assoc, List.append_assoc]

variable (recoverAddressFromMsg) in
theorem owed_poll_other {side : Side} (hopen : (s side).session.ended = false)
    {peer : List (B256 → List Address)} (h : (s side).Consistent peer) :
    s.owed side.other = (s side.other).lists ++
        (End.replies (tickersIn ((s side).session.connection.handled
            ((s side).poll recoverAddressFromMsg).session.connection)) ++
          End.replies (((s side).poll recoverAddressFromMsg).arrives ++
            tickersIn (s side.other).session.connection.tickMessages)) ∧
      (s.act recoverAddressFromMsg (.poll side)).owed side.other = (s side.other).lists ++
        ((taggedLists ((s side).sends recoverAddressFromMsg)).map Prod.snd ++
          if ((s side).poll recoverAddressFromMsg).session.ended then [] else
            End.replies (((s side).poll recoverAddressFromMsg).arrives ++
              tickersIn (s side.other).session.connection.tickMessages)) := by
  have hother : side.other.other = side := Side.other_of_ne side.other_ne
  constructor
  · rw [owed, hother, hopen, End.arrives_poll recoverAddressFromMsg h,
      End.replies, End.replies, End.replies, ← List.map_append, List.append_assoc]
    rfl
  · rw [owed, act_poll_other, lists_append, hother, act_poll_self, List.append_assoc]

variable (recoverAddressFromMsg) in
/-- A ticker adds its reply to what is owed, behind the rest. -/
theorem owed_tick (s : Joined) (side : Side) (tick : SignedTicker) :
    (s.act recoverAddressFromMsg (.tick side (.ok tick))).owed side <+:
      s.owed side ++ if (s side.other).session.ended then [] else
        End.replies (tickersIn [(OracleProtoMessage.signedTicker tick).encoded]) := by
  rw [owed, owed, act_tick_self, act_tick_other]
  change (s side).lists ++ _ <+: _
  rw [List.append_assoc, List.prefix_append_right_inj]
  split_ifs
  · exact List.prefix_rfl
  · rw [End.replies, End.replies, End.replies, ← List.map_append, List.append_assoc]
    refine List.IsPrefix.map _ ?_
    rw [List.prefix_append_right_inj]
    rcases (s side).tickMessages_tick recoverAddressFromMsg tick with hsame | hmore
    · exact hsame ▸ List.prefix_append _ _
    · exact (congrArg tickersIn hmore).trans (tickersIn_append ..) ▸ List.prefix_rfl

theorem owed_tick_other (s : Joined) (side : Side) (tick : SignedTicker) :
    (s.act recoverAddressFromMsg (.tick side (.ok tick))).owed side.other = s.owed side.other := by
  rw [owed, owed, Side.other_of_ne side.other_ne, act_tick_self, act_tick_other]
  rfl

theorem side_cases {P : Side → Prop} (side : Side) (hself : P side) (hother : P side.other)
    (i : Side) : P i := by
  cases side <;> cases i <;> assumption

theorem InTurn.tick (h : s.InTurn) {side : Side} {tick : SignedTicker}
    (hturn : AsksInTurn s (.tick side (.ok tick))) :
    (s.act recoverAddressFromMsg (.tick side (.ok tick))).InTurn := by
  refine side_cases side (fun id hid => ?_) fun id hid => ?_
  · rw [act_tick_self] at hid
    have hwaits : id ∈ (s side).waits := hid
    intro tag htag
    obtain ⟨rest, hrest⟩ := owed_tick recoverAddressFromMsg s side tick
    obtain ⟨tail, htail⟩ := List.head?_eq_some_iff.1 htag
    rw [htail, List.cons_append] at hrest
    rcases howed : s.owed side with _ | ⟨first, others⟩ <;> rw [howed] at hrest
    · -- The reply to the ticker is the next list.
      rcases hended : (s side.other).session.ended <;> rw [hended] at hrest
      · rcases hcarried : carried (OracleProtoMessage.signedTicker tick).encoded with
            _ | signedData <;>
          simp [End.replies, tickersIn, hcarried] at hrest
        obtain rfl := hturn hended howed id hwaits signedData hcarried
        exact hrest.1
      · cases hrest
    · obtain ⟨rfl, -⟩ := List.cons.inj hrest
      exact h side id hwaits tag (by rw [howed]; rfl)
  · rw [act_tick_other] at hid
    exact (h side.other id hid).anti (owed_tick_other s side tick ▸ List.prefix_rfl)

/-- A poll leaves every command waiting for its own list. -/
theorem InTurn.poll (h : s.InTurn) (hs : s.Consistent) {side : Side}
    (hopen : (s side).session.ended = false)
    (hfits : ((s side).poll recoverAddressFromMsg).Fits) (hturn : AsksInTurn s (.poll side)) :
    (s.act recoverAddressFromMsg (.poll side)).InTurn := by
  have howed := owed_poll_self recoverAddressFromMsg (hs side)
  obtain ⟨hbefore, hafter⟩ := owed_poll_other recoverAddressFromMsg hopen (hs side)
  rcases htakes : (s side).takes with _ | id
  · refine side_cases side (fun id hid => ?_) fun id hid => ?_
    · -- If the command still waits, no list has come.
      rw [act_poll_self] at hid
      obtain ⟨hwaits, hnil⟩ := End.waits_poll (hs side) htakes hopen hid
      rw [hnil] at howed
      exact (h side id hwaits).anti (howed ▸ List.prefix_rfl)
    · rw [act_poll_other] at hid
      refine (h side.other id hid).anti ?_
      rw [hbefore, hafter, List.prefix_append_right_inj]
      rcases End.lists_sends (hs side) hfits htakes with hsends | ⟨hsends, hended⟩
      · rw [hsends, List.prefix_append_right_inj]
        split_ifs
        · exact List.nil_prefix
        · exact List.prefix_rfl
      · rw [hsends, hended]
        exact List.nil_prefix
  · obtain ⟨hfirst, hpeer⟩ := hturn id htakes
    have htaken := End.takesCommand (hs side) hfits htakes
    refine side_cases side (fun id' hid => ?_) fun id' hid => ?_
    · rw [act_poll_self, htaken.waits] at hid
      obtain rfl := Option.some.inj hid
      rw [htaken.handles] at howed
      exact hfirst.anti (howed ▸ List.prefix_rfl)
    · rw [act_poll_other] at hid
      rcases hlists : (s side.other).lists with _ | ⟨first, others⟩
      · -- The list that was sent is the next.
        obtain rfl := hpeer hlists id' hid
        intro tag htag
        rw [hafter, hlists, htaken.sends] at htag
        exact (Option.some.inj htag).symm
      · refine fun tag htag => h side.other id' hid tag ?_
        rw [hafter, hlists] at htag
        rw [hbefore, hlists]
        exact htag

end Joined

/-! ## Answers -/

theorem OwnAnswer.mono {issued issued' : List B256} {peer peer' : List (B256 → List Address)}
    {answer : Sender × List Address} {tag : Option B256} (h : OwnAnswer issued peer answer tag)
    (hissued : issued <+: issued') (hpeer : peer ⊆ peer') : OwnAnswer issued' peer' answer tag := by
  obtain ⟨id, hid, htag, attestations, hmem, heq⟩ := h
  obtain ⟨rest, rfl⟩ := hissued
  exact ⟨id, getElem?_append_of_eq_some hid, htag, attestations, hpeer hmem, heq⟩

theorem AnswersOwn.same {s s' : Joined} (h : AnswersOwn s)
    (hsame : ∀ side, End.SameAnswers (s side) (s' side)) : AnswersOwn s' := by
  intro side
  rw [(hsame side).answers, (hsame side).sentFor]
  exact (h side).imp fun _ _ hown =>
    hown.mono (hsame side).issued ((hsame side.other).held ▸ List.Subset.refl _)

/-- What a poll answers with was owed first. -/
theorem AnswersOwn.poll {s : Joined} (h : AnswersOwn s) (hs : s.Consistent) (hturn : s.InTurn)
    {side : Side} (hopen : (s side).session.ended = false)
    (hfits : ((s side).poll recoverAddressFromMsg).Fits) :
    AnswersOwn (s.act recoverAddressFromMsg (.poll side)) := by
  refine Joined.side_cases side ?_ ?_
  · rw [Joined.act_poll_self, Joined.act_poll_other]
    change List.Forall₂ (OwnAnswer (s side).issued (s side.other).held)
      ((s side).poll recoverAddressFromMsg).session.connection.answers
      ((s side).sentFor ++ (s side).answersFor recoverAddressFromMsg)
    rcases htakes : (s side).takes with _ | id
    · rcases End.answers_poll recoverAddressFromMsg (hs side) htakes with
        ⟨hanswers, hnone⟩ | ⟨sender, l, tag, rest, hsender, htagged, hanswers, hone⟩
      · rw [hanswers, hnone, List.append_nil]
        exact h side
      · rw [hanswers, hone]
        refine List.rel_append (h side) (.cons ?_ .nil)
        obtain ⟨id, hid⟩ := (hs side).pending sender hsender
        have hwaits : id ∈ (s side).waits := End.mem_waits.2 ⟨hopen, sender, hsender, hid⟩
        have howed := Joined.owed_poll_self recoverAddressFromMsg (hs side)
        rw [htagged] at howed
        have htag : tag = some id := hturn side id hwaits tag (by rw [howed]; rfl)
        -- The list was held under its tag.
        have hmem : (l, tag) ∈ taggedLists ((s side).handles recoverAddressFromMsg) :=
          htagged ▸ List.mem_cons_self
        obtain ⟨m, hm, hcarried⟩ := List.mem_filterMap.1 hmem
        obtain ⟨l', hl', heq⟩ := Option.map_eq_some_iff.1 hcarried
        obtain ⟨rfl, rfl⟩ := Prod.mk.inj heq
        obtain ⟨id', hid', hpeer⟩ := List.forall₂_zip (hs side).queue (List.mem_of_mem_take hm) l' hl'
        obtain rfl := Option.some.inj (htag.symm.trans hid')
        exact ⟨id, hid, htag, hpeer⟩
    · have hanswers := (End.takesCommand (hs side) hfits htakes).answers
      have hnone : (s side).answersFor recoverAddressFromMsg = [] := if_pos hanswers
      rw [hanswers, hnone, List.append_nil]
      exact h side
  · rw [Joined.act_poll_other, Side.other_of_ne side.other_ne, Joined.act_poll_self]
    have hother := h side.other
    rw [Side.other_of_ne side.other_ne] at hother
    exact hother.imp fun _ _ hown => hown.mono List.prefix_rfl (List.subset_append_left _ _)

/-- In every run in which no command comes to wait for the list of another id, every answer is
    the list for the id of the command, which the peer held under it. -/
theorem answers_own {s : Joined}
    (hs : (joined recoverAddressFromMsg).ReachableBy AsksInTurn s) : AnswersOwn s := by
  suffices h : s.InTurn ∧ AnswersOwn s from h.2
  refine hs.invariant (I := fun s => s.InTurn ∧ AnswersOwn s) ?_ ?_
  · rintro s ⟨opener, rfl⟩
    exact ⟨fun side id hid => (by cases hid), fun side => .nil⟩
  rintro s event s' hr ⟨hturn, hanswers⟩ hasks ⟨henabled, rfl⟩
  have hconsistent := consistent hr.reachable
  have hanswered {i : Side} {e : End} (he : End.SameAnswers (s i) e) :
      AnswersOwn (Function.update s i e) :=
    hanswers.same ((Function.forall_update_iff s _).2 ⟨he, fun side _ => .refl (s side)⟩)
  have hkeeps {i : Side} {e : End} (he : End.SameOwed (s i) e) :
      Joined.InTurn (Function.update s i e) ∧ AnswersOwn (Function.update s i e) :=
    ⟨hturn.same ((Function.forall_update_iff s _).2 ⟨he, fun side _ => .refl (s side)⟩),
      hanswered he.toSameAnswers⟩
  rcases event with ⟨side, id⟩ | side | ⟨side, lag | tick⟩ | side | side | side | side
  · exact hkeeps (.command (hconsistent side) id)
  · exact hkeeps (.close (.inl rfl))
  · exact hkeeps (.lag lag)
  · exact ⟨hturn.tick hasks, hanswered (.input (s side) _ (by exact nofun))⟩
  · exact hkeeps (.close (.inr (.inl rfl)))
  · exact hkeeps (.deliver (hconsistent side) henabled)
  · exact hkeeps (.close (.inr (.inr rfl)))
  · exact ⟨hturn.poll hconsistent henabled.1 henabled.2 hasks,
      hanswers.poll hconsistent hturn henabled.1 henabled.2⟩

/-! ### Commands and a ticker -/

/-- The two ends once the left side was answered. -/
def answered (id : B256) : Joined :=
  (commandAndTick id).foldl (Joined.act tickerRecover) fun side => .start (side = .left)

theorem reachable_answered_zero : (joined tickerRecover).Reachable (answered .zero) := by
  refine reachableBy_start.run (fun s event => decide (Joined.Enabled tickerRecover s event)) ?_
    (by decide +kernel)
  intro s event h
  exact ⟨trivial, of_decide_eq_true h, rfl⟩

/-- The command for an id is answered with the list of the ticker, which the peer has
    never held under it. -/
theorem answers_other : ¬∀ s, (joined tickerRecover).Reachable s → AnswersOwn s := by
  intro h
  have hanswers : (answered .zero .left).session.connection.answers = [(0, [tickerSigner])] := by
    decide +kernel
  have hissued : (answered .zero .left).issued = [.zero] := by decide +kernel
  have hheld : ∀ l ∈ (answered .zero .right).held.map (· .zero), l ≠ [tickerSigner] := by
    decide +kernel
  have hown := h _ reachable_answered_zero .left
  rw [hanswers, hissued] at hown
  generalize (answered .zero .left).sentFor = sentFor at hown
  cases hown with
  | cons hfirst _ =>
    obtain ⟨id, hid, -, attestations, hmem, heq⟩ := hfirst
    obtain rfl := Option.some.inj hid
    exact hheld _ (List.mem_map_of_mem hmem) heq

/-- Then both sides ask for the attestations of the ticker, and each is answered with the list
    that the other has sent for its own command. -/
def askEachOther : List JoinedEvent :=
  commandAndTick tickerHash ++
    [.command .right tickerHash, .poll .right, .command .left tickerHash, .poll .left,
      .deliver .left, .poll .left, .deliver .right, .poll .right]

def askedEachOther : Joined :=
  askEachOther.foldl (Joined.act tickerRecover) fun side => .start (side = .left)

theorem reachableBy_askedEachOther :
    (joined tickerRecover).ReachableBy AsksInTurn askedEachOther := by
  refine reachableBy_start.run
    (fun s event => decide (AsksInTurn s event) && decide (Joined.Enabled tickerRecover s event)) ?_
    (by decide +kernel)
  intro s event h
  obtain ⟨hasks, henabled⟩ := Bool.and_eq_true_iff.1 h
  exact ⟨of_decide_eq_true hasks, of_decide_eq_true henabled, rfl⟩

theorem answers_own_askedEachOther : AnswersOwn askedEachOther ∧
    (askedEachOther .left).session.connection.answers =
      [(0, [tickerSigner]), (1, [tickerSigner])] ∧
    (askedEachOther .right).session.connection.answers = [(0, [])] :=
  ⟨answers_own reachableBy_askedEachOther, by decide +kernel, by decide +kernel⟩

end ExEx.Oracle
