import ExEx.Oracle.Signers

/-!
# Answers to commands

A command makes the connection send its own attestations, and keeps the response
channel. The next attestations that come from the peer are sent on it: a message
of attestations does not say of which ticker they are.

`pollNext_answers` says what a poll that takes no command does with the one who
waits: of the lists in the messages it handles, the first is the answer.
-/

namespace ExEx.Oracle

open Reth (Signature)

/-- The attestations in a message, if it carries some. -/
def carriedAttestations (msg : Bytes) : Option (List Address) :=
  match OracleProtoMessage.decodeMessage msg with
  | some (⟨_, .attestations attestations⟩, _) => some attestations
  | _ => none

/-- The lists of attestations in some messages. -/
def listsIn (messages : List Bytes) : List (List Address) := messages.filterMap carriedAttestations

theorem listsIn_append (messages messages' : List Bytes) :
    listsIn (messages ++ messages') = listsIn messages ++ listsIn messages' :=
  List.filterMap_append

namespace OracleConnection

variable {recoverAddressFromMsg : Signature → Bytes → Option Address}

/-- The command that a poll will take, if it takes one. -/
def nextCommand (s : OracleConnection) : Option OracleCommand :=
  if s.initialPing = none then s.commands.queue.head? else none

/-- What is sent on response channels once messages with these lists are handled. -/
def answersWith (s : OracleConnection) (lists : List (List Address)) :
    List (Sender × List Address) :=
  (s.pendingAtt.bind fun sender => lists.head?.map fun attestations => (sender, attestations)).toList

/-- Messages with these lists were handled: the first list is sent to the one who waits. -/
structure Answers (s s' : OracleConnection) (lists : List (List Address)) : Prop where
  pending : s'.pendingAtt = if lists = [] then s.pendingAtt else none
  answers : s'.answers = s.answers ++ s.answersWith lists

section

variable {s t t' : OracleConnection} {lists lists' : List (List Address)}

theorem Answers.frame (hpending : t.pendingAtt = s.pendingAtt) (hanswers : t.answers = s.answers) :
    s.Answers t [] := by
  refine ⟨hpending, ?_⟩
  rcases hsender : s.pendingAtt <;> simp [answersWith, hanswers, hsender]

theorem Answers.trans (h : s.Answers t lists) (h' : t.Answers t' lists') :
    s.Answers t' (lists ++ lists') := by
  rcases lists with _ | ⟨attestations, lists⟩
  · refine ⟨h'.pending.trans (by rw [h.pending]; rfl), ?_⟩
    rw [h'.answers, h.answers, answersWith, answersWith, answersWith, h.pending]
    rcases hsender : s.pendingAtt <;> simp
  · -- Who waited has the first list, and nobody waits any more.
    have hnone : t.pendingAtt = none := h.pending
    refine ⟨h'.pending.trans (by simp [hnone]), ?_⟩
    rw [h'.answers, h.answers, answersWith, answersWith, answersWith, hnone]
    simp

variable (recoverAddressFromMsg) in
/-- A message answers when it carries attestations. -/
theorem receive_answers (msg : Bytes) (s : OracleConnection) :
    match carriedAttestations msg with
    | some attestations => receive recoverAddressFromMsg msg s = (none, answer attestations s)
    | none => (receive recoverAddressFromMsg msg s).2.pendingAtt = s.pendingAtt ∧
      (receive recoverAddressFromMsg msg s).2.answers = s.answers := by
  rw [receive, carriedAttestations]
  rcases OracleProtoMessage.decodeMessage msg with _ | ⟨⟨messageType, message⟩, rest⟩
  · exact ⟨rfl, rfl⟩
  rcases message with _ | _ | signedData | attestations
  · exact ⟨rfl, rfl⟩
  · exact ⟨rfl, rfl⟩
  · simp only [attest]
    split
    · exact ⟨rfl, rfl⟩
    · split
      · exact ⟨rfl, rfl⟩
      · simp only; split_ifs <;> exact ⟨rfl, rfl⟩
  · rfl

theorem Answers.answer (attestations : List Address) (s : OracleConnection) :
    s.Answers (answer attestations s) [attestations] := by
  rw [OracleConnection.answer]
  rcases hsender : s.pendingAtt with _ | sender
  · exact ⟨hsender, by simp [answersWith, hsender]⟩
  · exact ⟨rfl, by simp [answersWith, hsender]⟩

variable (recoverAddressFromMsg) in
theorem Answers.receive (msg : Bytes) (s : OracleConnection) :
    s.Answers (receive recoverAddressFromMsg msg s).2 (listsIn [msg]) := by
  have hreceive := receive_answers recoverAddressFromMsg msg s
  rcases hcarried : carriedAttestations msg with _ | attestations <;>
    simp only [hcarried] at hreceive
  · rw [listsIn, List.filterMap_cons_none hcarried]
    exact .frame hreceive.1 hreceive.2
  · rw [listsIn, List.filterMap_cons_some hcarried, hreceive]
    exact .answer attestations s

end

theorem pollLoop_of_pollLocal {s s' : OracleConnection} {polled : Polled} {messages : List Bytes}
    (h : pollLocal s = (some polled, s')) :
    pollLoop recoverAddressFromMsg messages s = (polled, s') := by
  rcases messages with _ | ⟨msg, messages⟩ <;> rw [pollLoop, h]

theorem nextCommand_eq_none {s : OracleConnection} (hping : s.initialPing = none)
    (h : s.nextCommand = none) : s.commands.queue = [] := by
  rw [nextCommand, if_pos hping] at h
  exact List.head?_eq_none_iff.1 h

theorem head?_of_nextCommand {s : OracleConnection} {command : OracleCommand}
    (h : s.nextCommand = some command) : s.commands.queue.head? = some command := by
  rw [nextCommand] at h
  split_ifs at h
  exact h

theorem mem_of_nextCommand {s : OracleConnection} {command : OracleCommand}
    (h : s.nextCommand = some command) : command ∈ s.commands.queue :=
  List.mem_of_head? (head?_of_nextCommand h)

variable (recoverAddressFromMsg) in
/-- A poll that takes a command keeps its response channel, and replies to it. -/
theorem pollNext_command {s : OracleConnection} {id : B256} {sender : Sender}
    (h : s.nextCommand = some (.attestation id sender)) :
    s.pollNext recoverAddressFromMsg =
      (.ready (some (OracleProtoMessage.attestations (s.attestationsOf id)).encoded),
        { s with
          commands := ⟨s.commands.queue.tail, s.commands.closed, false⟩
          pendingAtt := some sender }) := by
  rw [nextCommand] at h
  split_ifs at h with hping
  obtain ⟨rest, hqueue⟩ := List.head?_eq_some_iff.1 h
  rw [pollNext, hping]
  dsimp only
  rw [pollLoop_of_pollLocal (pollLocal_command hqueue), hping, hqueue]
  rfl

variable (recoverAddressFromMsg) in
/-- The loop of a poll without commands: the messages it handles. -/
theorem pollLoop_answers {s : OracleConnection} (hcommands : s.commands.queue = []) :
    ∃ taken, s.conn.queue =
        taken ++ (pollLoop recoverAddressFromMsg s.conn.queue s).2.conn.queue ∧
      s.Answers (pollLoop recoverAddressFromMsg s.conn.queue s).2 (listsIn taken) := by
  have hlocal (t : OracleConnection) (hnil : t.commands.queue = []) :
      t.Answers (pollLocal t).2 [] ∧ (pollLocal t).2.commands.queue = [] := by
    obtain ⟨-, _, _, hqueue, -, heq⟩ := pollLocal_of_nil hnil
    rw [heq]
    exact ⟨.frame rfl rfl, hqueue⟩
  have hreceive (t : OracleConnection) (hnil : t.commands.queue = []) (msg : Bytes)
      (messages : List Bytes) : t.Answers (receive recoverAddressFromMsg msg
        ((pollLocal t).2.withMessages messages)).2 (listsIn [msg]) := by
    have hframe : (pollLocal t).2.Answers ((pollLocal t).2.withMessages messages) [] :=
      .frame rfl rfl
    exact ((hlocal t hnil).1.trans hframe).trans (.receive recoverAddressFromMsg msg _)
  refine pollLoop_rule
    (P := fun messages t => t.commands.queue = [] ∧ t.conn.queue = messages ∧
      ∃ taken, s.conn.queue = taken ++ messages ∧ s.Answers t (listsIn taken))
    (Q := fun _ t => ∃ taken, s.conn.queue = taken ++ t.conn.queue ∧ s.Answers t (listsIn taken))
    ?_ ?_ ?_ ?_ ?_ ⟨hcommands, rfl, [], rfl, .frame rfl rfl⟩
  · rintro messages t polled ⟨hnil, hqueue, taken, htaken, h⟩ _
    refine ⟨taken, by rw [conn_pollLocal, hqueue, htaken], ?_⟩
    exact List.append_nil (listsIn taken) ▸ h.trans (hlocal t hnil).1
  · rintro t ⟨hnil, hqueue, taken, htaken, h⟩ _
    refine ⟨taken, by rw [conn_pollLocal, hqueue, htaken], ?_⟩
    exact List.append_nil (listsIn taken) ▸ h.trans (hlocal t hnil).1
  · rintro t ⟨hnil, hqueue, taken, htaken, h⟩ _
    refine ⟨taken, by rw [conn_pollLocal]; dsimp only; rw [hqueue, htaken], ?_⟩
    have hframe : (pollLocal t).2.Answers
        { (pollLocal t).2 with conn := { (pollLocal t).2.conn with waker := true } } [] :=
      .frame rfl rfl
    exact List.append_nil (listsIn taken) ▸ h.trans ((hlocal t hnil).1.trans hframe)
  · rintro msg messages t ⟨hnil, -, taken, htaken, h⟩ _ _
    refine ⟨by rw [commands_receive]; exact (hlocal t hnil).2, by rw [conn_receive]; rfl,
      taken ++ [msg], by rw [htaken, List.append_assoc]; rfl, ?_⟩
    rw [listsIn_append]
    exact h.trans (hreceive t hnil msg messages)
  · rintro msg messages t polled ⟨hnil, -, taken, htaken, h⟩ _ _
    refine ⟨taken ++ [msg], by rw [conn_receive, htaken, List.append_assoc]; rfl, ?_⟩
    rw [listsIn_append]
    exact h.trans (hreceive t hnil msg messages)

/-- Of the lists that a poll handles, when it takes no command, the first is the answer. -/
theorem pollNext_answers {s : OracleConnection} (h : s.nextCommand = none) :
    s.Answers (s.pollNext recoverAddressFromMsg).2
      (listsIn (s.handled (s.pollNext recoverAddressFromMsg).2)) := by
  rw [pollNext]
  rcases hping : s.initialPing with _ | ping
  · obtain ⟨taken, htaken, hanswers⟩ :=
      pollLoop_answers recoverAddressFromMsg (nextCommand_eq_none hping h)
    dsimp only
    rw [handled_eq htaken]
    exact hanswers
  · have hnil : s.handled { s with initialPing := none } = [] := handled_eq rfl
    dsimp only
    rw [hnil]
    exact .frame rfl rfl

end OracleConnection

end ExEx.Oracle
