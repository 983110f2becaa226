import ExEx.OpBridge

/-!
# What a failed notification leaves

Processing a notification runs a `DELETE` or an `INSERT` for each event, and at the
end announces the new height (`statements`). Each of these acts on its own. An
`INSERT` can be refused by a constraint, and each of them can fail for a reason that
is not in the extension (a locked file, a node that shuts down). What ran before
stays.

So the tables are as before exactly when what ran before the failure changes nothing
when taken together (`restored_iff`): at each hash, the last of it deletes a row that
was not there, or inserts the row that was.
-/

namespace ExEx.OpBridge

open Reth (Log Chain ExExNotification)

/-- The two tables. -/
inductive Side
  | deposits
  | withdrawals
  deriving DecidableEq

/-- What processing does, one after the other. -/
inductive Statement
  | delete (key : Side × B256)
  | insert (key : Side × B256) (row : Row)
  | announce (tip : Option (UInt64 × B256))

/-- One of the tables. -/
def BridgeState.table (s : BridgeState) : Side → Table
  | .deposits => s.deposits
  | .withdrawals => s.withdrawals

/-- Replaces one of the tables. -/
def BridgeState.setTable (s : BridgeState) (table : Table) : Side → BridgeState
  | .deposits => { s with deposits := table }
  | .withdrawals => { s with withdrawals := table }

/-- The row of a hash in a table. -/
def BridgeState.lookup (s : BridgeState) (key : Side × B256) : Option Row :=
  (s.table key.1).lookup key.2

/-- Runs a statement. -/
def execute : Statement → BridgeState → Except Error Unit × BridgeState
  | .delete (side, txHash), s => (.ok (), s.setTable (delete (s.table side) txHash) side)
  | .insert (side, txHash) row, s =>
    match insert (s.table side) txHash row with
    | .ok table => (.ok (), s.setTable table side)
    | .error err => (.error err, s)
  | .announce none, s => (.error .emptyChain, s)
  | .announce (some tip), s => (.ok (), { s with finishedHeights := s.finishedHeights ++ [tip] })

/-- Writing to a table is seen under its keys and no others. -/
theorem BridgeState.lookup_setTable (s : BridgeState) (table : Table) (side : Side)
    (key : Side × B256) :
    (s.setTable table side).lookup key = if key.1 = side then table.lookup key.2 else s.lookup key := by
  obtain ⟨side', txHash⟩ := key
  cases side <;> cases side' <;> rfl

/-- The statement for an event of a reverted chain. -/
def deletion (e : Emitted × L1StandardBridgeEvents) : Option Statement :=
  match e.2 with
  | .ethBridgeInitiated .. => some (.delete (.deposits, e.1.tx.hash))
  | .ethBridgeFinalized .. => some (.delete (.withdrawals, e.1.tx.hash))
  | .other => none

/-- The statement for an event of a committed chain. -/
def insertion (e : Emitted × L1StandardBridgeEvents) : Option Statement :=
  match e.2 with
  | .ethBridgeInitiated «from» «to» amount =>
    some (.insert (.deposits, e.1.tx.hash) (row e.1 «from» «to» amount))
  | .ethBridgeFinalized «from» «to» amount =>
    some (.insert (.withdrawals, e.1.tx.hash) (row e.1 «from» «to» amount))
  | .other => none

/-- Why processing stops. -/
inductive Failure
  | refused (err : Error)
  /-- For a reason that is not in the extension. -/
  | interrupted

/-- Runs statements, of which `done` ran before, up to the first that fails. -/
def run (interrupted : ℕ → Bool) (done : ℕ) :
    List Statement → BridgeState → Except Failure Unit × BridgeState
  | [], s => (.ok (), s)
  | st :: l, s =>
    if interrupted done then (.error .interrupted, s)
    else
      match execute st s with
      | (.ok (), s) => run interrupted (done + 1) l s
      | (.error err, s) => (.error (.refused err), s)

section

variable (decodeRawLog : List B256 → Bytes → Option L1StandardBridgeEvents)

/-- What processing a notification runs. -/
def statements (notification : ExExNotification) : List Statement :=
  (match notification.revertedChain with
    | none => []
    | some chain => (decodeChainIntoEvents decodeRawLog chain).filterMap deletion) ++
  match notification.committedChain with
  | none => []
  | some chain =>
    (decodeChainIntoEvents decodeRawLog chain).filterMap insertion ++
      [.announce (chain.tip.map fun tip => (tip.number, tip.hash))]

/-- Processes a notification, where statements can also fail for a reason that is
    not in the extension. -/
def attempt (interrupted : ℕ → Bool) (notification : ExExNotification) (s : BridgeState) :
    Except Failure Unit × BridgeState :=
  run interrupted 0 (statements decodeRawLog notification) s

/-! ## The statements are what is processed -/

variable {decodeRawLog}

theorem forEach_deletion (l : List (Emitted × L1StandardBridgeEvents)) (s : BridgeState) :
    forEach execute (l.filterMap deletion) s = (.ok (), l.foldl revertEvent s) := by
  induction l generalizing s with
  | nil => rfl
  | cons e l ih =>
    obtain ⟨e, event⟩ := e
    rw [List.foldl_cons, ← ih]
    rcases event with ⟨f, t, amount⟩ | ⟨f, t, amount⟩ | _ <;> rfl

/-- An event of a committed chain runs its statement, if it has one. -/
theorem commitEvent_eq (e : Emitted × L1StandardBridgeEvents) (s : BridgeState) :
    commitEvent e s =
      match insertion e with
      | none => (.ok (), s)
      | some st => execute st s := by
  obtain ⟨e, event⟩ := e
  rcases event with ⟨f, t, amount⟩ | ⟨f, t, amount⟩ | _ <;> rfl

theorem forEach_insertion (l : List (Emitted × L1StandardBridgeEvents)) (s : BridgeState) :
    forEach execute (l.filterMap insertion) s = forEach commitEvent l s := by
  induction l generalizing s with
  | nil => rfl
  | cons e l ih =>
    rw [forEach, commitEvent_eq]
    rcases h : insertion e with _ | st
    · rw [List.filterMap_cons_none h]
      exact ih s
    · rw [List.filterMap_cons_some h, forEach]
      dsimp only
      rcases execute st s with ⟨_ | ⟨⟨⟩⟩, s₁⟩
      · rfl
      · exact ih s₁

theorem run_never (done : ℕ) (l : List Statement) (s : BridgeState) :
    run (fun _ => false) done l s =
      ((forEach execute l s).1.mapError .refused, (forEach execute l s).2) := by
  induction l generalizing done s with
  | nil => rfl
  | cons st l ih =>
    rw [run, if_neg Bool.false_ne_true, forEach]
    rcases execute st s with ⟨_ | ⟨⟨⟩⟩, s₁⟩
    · rfl
    · exact ih (done + 1) s₁

/-- Without interruptions, running the statements is processing the notification. -/
theorem attempt_never (notification : ExExNotification) (s : BridgeState) :
    attempt decodeRawLog (fun _ => false) notification s =
      ((processNotification decodeRawLog notification s).1.mapError .refused,
        (processNotification decodeRawLog notification s).2) := by
  have hrun : forEach execute (statements decodeRawLog notification) s =
      processNotification decodeRawLog notification s := by
    rw [statements, forEach_append, processNotification]
    have hreverted : forEach execute (match notification.revertedChain with
        | none => []
        | some chain => (decodeChainIntoEvents decodeRawLog chain).filterMap deletion) s =
        (.ok (), handleReverted decodeRawLog notification s) := by
      rw [handleReverted]
      rcases notification.revertedChain with _ | chain
      · rfl
      · exact forEach_deletion _ s
    rw [hreverted, handleCommitted]
    rcases notification.committedChain with _ | chain
    · rfl
    · dsimp only
      rw [forEach_append, forEach_insertion]
      rcases forEach commitEvent (decodeChainIntoEvents decodeRawLog chain)
        (handleReverted decodeRawLog notification s) with ⟨_ | ⟨⟨⟩⟩, s₁⟩
      · rfl
      · rcases chain.tip with _ | tip <;> rfl
  rw [attempt, run_never, hrun]

end

/-! ## What ran before a failure -/

/-- What a statement does to the tables. -/
def Statement.write : Statement → Option ((Side × B256) × Option Row)
  | .delete key => some (key, none)
  | .insert key row => some (key, some row)
  | .announce _ => none

/-- The row under a key after some statements. -/
def rowAfter (s : BridgeState) (l : List Statement) (key : Side × B256) : Option Row :=
  (Assoc.lastWrite (l.filterMap Statement.write) key).getD (s.lookup key)

/-- A statement that the database refuses after some statements. -/
def Refused (s : BridgeState) (l : List Statement) : Statement → Prop
  | .delete _ => False
  | .insert key row => 2 ^ 63 ≤ row.blockNumber.toNat ∨ rowAfter s l key ≠ none
  | .announce tip => tip = none

/-- A statement that fails after some statements. -/
def Fails (interrupted : ℕ → Bool) (s : BridgeState) (l : List Statement) (st : Statement) : Prop :=
  interrupted l.length = true ∨ Refused s l st

/-- None of some statements fails. -/
def Runs (interrupted : ℕ → Bool) (s : BridgeState) (l : List Statement) : Prop :=
  AtEach (fun l st => ¬Fails interrupted s l st) l

/-- The last statement for a key leaves what was there. -/
def Neutral (s : BridgeState) (l : List Statement) : Prop :=
  ∀ key o, Assoc.lastWrite (l.filterMap Statement.write) key = some o → o = s.lookup key

/-- Both tables have the same rows. -/
def SameRows (s s' : BridgeState) : Prop := ∀ key, s'.lookup key = s.lookup key

theorem neutral_iff {s : BridgeState} {l : List Statement} :
    Neutral s l ↔ ∀ key, rowAfter s l key = s.lookup key := by
  refine forall_congr' fun key => ?_
  rw [rowAfter]
  rcases Assoc.lastWrite (l.filterMap Statement.write) key with _ | o
  · exact ⟨fun _ => rfl, fun _ => nofun⟩
  · exact ⟨fun h => h o rfl, fun h o' ho => Option.some.inj ho ▸ h⟩

theorem rowAfter_concat (s : BridgeState) (l : List Statement) (st : Statement) (key : Side × B256) :
    rowAfter s (l ++ [st]) key =
      (Assoc.lastWrite st.write.toList key).getD (rowAfter s l key) := by
  have hst : [st].filterMap Statement.write = st.write.toList := by
    rw [List.filterMap_eq_flatMap_toList, List.flatMap_singleton]
  rw [rowAfter, List.filterMap_append, Assoc.lastWrite_append, hst, rowAfter]
  cases Assoc.lastWrite st.write.toList key <;> rfl

/-- Writing under a key is seen there and nowhere else. -/
theorem lookup_setTable_of_lookup {s : BridgeState} {side : Side} {txHash : B256} {table : Table}
    {o : Option Row} (h : ∀ h, table.lookup h = if h = txHash then o else (s.table side).lookup h)
    (key : Side × B256) :
    (s.setTable table side).lookup key = if key = (side, txHash) then o else s.lookup key := by
  obtain ⟨side', h'⟩ := key
  rw [BridgeState.lookup_setTable, h, BridgeState.lookup]
  by_cases hs : side' = side
  · subst hs
    simp
  · simp [hs]

/-- An insert either adds its row, or is refused. -/
theorem insert_cases (table : Table) (txHash : B256) (r : Row) :
    (∃ table', insert table txHash r = .ok table' ∧
        ¬(2 ^ 63 ≤ r.blockNumber.toNat ∨ table.lookup txHash ≠ none) ∧
        ∀ h, table'.lookup h = if h = txHash then some r else table.lookup h) ∨
      ∃ err, insert table txHash r = .error err ∧
        (2 ^ 63 ≤ r.blockNumber.toNat ∨ table.lookup txHash ≠ none) := by
  rw [insert]
  by_cases hlt : r.blockNumber.toNat < 2 ^ 63
  · rw [if_pos hlt, Assoc.insertNew, Assoc.contains]
    rcases h : table.lookup txHash with _ | r'
    · left
      refine ⟨table.put txHash r, rfl, ?_, fun h => Assoc.lookup_put table txHash h r⟩
      rintro (hle | hne)
      · exact absurd hlt (Nat.not_lt.2 hle)
      · exact hne rfl
    · exact .inr ⟨_, rfl, .inr (Option.some_ne_none r')⟩
  · rw [if_neg hlt]
    exact .inr ⟨_, rfl, .inl (Nat.not_lt.1 hlt)⟩

/-- A statement either runs, or is refused and does nothing. -/
theorem execute_cases {s s₁ : BridgeState} {l : List Statement}
    (h : ∀ key, s₁.lookup key = rowAfter s l key) (st : Statement) :
    (∃ s₂, execute st s₁ = (.ok (), s₂) ∧ ¬Refused s l st ∧
        ∀ key, s₂.lookup key = rowAfter s (l ++ [st]) key) ∨
      ∃ err, execute st s₁ = (.error err, s₁) ∧ Refused s l st := by
  have hwrite : ∀ key o key', st.write = some (key, o) →
      rowAfter s (l ++ [st]) key' = if key' = key then o else s₁.lookup key' := by
    intro key o key' hst
    rw [rowAfter_concat, hst, Option.toList_some, Assoc.lastWrite_singleton, h]
    split_ifs <;> rfl
  rcases st with ⟨side, txHash⟩ | ⟨⟨side, txHash⟩, r⟩ | tip
  · left
    refine ⟨_, rfl, id, ?_⟩
    intro key
    rw [hwrite (side, txHash) none key rfl]
    exact lookup_setTable_of_lookup (fun h => Assoc.lookup_erase _ _ _) key
  · rw [Refused, ← h, execute]
    rcases insert_cases (s₁.table side) txHash r with ⟨t, ht, hn, hl⟩ | ⟨err, herr, hr⟩
    · left
      rw [ht]
      refine ⟨_, rfl, hn, ?_⟩
      intro key
      rw [hwrite (side, txHash) (some r) key rfl]
      exact lookup_setTable_of_lookup hl key
    · right
      rw [herr]
      exact ⟨err, rfl, hr⟩
  · rcases tip with _ | tip
    · exact .inr ⟨_, rfl, rfl⟩
    · left
      refine ⟨_, rfl, nofun, ?_⟩
      intro key
      rw [rowAfter_concat, ← h]
      rfl

/-- A run that fails has run some statements, and failed at the next one. -/
theorem run_eq_error {interrupted : ℕ → Bool} {s s₁ s' : BridgeState} {l l' : List Statement}
    {err : Failure} (hs₁ : ∀ key, s₁.lookup key = rowAfter s l key)
    (hl : Runs interrupted s l) (h : run interrupted l.length l' s₁ = (.error err, s')) :
    ∃ l₁ st l₂, l' = l₁ ++ st :: l₂ ∧ Runs interrupted s (l ++ l₁) ∧
      Fails interrupted s (l ++ l₁) st ∧ ∀ key, s'.lookup key = rowAfter s (l ++ l₁) key := by
  induction l' generalizing l s₁ with
  | nil => cases h
  | cons st l' ih =>
    rw [run] at h
    split_ifs at h with hi
    · obtain rfl := (Prod.mk.inj h).2
      exact ⟨[], st, l', rfl, by rwa [List.append_nil], .inl (by rwa [List.append_nil]),
        by rwa [List.append_nil]⟩
    rcases execute_cases hs₁ st with ⟨s₂, hst, hn, hs₂⟩ | ⟨err', hst, hr⟩
    · rw [hst] at h
      have hfails : ¬Fails interrupted s l st := by
        rintro (hi' | hr)
        · exact hi hi'
        · exact hn hr
      have hl' : Runs interrupted s (l ++ [st]) := atEach_concat.2 ⟨hl, hfails⟩
      obtain ⟨l₁, st', l₂, rfl, hruns, hf, hlookup⟩ :=
        ih hs₂ hl' (by rw [List.length_append]; exact h)
      rw [List.append_assoc] at hruns hf hlookup
      exact ⟨st :: l₁, st', l₂, rfl, hruns, hf, hlookup⟩
    · rw [hst] at h
      obtain rfl := (Prod.mk.inj h).2
      exact ⟨[], st, l', rfl, by rwa [List.append_nil], .inr (by rwa [List.append_nil]),
        by rwa [List.append_nil]⟩

/-! ## What a failure leaves -/

section

variable {decodeRawLog : List B256 → Bytes → Option L1StandardBridgeEvents}

/-- A notification that fails leaves the rows as they were iff the statements that
    run before the first failure leave, for each key, what was there. -/
theorem restored_iff {interrupted : ℕ → Bool} {notification : ExExNotification}
    {s s' : BridgeState} {err : Failure}
    (h : attempt decodeRawLog interrupted notification s = (.error err, s')) :
    SameRows s s' ↔
      ∀ l st l', statements decodeRawLog notification = l ++ st :: l' → Runs interrupted s l →
        Fails interrupted s l st → Neutral s l := by
  have hfailed : ∃ l st l', statements decodeRawLog notification = l ++ st :: l' ∧
      Runs interrupted s l ∧ Fails interrupted s l st ∧ ∀ key, s'.lookup key = rowAfter s l key :=
    run_eq_error (fun _ => rfl) atEach_nil h
  obtain ⟨l, st, l', hl, hruns, hfails, hlookup⟩ := hfailed
  have hneutral : SameRows s s' ↔ Neutral s l := by
    rw [neutral_iff]
    exact forall_congr' fun key => by rw [hlookup]
  rw [hneutral]
  constructor
  · intro hn l₁ st₁ l₁' hl₁ hruns₁ hfails₁
    -- The first failure is at one place only.
    obtain rfl := AtEach.eq_of_not (hl.symm.trans hl₁) hruns (not_not.2 hfails) hruns₁ (not_not.2 hfails₁)
    exact hn
  · intro hall
    exact hall l st l' hl hruns hfails

end

/-! ### Two deposits of a transaction -/

/-- Nothing fails for a reason that is not in the extension. -/
def never : ℕ → Bool := fun _ => false

/-- What is left when the second deposit is refused. -/
def firstOnly : BridgeState := (attempt bridgeLogs never (.chainCommitted batched) noRows).2

theorem lookup_firstOnly : firstOnly.lookup (.deposits, .ofU256 0) ≠ none := by decide +kernel

/-- The first deposit stays when the second one is refused. -/
theorem first_deposit_stays :
    attempt bridgeLogs never (.chainCommitted batched) noRows =
        (.error (.refused .uniqueConstraint), firstOnly) ∧
      ¬SameRows noRows firstOnly :=
  ⟨rfl, fun h => lookup_firstOnly (h (.deposits, .ofU256 0))⟩

/-- When the notification is delivered again, the first deposit is refused, and
    nothing changes. -/
theorem second_attempt_refused :
    ∃ s', attempt bridgeLogs never (.chainCommitted batched) firstOnly =
        (.error (.refused .uniqueConstraint), s') ∧ SameRows firstOnly s' := by
  obtain ⟨s', h⟩ : ∃ s', attempt bridgeLogs never (.chainCommitted batched) firstOnly =
      (.error (.refused .uniqueConstraint), s') := ⟨_, rfl⟩
  refine ⟨s', h, (restored_iff h).2 ?_⟩
  intro l st l' hl hruns _
  obtain ⟨r, rest, hstatements⟩ : ∃ r rest, statements bridgeLogs (.chainCommitted batched) =
      .insert (.deposits, .ofU256 0) r :: rest := ⟨_, _, rfl⟩
  rcases l with _ | ⟨st₁, l⟩
  · exact fun _ _ h => nomatch h
  · -- Already the first statement is refused.
    obtain ⟨rfl, -⟩ := List.cons.inj (hstatements.symm.trans hl)
    exact absurd (.inr (.inr lookup_firstOnly)) (hruns [] _ l rfl)

end ExEx.OpBridge
