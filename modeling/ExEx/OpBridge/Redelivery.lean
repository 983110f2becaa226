import ExEx.OpBridge.Failure

/-!
# Notifications delivered again

When processing a notification fails the extension stops, the node shuts down with it, and
the notification is delivered again once it is back. What ran the first time has stayed.

A deletion can run again, an insertion cannot, unless the notification deletes its row
first. So there is no way on from a failure, however often the notification comes back,
unless it was an interruption, and all rows inserted before it are of transactions that
the notification also takes away (`recovers_iff`).
-/

namespace ExEx.OpBridge

open Reth (Log Chain ExExNotification)

/-! ## Rows after some statements -/

theorem mem_writes_none_iff {l : List Statement} {key : Side × B256} :
    (key, none) ∈ l.filterMap Statement.write ↔ .delete key ∈ l := by
  rw [List.mem_filterMap]
  constructor
  · rintro ⟨_ | _ | _, hst, hwrite⟩ <;> cases hwrite
    exact hst
  · exact fun h => ⟨_, h, rfl⟩

theorem mem_writes_some_iff {l : List Statement} {key : Side × B256} {row : Row} :
    (key, some row) ∈ l.filterMap Statement.write ↔ .insert key row ∈ l := by
  rw [List.mem_filterMap]
  constructor
  · rintro ⟨_ | _ | _, hst, hwrite⟩ <;> cases hwrite
    exact hst
  · exact fun h => ⟨_, h, rfl⟩

/-- A key that is not written has its row still. -/
theorem rowAfter_of_not_written {s : BridgeState} {l : List Statement} {key : Side × B256}
    (hdelete : .delete key ∉ l) (hinsert : ∀ row, .insert key row ∉ l) :
    rowAfter s l key = s.lookup key := by
  rw [rowAfter, Assoc.lastWrite_eq_none_iff.2]
  · rfl
  intro hmem
  obtain ⟨⟨_, _ | row⟩, hwrite, rfl⟩ := List.mem_map.1 hmem
  · exact hdelete (mem_writes_none_iff.1 hwrite)
  · exact hinsert row (mem_writes_some_iff.1 hwrite)

/-- The row of a key that is written does not depend on what was there. -/
theorem rowAfter_of_written (s s' : BridgeState) {l : List Statement} {key : Side × B256}
    {o : Option Row} (h : (key, o) ∈ l.filterMap Statement.write) :
    rowAfter s l key = rowAfter s' l key := by
  rw [rowAfter, rowAfter]
  cases hw : Assoc.lastWrite (l.filterMap Statement.write) key with
  | none => exact absurd (List.mem_map_of_mem h) (Assoc.lastWrite_eq_none_iff.1 hw)
  | some o => rfl

/-- A key that is not deleted keeps a row that it has. -/
theorem rowAfter_ne_none {s : BridgeState} {l : List Statement} {key : Side × B256}
    (hdelete : .delete key ∉ l) (h : s.lookup key ≠ none ∨ ∃ row, .insert key row ∈ l) :
    rowAfter s l key ≠ none := by
  rw [rowAfter]
  cases hw : Assoc.lastWrite (l.filterMap Statement.write) key with
  | none =>
    rcases h with h | ⟨row, h⟩
    · exact h
    · exact absurd (List.mem_map_of_mem (mem_writes_some_iff.2 h))
        (Assoc.lastWrite_eq_none_iff.1 hw)
  | some o =>
    cases o with
    | none => exact absurd (mem_writes_none_iff.1 (Assoc.mem_of_lastWrite hw)) hdelete
    | some row => exact Option.some_ne_none row

/-! ## Attempts -/

/-- Statements run to the end iff none of them fails. -/
theorem run_eq_ok_iff {interrupted : ℕ → Bool} {s s₁ : BridgeState} {l l' : List Statement}
    (hs₁ : ∀ key, s₁.lookup key = rowAfter s l key) (hl : Runs interrupted s l) :
    (run interrupted l.length l' s₁).1 = .ok () ↔ Runs interrupted s (l ++ l') := by
  induction l' generalizing l s₁ with
  | nil =>
    rw [List.append_nil]
    exact iff_of_true rfl hl
  | cons st l' ih =>
    have hfails (hst : Fails interrupted s l st) : ¬Runs interrupted s (l ++ st :: l') :=
      fun hruns => hruns l st l' rfl hst
    rw [run]
    by_cases hi : interrupted l.length = true
    · rw [if_pos hi]
      exact iff_of_false (fun h => by cases h) (hfails (.inl hi))
    rw [if_neg hi]
    rcases execute_cases hs₁ st with ⟨s₂, hok, hn, hs₂⟩ | ⟨err, herr, hr⟩
    · have hst : ¬Fails interrupted s l st := not_or.2 ⟨hi, hn⟩
      have hnext := ih hs₂ (atEach_concat.2 ⟨hl, hst⟩)
      rw [List.append_assoc, List.length_append] at hnext
      rw [hok]
      exact hnext
    · rw [herr]
      exact iff_of_false (fun h => by cases h) (hfails (.inr hr))

/-- What a run leaves is what some of its statements leave. -/
theorem lookup_run (interrupted : ℕ → Bool) {s s₁ : BridgeState} {l l' : List Statement}
    (hs₁ : ∀ key, s₁.lookup key = rowAfter s l key) : ∃ l₁ l₂, l' = l₁ ++ l₂ ∧
      ∀ key, (run interrupted l.length l' s₁).2.lookup key = rowAfter s (l ++ l₁) key := by
  induction l' generalizing l s₁ with
  | nil => exact ⟨[], [], rfl, by rwa [List.append_nil]⟩
  | cons st l' ih =>
    have hnone : ∀ key, s₁.lookup key = rowAfter s (l ++ []) key := by rwa [List.append_nil]
    rw [run]
    by_cases hi : interrupted l.length = true
    · rw [if_pos hi]
      exact ⟨[], st :: l', rfl, hnone⟩
    rw [if_neg hi]
    rcases execute_cases hs₁ st with ⟨s₂, hok, -, hs₂⟩ | ⟨err, herr, -⟩
    · obtain ⟨l₁, l₂, rfl, hlookup⟩ := ih hs₂
      rw [List.append_assoc, List.length_append] at hlookup
      rw [hok]
      exact ⟨st :: l₁, l₂, rfl, hlookup⟩
    · rw [herr]
      exact ⟨[], st :: l', rfl, hnone⟩

section

variable {decodeRawLog : List B256 → Bytes → Option L1StandardBridgeEvents}
  {notification : ExExNotification} {s s' : BridgeState} {interrupted : ℕ → Bool} {err : Failure}

/-- An attempt succeeds iff none of its statements fails. -/
theorem attempt_eq_ok_iff : (attempt decodeRawLog interrupted notification s).1 = .ok () ↔
    Runs interrupted s (statements decodeRawLog notification) := by
  exact run_eq_ok_iff (fun _ => rfl) atEach_nil

/-- The statements of a notification delete first. -/
theorem statements_eq (notification : ExExNotification) : ∃ deletions rest,
    statements decodeRawLog notification = deletions ++ rest ∧
      (∀ st ∈ deletions, ∃ key, st = .delete key) ∧ ∀ key, .delete key ∉ rest := by
  refine ⟨_, _, rfl, ?_, ?_⟩
  · intro st hst
    cases hchain : notification.revertedChain with
    | none =>
      rw [hchain] at hst
      cases hst
    | some chain =>
      rw [hchain] at hst
      obtain ⟨⟨e, event⟩, -, hdeletion⟩ := List.mem_filterMap.1 hst
      rcases event with _ | _ | _ <;> cases hdeletion
      · exact ⟨_, rfl⟩
      · exact ⟨_, rfl⟩
  · intro key hst
    cases hchain : notification.committedChain with
    | none =>
      rw [hchain] at hst
      cases hst
    | some chain =>
      rw [hchain] at hst
      rcases List.mem_append.1 hst with hst | hst
      · obtain ⟨⟨e, event⟩, -, hinsertion⟩ := List.mem_filterMap.1 hst
        rcases event with _ | _ | _ <;> cases hinsertion
      · cases List.mem_singleton.1 hst

/-- What an insertion's notification deletes, it has deleted before. -/
theorem delete_before {l l' : List Statement} {key key' : Side × B256} {row : Row}
    (hl : statements decodeRawLog notification = l ++ .insert key row :: l')
    (hdelete : .delete key' ∈ statements decodeRawLog notification) : .delete key' ∈ l := by
  obtain ⟨deletions, rest, heq, hdeletions, hrest⟩ :
      ∃ deletions rest, statements decodeRawLog notification = deletions ++ rest ∧ _ ∧ _ :=
    statements_eq notification
  have hmem : .delete key' ∈ deletions := by
    rw [heq] at hdelete
    exact (List.mem_append.1 hdelete).resolve_right (hrest key')
  rw [heq] at hl
  rcases List.append_eq_append_iff.1 hl with ⟨m, rfl, -⟩ | ⟨m, rfl, hm⟩
  · exact List.mem_append_left m hmem
  · -- Were the deletions not all before the insertion, it would be one of them.
    rcases List.mem_append.1 hmem with hmem | hmem
    · exact hmem
    cases m with
    | nil => cases hmem
    | cons st m =>
      obtain ⟨rfl, -⟩ := List.cons.inj hm
      obtain ⟨_, hst⟩ := hdeletions _ (List.mem_append_right l List.mem_cons_self)
      cases hst

/-! ## What can be delivered -/

variable (decodeRawLog notification) in
/-- The rows that the notification inserts, and does not delete first, are not there. -/
def RowsFree (s : BridgeState) : Prop :=
  ∀ key row, .insert key row ∈ statements decodeRawLog notification →
    .delete key ∉ statements decodeRawLog notification → s.lookup key = none

theorem fails_never_iff {l : List Statement} {st : Statement} :
    Fails never s l st ↔ Refused s l st := or_iff_right Bool.false_ne_true

theorem lookup_noRows (key : Side × B256) : noRows.lookup key = none := by
  obtain ⟨side, txHash⟩ := key
  cases side <;> rfl

/-- What is refused without rows is refused with them. -/
theorem Refused.of_noRows {l : List Statement} {st : Statement} (h : Refused noRows l st) :
    Refused s l st := by
  rcases st with key | ⟨key, row⟩ | tip
  · exact h
  · refine h.imp_right fun hrow => ?_
    rw [rowAfter] at hrow ⊢
    cases hw : Assoc.lastWrite (l.filterMap Statement.write) key with
    | none =>
      rw [hw] at hrow
      exact absurd (lookup_noRows key) hrow
    | some o => rwa [hw] at hrow
  · exact h

/-- Whether a notification is processed depends on the tables only by the rows that are to
    be free. -/
theorem attempt_never_iff : (attempt decodeRawLog never notification s).1 = .ok () ↔
    (attempt decodeRawLog never notification noRows).1 = .ok () ∧
      RowsFree decodeRawLog notification s := by
  rw [attempt_eq_ok_iff, attempt_eq_ok_iff]
  constructor
  · intro hruns
    refine ⟨fun l st l' hl hst =>
      hruns l st l' hl (fails_never_iff.2 (fails_never_iff.1 hst).of_noRows), ?_⟩
    intro key row hinsert hdelete
    obtain ⟨l, l', hl⟩ := List.append_of_mem hinsert
    by_contra hne
    refine hruns l _ l' hl (fails_never_iff.2 (.inr (rowAfter_ne_none (fun hmem => hdelete ?_)
      (.inl hne))))
    rw [hl]
    exact List.mem_append_left _ hmem
  · rintro ⟨hruns, hfree⟩ l st l' hl hst
    rw [fails_never_iff] at hst
    refine hruns l st l' hl (fails_never_iff.2 ?_)
    rcases st with key | ⟨key, row⟩ | tip
    · exact hst
    · refine hst.imp_right fun hrow => ?_
      by_cases hwritten : ∃ o, (key, o) ∈ l.filterMap Statement.write
      · obtain ⟨o, ho⟩ := hwritten
        rwa [rowAfter_of_written noRows s ho]
      -- The row was there before, so it is not one that is to be free.
      have hnone {o : Option Row} : (key, o) ∉ l.filterMap Statement.write :=
        fun ho => hwritten ⟨o, ho⟩
      rw [rowAfter_of_not_written (fun h => hnone (mem_writes_none_iff.2 h))
        fun row h => hnone (mem_writes_some_iff.2 h)] at hrow
      refine absurd (hfree key row ?_ fun hdelete => ?_) hrow
      · rw [hl]
        exact List.mem_append_right _ List.mem_cons_self
      · exact hnone (mem_writes_none_iff.2 (delete_before hl hdelete))
    · exact hst

/-! ## Delivered again -/

/-- Rows that are not free do not become free. -/
theorem rowsFree_of_attempt (h : RowsFree decodeRawLog notification
    (attempt decodeRawLog interrupted notification s).2) : RowsFree decodeRawLog notification s := by
  obtain ⟨l, l', hl, hlookup⟩ : ∃ l l', statements decodeRawLog notification = l ++ l' ∧
      ∀ key, (attempt decodeRawLog interrupted notification s).2.lookup key = rowAfter s l key :=
    lookup_run interrupted (l := []) fun _ => rfl
  intro key row hinsert hdelete
  by_contra hne
  refine rowAfter_ne_none (l := l) (fun hmem => hdelete ?_) (.inl hne) ?_
  · rw [hl]
    exact List.mem_append_left _ hmem
  · rw [← hlookup]
    exact h key row hinsert hdelete

variable (decodeRawLog notification) in
/-- The tables after a notification was delivered some times. -/
def delivered (s : BridgeState) (attempts : List (ℕ → Bool)) : BridgeState :=
  attempts.foldl (fun s interrupted => (attempt decodeRawLog interrupted notification s).2) s

variable (decodeRawLog notification) in
/-- After some more deliveries, one is processed. -/
def Recovers (s : BridgeState) : Prop :=
  ∃ attempts interrupted,
    (attempt decodeRawLog interrupted notification
      (delivered decodeRawLog notification s attempts)).1 = .ok ()

/-- A notification is processed some time iff it is when nothing interrupts it. -/
theorem recovers_iff_attempt_never : Recovers decodeRawLog notification s ↔
    (attempt decodeRawLog never notification s).1 = .ok () := by
  refine ⟨?_, fun h => ⟨[], never, h⟩⟩
  rintro ⟨attempts, interrupted, h⟩
  induction attempts generalizing s with
  | nil =>
    rw [attempt_eq_ok_iff] at h ⊢
    intro l st l' hl hst
    exact h l st l' hl (.inr (fails_never_iff.1 hst))
  | cons first attempts ih =>
    -- What is to be free after an attempt was free before it.
    obtain ⟨hok, hfree⟩ := attempt_never_iff.1 (ih h)
    exact attempt_never_iff.2 ⟨hok, rowsFree_of_attempt hfree⟩

/-- A notification that failed is processed at a later delivery iff nothing but an
    interruption was in its way, and it deletes all rows first that it had inserted. -/
theorem recovers_iff (h : attempt decodeRawLog interrupted notification s = (.error err, s')) :
    Recovers decodeRawLog notification s' ↔
      (attempt decodeRawLog never notification s).1 = .ok () ∧
        ∀ l st l', statements decodeRawLog notification = l ++ st :: l' → Runs interrupted s l →
          Fails interrupted s l st → ∀ key row, .insert key row ∈ l →
            .delete key ∈ statements decodeRawLog notification := by
  obtain ⟨l, st, l', hl, hruns, hfails, hlookup⟩ : ∃ l st l',
      statements decodeRawLog notification = l ++ st :: l' ∧ Runs interrupted s l ∧
        Fails interrupted s l st ∧ ∀ key, s'.lookup key = rowAfter s l key :=
    run_eq_error (fun _ => rfl) atEach_nil h
  have hinserted : RowsFree decodeRawLog notification s' ↔ RowsFree decodeRawLog notification s ∧
      ∀ key row, .insert key row ∈ l → .delete key ∈ statements decodeRawLog notification := by
    have hsub {st : Statement} (hst : st ∈ l) : st ∈ statements decodeRawLog notification := by
      rw [hl]
      exact List.mem_append_left _ hst
    constructor
    · intro hfree
      refine ⟨?_, ?_⟩
      · intro key row hinsert hdelete
        by_contra hne
        exact rowAfter_ne_none (fun hmem => hdelete (hsub hmem)) (.inl hne)
          ((hlookup key).symm.trans (hfree key row hinsert hdelete))
      · intro key row hinsert
        by_contra hdelete
        exact rowAfter_ne_none (fun hmem => hdelete (hsub hmem)) (.inr ⟨row, hinsert⟩)
          ((hlookup key).symm.trans (hfree key row (hsub hinsert) hdelete))
    · rintro ⟨hfree, hdeletes⟩ key row hinsert hdelete
      rw [hlookup, rowAfter_of_not_written (fun hmem => hdelete (hsub hmem))
        fun row hmem => hdelete (hdeletes key row hmem)]
      exact hfree key row hinsert hdelete
  rw [recovers_iff_attempt_never, attempt_never_iff, attempt_never_iff (s := s), hinserted,
    and_assoc]
  refine and_congr_right fun _ => and_congr_right fun _ => ?_
  constructor
  · intro hdelete l₁ st₁ l₁' hl₁ hruns₁ hfails₁
    -- The first failure is at one place only.
    obtain rfl := AtEach.eq_of_not (hl.symm.trans hl₁) hruns (not_not.2 hfails) hruns₁
      (not_not.2 hfails₁)
    exact hdelete
  · exact fun hall => hall l st l' hl hruns hfails

end

/-! ### An interruption after the first row -/

/-- The second statement is interrupted. -/
def atSecond : ℕ → Bool := fun done => done == 1

/-- What is left when that is before the withdrawal. -/
def depositOnly : BridgeState :=
  (attempt bridgeLogs atSecond (.chainCommitted oneEach) noRows).2

/-- The extension never gets past the notification then. -/
theorem depositOnly_not_recovers :
    attempt bridgeLogs atSecond (.chainCommitted oneEach) noRows =
        (.error .interrupted, depositOnly) ∧
      ¬Recovers bridgeLogs (.chainCommitted oneEach) depositOnly := by
  have hattempt : attempt bridgeLogs atSecond (.chainCommitted oneEach) noRows =
      (.error .interrupted, depositOnly) := rfl
  refine ⟨hattempt, fun h => ?_⟩
  obtain ⟨key, row, _, _, _, hl, hnumber⟩ : ∃ key row key' row' tip,
      statements bridgeLogs (.chainCommitted oneEach) =
        [.insert key row] ++ .insert key' row' :: [.announce tip] ∧
      row.blockNumber.toNat < 2 ^ 63 := ⟨_, _, _, _, _, rfl, by decide⟩
  have hfirst : ¬Fails atSecond noRows [] (.insert key row) := by
    rintro (hi | hrange | hfree)
    · cases hi
    · exact absurd hnumber (Nat.not_lt.2 hrange)
    · exact hfree (lookup_noRows key)
  -- The deposit was inserted, and the notification deletes nothing.
  have hdelete := ((recovers_iff hattempt).1 h).2 [.insert key row] _ _ hl
    (atEach_concat.2 ⟨atEach_nil, hfirst⟩) (.inl rfl) key row List.mem_cons_self
  rw [hl] at hdelete
  simp at hdelete

end ExEx.OpBridge
