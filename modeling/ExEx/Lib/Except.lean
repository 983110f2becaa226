import Mathlib.Data.List.Forall2

/-!
# Loops that can fail

A composed computation fails with an error when one of its parts does and those before
it succeed. For a loop over a list, the part is at one element, and those before it
succeed (`mapM_eq_error`). A loop that succeeds does so at each element (`mapM_eq_ok`).
-/

namespace ExEx

universe u

variable {ε α β : Type u} {e : ε} {x : Except ε α} {f : α → Except ε β}

/-- A computation that has a result. -/
def Succeeds (x : Except ε α) : Prop := ∃ a, x = .ok a

instance : Decidable (Succeeds x) :=
  match x with
  | .ok a => .isTrue ⟨a, rfl⟩
  | .error _ => .isFalse nofun

@[simp] theorem succeeds_ok (a : α) : Succeeds (Except.ok a : Except ε α) := ⟨a, rfl⟩

@[simp] theorem not_succeeds_error (e : ε) : ¬Succeeds (Except.error e : Except ε α) := by
  rintro ⟨_, h⟩
  cases h

/-- A step that succeeds can be left out. -/
@[simp] theorem ok_bind (a : α) (f : α → Except ε β) : (Except.ok a >>= f) = f a := rfl

theorem Succeeds.bind {a : α} (hx : x = .ok a) (hf : Succeeds (f a)) : Succeeds (x >>= f) := by
  rw [hx, ok_bind]; exact hf

theorem bind_ne_error : (x >>= f) ≠ .error e ↔ x ≠ .error e ∧ ∀ a, x = .ok a → f a ≠ .error e := by
  rcases x with e' | a
  · constructor
    · exact fun h => ⟨fun he => h (congrArg Except.error (Except.error.inj he)), nofun⟩
    · exact fun h he => h.1 (congrArg Except.error (Except.error.inj he))
  · constructor
    · intro h
      refine ⟨nofun, fun b hb => ?_⟩
      obtain rfl := Except.ok.inj hb
      exact h
    · exact fun h => h.2 a rfl

/-- A computation whose first part may fail, and the rest as `P` tells. -/
theorem bind_eq_error {P : Prop} (hf : ∀ a, f a = .error e ↔ P) :
    (x >>= f) = .error e ↔ x = .error e ∨ Succeeds x ∧ P := by
  rcases x with e' | a
  · constructor
    · intro h
      exact .inl (congrArg Except.error (Except.error.inj h))
    · rintro (h | ⟨⟨a, h⟩, -⟩)
      · exact congrArg Except.error (Except.error.inj h)
      · cases h
  · constructor
    · exact fun h => .inr ⟨⟨a, rfl⟩, (hf a).1 h⟩
    · rintro (h | ⟨-, h⟩)
      · cases h
      · exact (hf a).2 h

/-- A computation only whose first part may fail so. -/
theorem bind_eq_error_left (hf : ∀ a, f a ≠ .error e) : (x >>= f) = .error e ↔ x = .error e := by
  rw [bind_eq_error fun a => iff_false_intro (hf a), and_false, or_false]

/-- A computation whose first part does not fail so. -/
theorem bind_eq_error_right {P : Prop} (hx : x ≠ .error e) (hf : ∀ a, f a = .error e ↔ P) :
    (x >>= f) = .error e ↔ Succeeds x ∧ P := by
  rw [bind_eq_error hf, or_iff_right hx]

theorem optionMapM_eq_error {o : Option α} :
    o.mapM f = .error e ↔ ∃ a, o = some a ∧ f a = .error e := by
  rcases o with _ | a
  · constructor
    · nofun
    · rintro ⟨_, h, -⟩
      cases h
  · rw [Option.mapM_some]
    rcases hf : f a with e' | b
    · constructor
      · intro h
        exact ⟨a, rfl, hf.trans (congrArg Except.error (Except.error.inj h))⟩
      · rintro ⟨_, h, he⟩
        obtain rfl := Option.some.inj h
        exact congrArg Except.error (Except.error.inj (hf.symm.trans he))
    · constructor
      · nofun
      · rintro ⟨_, h, he⟩
        obtain rfl := Option.some.inj h
        cases hf.symm.trans he

theorem optionMapM_ne_error (hf : ∀ a, f a ≠ .error e) (o : Option α) : o.mapM f ≠ .error e := by
  rw [ne_eq, optionMapM_eq_error]
  rintro ⟨a, -, h⟩
  exact hf a h

/-- Something holds at an element of a list, and the loop gets to it. -/
def GetsTo (f : α → Except ε β) (P : α → Prop) (l : List α) : Prop :=
  ∃ l₁ a l₂, l = l₁ ++ a :: l₂ ∧ (∀ b ∈ l₁, Succeeds (f b)) ∧ P a

theorem not_getsTo_nil {P : α → Prop} : ¬GetsTo f P [] := by
  rintro ⟨l₁, a, l₂, h, -⟩
  exact List.append_ne_nil_of_right_ne_nil l₁ (List.cons_ne_nil a l₂) h.symm

theorem getsTo_cons {P : α → Prop} {a : α} {l : List α} :
    GetsTo f P (a :: l) ↔ P a ∨ Succeeds (f a) ∧ GetsTo f P l := by
  constructor
  · rintro ⟨_ | ⟨b, l₁⟩, c, l₂, h, hl₁, hc⟩
    · obtain ⟨rfl, -⟩ := List.cons.inj h
      exact .inl hc
    · obtain ⟨rfl, rfl⟩ := List.cons.inj h
      exact .inr ⟨hl₁ a List.mem_cons_self, l₁, c, l₂, rfl,
        fun b hb => hl₁ b (List.mem_cons_of_mem _ hb), hc⟩
  · rintro (ha | ⟨ha, l₁, c, l₂, rfl, hl₁, hc⟩)
    · exact ⟨[], a, l, rfl, fun _ hb => absurd hb List.not_mem_nil, ha⟩
    · refine ⟨a :: l₁, c, l₂, rfl, ?_, hc⟩
      intro b hb
      rcases List.mem_cons.1 hb with rfl | hb
      · exact ha
      · exact hl₁ b hb

/-- A loop fails with an error iff it gets to an element that does. -/
theorem mapM_eq_error {P : α → Prop} (hP : ∀ a, f a = .error e ↔ P a) {l : List α} :
    l.mapM f = .error e ↔ GetsTo f P l := by
  induction l with
  | nil => exact ⟨nofun, fun h => absurd h not_getsTo_nil⟩
  | cons a l ih =>
    rw [List.mapM_cons, getsTo_cons, ← hP, ← ih]
    refine bind_eq_error fun b => bind_eq_error_left ?_
    intro l' h
    cases h

theorem mapM_ne_error (hf : ∀ a, f a ≠ .error e) (l : List α) : l.mapM f ≠ .error e := by
  rw [ne_eq, mapM_eq_error fun _ => Iff.rfl]
  rintro ⟨_, a, _, -, -, h⟩
  exact hf a h

/-! ## Loops that succeed -/

theorem mapM_eq_ok {l : List α} {l' : List β} :
    l.mapM f = .ok l' ↔ List.Forall₂ (fun a b => f a = .ok b) l l' := by
  induction l generalizing l' with
  | nil =>
    rw [List.forall₂_nil_left_iff]
    exact ⟨fun h => (Except.ok.inj h).symm, fun h => h ▸ rfl⟩
  | cons a l ih =>
    rw [List.mapM_cons, List.forall₂_cons_left_iff]
    constructor
    · intro h
      rcases ha : f a with e' | b <;> rw [ha] at h
      · cases h
      rcases hl : l.mapM f with e' | bs
      · rw [hl] at h
        cases h
      · rw [hl] at h
        exact ⟨b, bs, rfl, ih.1 hl, (Except.ok.inj h).symm⟩
    · rintro ⟨b, bs, hb, hbs, rfl⟩
      rw [hb, ih.2 hbs]
      rfl

theorem mapM_succeeds {l : List α} (h : ∀ a ∈ l, Succeeds (f a)) : Succeeds (l.mapM f) := by
  induction l with
  | nil => exact ⟨[], rfl⟩
  | cons a l ih =>
    obtain ⟨b, hb⟩ := h a List.mem_cons_self
    obtain ⟨bs, hbs⟩ := ih fun a' ha' => h a' (List.mem_cons_of_mem _ ha')
    exact ⟨b :: bs, mapM_eq_ok.2 (.cons hb (mapM_eq_ok.1 hbs))⟩

/-- A loop succeeds when each iteration does and keeps what iterations rely on. -/
theorem foldlM_succeeds {P : β → Prop} {g : β → α → Except ε β} {l : List α}
    (hg : ∀ b, ∀ a ∈ l, P b → ∃ b', g b a = .ok b' ∧ P b') {b : β} (hb : P b) :
    Succeeds (l.foldlM g b) := by
  induction l generalizing b with
  | nil => exact ⟨b, rfl⟩
  | cons a l ih =>
    obtain ⟨b', hb', hP⟩ := hg b a List.mem_cons_self hb
    obtain ⟨c, hc⟩ := ih (fun b a' ha' => hg b a' (List.mem_cons_of_mem _ ha')) hP
    refine ⟨c, ?_⟩
    rw [List.foldlM_cons, hb']
    exact hc

/-- A loop does not fail with an error that no iteration fails with. -/
theorem foldlM_ne_error {g : β → α → Except ε β} (hg : ∀ b a, g b a ≠ .error e) {l : List α} {b : β} :
    l.foldlM g b ≠ .error e := by
  induction l generalizing b with
  | nil => exact nofun
  | cons a l ih =>
    rw [List.foldlM_cons, bind_ne_error]
    exact ⟨hg b a, fun _ _ => ih⟩

/-- A loop fails iff an iteration does, after those before it succeeded. -/
theorem not_succeeds_foldlM {g : β → α → Except ε β} {l : List α} {b : β} :
    ¬Succeeds (l.foldlM g b) ↔
      ∃ l₁ a l₂ c, l = l₁ ++ a :: l₂ ∧ l₁.foldlM g b = .ok c ∧ ¬Succeeds (g c a) := by
  induction l generalizing b with
  | nil =>
    refine iff_of_false (fun h => h ⟨b, rfl⟩) ?_
    rintro ⟨l₁, a, l₂, _, h, -⟩
    exact List.append_ne_nil_of_right_ne_nil l₁ (List.cons_ne_nil a l₂) h.symm
  | cons a l ih =>
    rcases ha : g b a with e | c
    · -- The first iteration is the one that fails.
      refine iff_of_true ?_ ⟨[], a, l, b, rfl, rfl, ?_⟩
      · rw [List.foldlM_cons, ha]
        exact not_succeeds_error e
      · rw [ha]
        exact not_succeeds_error e
    · rw [List.foldlM_cons, ha, ok_bind, ih]
      constructor
      · rintro ⟨l₁, a', l₂, c', rfl, hl₁, hfail⟩
        refine ⟨a :: l₁, a', l₂, c', rfl, ?_, hfail⟩
        rw [List.foldlM_cons, ha, ok_bind, hl₁]
      · rintro ⟨_ | ⟨a', l₁⟩, a'', l₂, c', h, hl₁, hfail⟩
        · obtain ⟨rfl, rfl⟩ := List.cons.inj h
          obtain rfl := Except.ok.inj hl₁
          exact absurd ⟨c, ha⟩ hfail
        · obtain ⟨rfl, rfl⟩ := List.cons.inj h
          rw [List.foldlM_cons, ha, ok_bind] at hl₁
          exact ⟨l₁, a'', l₂, c', rfl, hl₁, hfail⟩

/-- A loop whose iterations fail by their elements alone. -/
theorem succeeds_foldlM_iff {P : α → Prop} {g : β → α → Except ε β}
    (hg : ∀ b a, Succeeds (g b a) ↔ P a) {l : List α} {b : β} :
    Succeeds (l.foldlM g b) ↔ ∀ a ∈ l, P a := by
  induction l generalizing b with
  | nil => exact iff_of_true ⟨b, rfl⟩ fun _ ha => absurd ha List.not_mem_nil
  | cons a l ih =>
    rw [List.foldlM_cons, List.forall_mem_cons, ← hg b a]
    rcases ha : g b a with e | c
    · exact iff_of_false (not_succeeds_error e) fun h => not_succeeds_error e h.1
    · rw [ok_bind, ih, and_iff_right (succeeds_ok c)]

/-- What holds of the elements holds of the results, when it does one by one. -/
theorem forall_mem_congr {γ δ : Type*} {R : γ → δ → Prop} {P : γ → Prop} {Q : δ → Prop} {l : List γ}
    {l' : List δ} (h : List.Forall₂ R l l') (hPQ : ∀ a b, R a b → (P a ↔ Q b)) :
    (∀ a ∈ l, P a) ↔ ∀ b ∈ l', Q b := by
  induction h with
  | nil => exact ⟨fun _ _ hb => absurd hb List.not_mem_nil, fun _ _ ha => absurd ha List.not_mem_nil⟩
  | cons hab _ ih => rw [List.forall_mem_cons, List.forall_mem_cons, hPQ _ _ hab, ih]

end ExEx
