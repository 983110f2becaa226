import Mathlib.Data.List.Nodup

/-!
# Loops over keyed entries

A loop over entries with distinct keys, each iteration of which changes what is
observed at the key of its entry and nothing else, leaves at each key what the
one iteration for it leaves, and elsewhere what was there. In particular the
order of the entries does not matter: this is how a loop over a hash map is
reasoned about.

The loops are folds, in `Except` when an iteration can fail; `P` is what
iterations keep and may rely on. `forEach` is the loop of a program whose
effects stay when it stops on an error: it returns the state it leaves along
with the error. Where it stops is told by what holds at each element after the ones
before it (`AtEach`).
-/

namespace ExEx

universe u

variable {ε τ α κ ρ : Type*}

/-- A step followed by others succeeds iff it does and they do from its result. -/
theorem bind_eq_ok {α β : Type u} {x : Except ε α} {f : α → Except ε β} {b : β} :
    (x >>= f) = .ok b ↔ ∃ a, x = .ok a ∧ f a = .ok b := by
  cases x with
  | error e => exact ⟨nofun, fun ⟨_, h, _⟩ => by cases h⟩
  | ok a => exact ⟨fun h => ⟨a, rfl, h⟩, fun ⟨_, ha, h⟩ => by cases ha; exact h⟩

/-- A fallible loop, observed key by key. -/
theorem foldlM_keyed {P : τ → Prop} {f : τ → α → Except ε τ} (key : α → κ) (obs : τ → κ → ρ)
    (upd : α → ρ → ρ)
    (hf : ∀ t e t', P t → f t e = .ok t' →
      P t' ∧ obs t' (key e) = upd e (obs t (key e)) ∧ ∀ k, k ≠ key e → obs t' k = obs t k)
    {l : List α} (hl : (l.map key).Nodup) {t t' : τ} (ht : P t) (h : l.foldlM f t = .ok t') :
    P t' ∧ (∀ e ∈ l, obs t' (key e) = upd e (obs t (key e))) ∧
      ∀ k, k ∉ l.map key → obs t' k = obs t k := by
  induction l generalizing t with
  | nil =>
    obtain rfl : t = t' := Except.ok.inj h
    exact ⟨ht, fun _ he => absurd he List.not_mem_nil, fun _ _ => rfl⟩
  | cons a l ih =>
    rw [List.map_cons, List.nodup_cons] at hl
    rw [List.foldlM_cons] at h
    rcases hfa : f t a with _ | t₁
    · rw [hfa] at h; exact absurd h (by nofun)
    rw [hfa] at h
    obtain ⟨ht₁, hat, hne⟩ := hf t a t₁ ht hfa
    obtain ⟨ht', hl', hout⟩ := ih hl.2 ht₁ h
    refine ⟨ht', ?_, ?_⟩
    · intro e he
      -- The iterations after that of `a` are for other keys.
      rcases List.mem_cons.1 he with rfl | he
      · rw [hout _ hl.1, hat]
      · have hek : key e ≠ key a := fun heq => hl.1 (heq ▸ List.mem_map_of_mem he)
        rw [hl' e he, hne _ hek]
    · intro k hk
      rw [List.map_cons, List.mem_cons, not_or] at hk
      rw [hout k hk.2, hne k hk.1]

/-- A loop, observed key by key. -/
theorem foldl_keyed {f : τ → α → τ} (key : α → κ) (obs : τ → κ → ρ) (upd : α → ρ → ρ)
    (hf : ∀ t e, obs (f t e) (key e) = upd e (obs t (key e)) ∧
      ∀ k, k ≠ key e → obs (f t e) k = obs t k)
    {l : List α} (hl : (l.map key).Nodup) (t : τ) :
    (∀ e ∈ l, obs (l.foldl f t) (key e) = upd e (obs t (key e))) ∧
      ∀ k, k ∉ l.map key → obs (l.foldl f t) k = obs t k := by
  -- This is the fallible loop, with iterations that never fail.
  have h : l.foldlM (fun t e => (Except.ok (f t e) : Except Empty τ)) t = .ok (l.foldl f t) :=
    List.foldlM_pure
  refine (foldlM_keyed (P := fun _ => True) key obs upd ?_ hl trivial h).2
  intro t e t' _ h
  obtain rfl := Except.ok.inj h
  exact ⟨trivial, hf t e⟩

/-- What every iteration of a fallible loop keeps, the loop keeps. -/
theorem foldlM_invariant {P : τ → Prop} {f : τ → α → Except ε τ}
    (hf : ∀ t e t', P t → f t e = .ok t' → P t') {l : List α} {t t' : τ} (ht : P t)
    (h : l.foldlM f t = .ok t') : P t' := by
  induction l generalizing t with
  | nil => exact Except.ok.inj h ▸ ht
  | cons a l ih =>
    rw [List.foldlM_cons] at h
    rcases hfa : f t a with _ | t₁
    · rw [hfa] at h; exact absurd h (by nofun)
    · rw [hfa] at h
      exact ih (hf t a t₁ ht hfa) h

/-- What every iteration of a loop keeps, the loop keeps. -/
theorem foldl_invariant {P : τ → Prop} {f : τ → α → τ} (hf : ∀ t e, P t → P (f t e)) (l : List α)
    {t : τ} (ht : P t) : P (l.foldl f t) := by
  induction l generalizing t with
  | nil => exact ht
  | cons a l ih => exact ih (hf t a ht)

/-! ## Loops whose effects stay -/

section

variable {σ : Type*}

/-- Runs `f` for each element, up to the first error. -/
def forEach (f : α → σ → Except ε Unit × σ) : List α → σ → Except ε Unit × σ
  | [], s => (.ok (), s)
  | a :: l, s =>
    match f a s with
    | (.ok (), s') => forEach f l s'
    | (.error e, s') => (.error e, s')

variable {f : α → σ → Except ε Unit × σ}

theorem forEach_cons_eq_ok {a : α} {l : List α} {s s' : σ} :
    forEach f (a :: l) s = (.ok (), s') ↔
      ∃ s₁, f a s = (.ok (), s₁) ∧ forEach f l s₁ = (.ok (), s') := by
  rw [forEach]
  rcases f a s with ⟨_ | ⟨⟨⟩⟩, s₁⟩
  · exact ⟨nofun, nofun⟩
  · exact ⟨fun h => ⟨s₁, rfl, h⟩, fun ⟨_, h, h'⟩ => by cases h; exact h'⟩

theorem forEach_append (l l' : List α) (s : σ) :
    forEach f (l ++ l') s =
      match forEach f l s with
      | (.ok (), s') => forEach f l' s'
      | (.error e, s') => (.error e, s') := by
  induction l generalizing s with
  | nil => rfl
  | cons a l ih =>
    rw [List.cons_append, forEach, forEach]
    rcases f a s with ⟨_ | ⟨⟨⟩⟩, s'⟩
    · rfl
    · exact ih s'

theorem forEach_append_eq_ok {l l' : List α} {s s' : σ} :
    forEach f (l ++ l') s = (.ok (), s') ↔
      ∃ s₁, forEach f l s = (.ok (), s₁) ∧ forEach f l' s₁ = (.ok (), s') := by
  rw [forEach_append]
  rcases forEach f l s with ⟨_ | ⟨⟨⟩⟩, s₁⟩
  · exact ⟨nofun, nofun⟩
  · exact ⟨fun h => ⟨s₁, rfl, h⟩, fun ⟨_, h, h'⟩ => by cases h; exact h'⟩

theorem forEach_map {β : Type*} (g : β → α) (l : List β) (s : σ) :
    forEach f (l.map g) s = forEach (fun b => f (g b)) l s := by
  induction l generalizing s with
  | nil => rfl
  | cons b l ih =>
    rw [List.map_cons, forEach, forEach]
    rcases f (g b) s with ⟨_ | ⟨⟨⟩⟩, s'⟩
    · rfl
    · exact ih s'

/-- What every iteration keeps, whether it fails or not, the loop keeps. -/
theorem forEach_invariant {P : σ → Prop} {l : List α} (hf : ∀ a ∈ l, ∀ s, P s → P (f a s).2) {s : σ}
    (hs : P s) : P (forEach f l s).2 := by
  induction l generalizing s with
  | nil => exact hs
  | cons a l ih =>
    have ha := hf a List.mem_cons_self s hs
    rw [forEach]
    rcases h : f a s with ⟨_ | ⟨⟨⟩⟩, s₁⟩ <;> rw [h] at ha
    · exact ha
    · exact ih (fun b hb => hf b (List.mem_cons_of_mem _ hb)) ha

end

/-! ## Each element after those before it -/

section

variable {P : List α → α → Prop} {l l₁ l₂ l₁' l₂' : List α} {a a' : α}

/-- Something holds of each element and those before it. -/
def AtEach (P : List α → α → Prop) (l : List α) : Prop := ∀ l₁ a l₂, l = l₁ ++ a :: l₂ → P l₁ a

theorem atEach_nil : AtEach P [] := fun _ _ _ h => absurd h.symm (List.append_ne_nil_of_right_ne_nil _ nofun)

theorem atEach_concat : AtEach P (l ++ [a]) ↔ AtEach P l ∧ P l a := by
  constructor
  · intro h
    refine ⟨?_, h l a [] rfl⟩
    rintro l₁ b l₂ rfl
    exact h l₁ b (l₂ ++ [a]) (by rw [List.append_assoc, List.cons_append])
  · rintro ⟨hl, ha⟩ l₁ b l₂ h
    -- The element is the last one, or one of those before.
    rcases List.eq_nil_or_concat l₂ with rfl | ⟨l₂, b', rfl⟩
    · obtain ⟨rfl, hab⟩ := List.append_inj' h rfl
      rwa [← (List.cons.inj hab).1]
    · rw [List.concat_eq_append, ← List.cons_append, ← List.append_assoc] at h
      exact hl l₁ b l₂ (List.append_inj' h rfl).1

/-- There is at most one first element at which it does not hold. -/
theorem AtEach.eq_of_not (h : l₁ ++ a :: l₂ = l₁' ++ a' :: l₂') (h₁ : AtEach P l₁) (ha : ¬P l₁ a)
    (h₁' : AtEach P l₁') (ha' : ¬P l₁' a') : l₁ = l₁' := by
  rcases List.append_eq_append_iff.1 h with ⟨m, rfl, hm⟩ | ⟨m, rfl, hm⟩
  · rcases m with _ | ⟨b, m⟩
    · exact (List.append_nil _).symm
    · obtain ⟨rfl, -⟩ := List.cons.inj hm
      exact absurd (h₁' l₁ a m rfl) ha
  · rcases m with _ | ⟨b, m⟩
    · exact List.append_nil _
    · obtain ⟨rfl, -⟩ := List.cons.inj hm
      exact absurd (h₁ l₁' a' m rfl) ha'

end

end ExEx
