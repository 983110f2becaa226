import ExEx.Lib.Assoc
import ExEx.Lib.Except

/-!
# Round trips

An encoder and a decoder, both of which may fail, round trip at a value when the
encoder succeeds on it and the decoder gives it back. Codecs of records, lists
and optional values round trip when those of their parts do: a proof about a
codec follows the type it encodes.
-/

namespace ExEx

universe u

variable {ε α β : Type u}

/-- Encoding `a` succeeds, and decoding the result gives `a`. -/
def RoundTrips (enc : α → Except ε β) (dec : β → Except ε α) (a : α) : Prop :=
  ∃ b, enc a = .ok b ∧ dec b = .ok a

theorem mapM_cons_eq_ok {f : α → Except ε β} {a : α} {l : List α} {b : β} {l' : List β}
    (ha : f a = .ok b) (hl : l.mapM f = .ok l') : (a :: l).mapM f = .ok (b :: l') := by
  rw [List.mapM_cons, ha, ok_bind, hl]
  rfl

namespace RoundTrips

variable {enc : α → Except ε β} {dec : β → Except ε α}

/-- Lists round trip when their elements do. -/
theorem mapM {l : List α} (h : ∀ a ∈ l, RoundTrips enc dec a) :
    RoundTrips (List.mapM enc) (List.mapM dec) l := by
  induction l with
  | nil => exact ⟨[], rfl, rfl⟩
  | cons a l ih =>
    obtain ⟨b, hb, ha⟩ := h a List.mem_cons_self
    obtain ⟨l', hl', hl⟩ := ih fun a' ha' => h a' (List.mem_cons_of_mem _ ha')
    exact ⟨b :: l', mapM_cons_eq_ok hb hl', mapM_cons_eq_ok ha hl⟩

/-- Optional values round trip when their values do. -/
theorem optionMapM {o : Option α} (h : ∀ a ∈ o, RoundTrips enc dec a) :
    RoundTrips (Option.mapM enc) (Option.mapM dec) o := by
  rcases o with _ | a
  · exact ⟨none, rfl, rfl⟩
  · obtain ⟨b, hb, ha⟩ := h a rfl
    refine ⟨some b, ?_, ?_⟩
    · rw [Option.mapM_some, hb]; rfl
    · rw [Option.mapM_some, ha]; rfl

end RoundTrips

/-- Lists under an encoder that cannot fail. -/
theorem mapM_comp {enc : α → β} {dec : β → Except ε α} {l : List α}
    (h : ∀ a ∈ l, dec (enc a) = .ok a) : l.mapM (dec ∘ enc) = .ok l := by
  induction l with
  | nil => rfl
  | cons a l ih =>
    exact mapM_cons_eq_ok (h a List.mem_cons_self) (ih fun a' ha' => h a' (List.mem_cons_of_mem _ ha'))

/-- Optional values under an encoder that cannot fail. -/
theorem optionMapM_comp {enc : α → β} {dec : β → Except ε α} {o : Option α}
    (h : ∀ a ∈ o, dec (enc a) = .ok a) : (o.map enc).mapM dec = .ok o := by
  rcases o with _ | a
  · rfl
  · rw [Option.map_some, Option.mapM_some, h a rfl]
    rfl

end ExEx
