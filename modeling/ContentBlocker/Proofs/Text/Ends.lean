import ContentBlocker.Text.Basic
import Mathlib.Tactic

/-!
# The two ends of a text

When `stripStart?` and `stripEnd?` take something off a text, told from how the text is put together
or from its first or last character.
-/

namespace ContentBlocker.Text

@[simp] theorem stripStart?_append (p t : Text) : stripStart? p (p ++ t) = some t := by
  simp [stripStart?]

@[simp] theorem stripEnd?_append (p t : Text) : stripEnd? p (t ++ p) = some t := by
  simp [stripEnd?]

theorem stripStart?_eq_some_iff {p t u : Text} : stripStart? p t = some u ↔ t = p ++ u := by
  constructor
  · intro h
    unfold stripStart? at h
    split_ifs at h with hp
    obtain ⟨v, rfl⟩ := List.isPrefixOf_iff_prefix.1 hp
    cases h
    simp
  · rintro rfl
    exact stripStart?_append p u

theorem isPrefixOf_of_head? {c : Char} {t : Text} (h : t.head? ≠ some c) (p : Text) :
    (c :: p).isPrefixOf t = false := by
  rcases t with _ | ⟨d, t⟩
  · rfl
  · have hc : c ≠ d := fun hc => h (by rw [← hc]; rfl)
    simp [List.isPrefixOf, hc]

theorem stripStart?_of_head? {c : Char} {t : Text} (h : t.head? ≠ some c) (p : Text) :
    stripStart? (c :: p) t = none := by
  simp [stripStart?, isPrefixOf_of_head? h]

theorem stripEnd?_of_getLast? {c : Char} {t : Text} (h : t.getLast? ≠ some c) :
    stripEnd? [c] t = none := by
  have hs : ¬[c] <:+ t := by
    rintro ⟨u, rfl⟩
    simp at h
  simp [stripEnd?, hs]

theorem stripEnd?_append_of_ne_nil {t : Text} (ht : t ≠ []) (c : Char) (s : Text) :
    stripEnd? [c] (s ++ t) = (stripEnd? [c] t).map (s ++ ·) := by
  obtain ⟨u, d, rfl⟩ := (List.eq_nil_or_concat' t).resolve_left ht
  by_cases hd : d = c
  · rw [hd, ← List.append_assoc, stripEnd?_append, stripEnd?_append]
    rfl
  · rw [stripEnd?_of_getLast? (by simpa using hd), stripEnd?_of_getLast? (by simpa using hd)]
    rfl

end ContentBlocker.Text
