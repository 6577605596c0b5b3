import ContentBlocker.Text.Basic
import Mathlib.Tactic

/-!
# Escaped places

A backslash escapes the next character unless it is escaped itself, so what counts is the number of
backslashes right before a place.

* `escapesNext` says of what stands before a place that the place is escaped, and
  `escapesNext_concat` follows this along a text;
* `getLast?_eq_backslash_iff` compares it with a look at the nearest character only;
* `forall_before_cons` tells what stands before the places of a character, one character after the
  other.
-/

namespace ContentBlocker.Text

/-! ### What stands before a place -/

/-- The number of backslashes at the end of the text is odd, so that the next character is
escaped. -/
def escapesNext (t : Text) : Bool := (t.reverse.takeWhile (· = '\\')).length % 2 = 1

@[simp] theorem escapesNext_nil : escapesNext [] = false := rfl

/-- A backslash escapes what follows it unless it is escaped itself. -/
@[simp] theorem escapesNext_concat (t : Text) (c : Char) :
    escapesNext (t ++ [c]) = (decide (c = '\\') && !escapesNext t) := by
  by_cases hc : c = '\\'
  · simp only [escapesNext, List.reverse_append, List.reverse_singleton, List.singleton_append,
      List.takeWhile_cons, hc, decide_true, if_true, List.length_cons, Bool.true_and]
    rw [← decide_not, decide_eq_decide]
    omega
  · simp [escapesNext, hc]

theorem getLast?_of_escapesNext {t : Text} (h : escapesNext t = true) :
    t.getLast? = some '\\' := by
  rcases List.eq_nil_or_concat' t with rfl | ⟨s, c, rfl⟩
  · cases h
  · rw [escapesNext_concat, Bool.and_eq_true, decide_eq_true_iff] at h
    simp [h.1]

/-- A place right behind a backslash is escaped, or stands behind an escaped backslash. -/
theorem getLast?_eq_backslash_iff {t : Text} :
    t.getLast? = some '\\' ↔ escapesNext t = true ∨ ['\\', '\\'] <:+ t := by
  constructor
  · intro h
    obtain ⟨s, rfl⟩ := List.getLast?_eq_some_iff.1 h
    cases hs : escapesNext s with
    | false => exact .inl (by simp [hs])
    | true =>
      obtain ⟨r, rfl⟩ := List.getLast?_eq_some_iff.1 (getLast?_of_escapesNext hs)
      exact .inr ⟨r, by simp⟩
  · rintro (h | ⟨r, rfl⟩)
    · exact getLast?_of_escapesNext h
    · simp

/-! ### Places of a character -/

/-- What stands before the places of a character in a text with one more character in front. -/
theorem forall_before_cons {c d : Char} {t : Text} {P : Text → Prop} :
    (∀ s u, d :: t = s ++ c :: u → P s) ↔
      (d = c → P []) ∧ ∀ s u, t = s ++ c :: u → P (d :: s) := by
  constructor
  · intro h
    refine ⟨?_, ?_⟩
    · rintro rfl
      exact h [] t rfl
    · rintro s u rfl
      exact h (d :: s) u rfl
  · rintro ⟨hhere, hrest⟩ s u h
    rcases s with _ | ⟨e, s⟩
    · cases h
      exact hhere rfl
    · cases h
      exact hrest s u rfl

end ContentBlocker.Text
