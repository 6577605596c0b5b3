import ContentBlocker.Proofs.Text.Searching
import ContentBlocker.Proofs.Text.Splitting

/-!
# What replacing changes

Replacing every occurrence of a text puts the new text between the same parts.

* `replaceAll_eq_intercalate` shows these parts, and `IsReplaced` says the same of a text and what
  it becomes;
* `replaceAll_self_append` and `IsFirst.replaceAll_eq` replace from the left;
* `replaceAll_eq_self_iff`: nothing changes just if there is nothing to replace, or nothing new;
* `replaceAll_escapeDelimiters` takes the escapes away that were put before delimiters.
-/

namespace ContentBlocker.Text

variable {old new : Text}

/-! ### The parts of a text -/

theorem replaceFrom_eq_intercalate (old new : Text) (skip : ℕ) (t : Text) :
    replaceFrom old new skip t = new.intercalate (piecesFrom old skip t) := by
  induction t generalizing skip with
  | nil => simp [replaceFrom, piecesFrom]
  | cons c t ih =>
    have hne := piecesFrom_ne_nil old
    cases skip with
    | zero =>
      rw [replaceFrom, piecesFrom]
      split_ifs
      · rw [List.intercalate_cons_of_ne_nil (hne _ _), ih]
        rfl
      · rw [intercalate_modifyHead (hne _ t), ih]
    | succ skip => rw [replaceFrom, piecesFrom, ih]

/-- The new text stands between the parts that the old one stood between. -/
theorem replaceAll_eq_intercalate (old new t : Text) :
    replaceAll old new t = new.intercalate (pieces old t) :=
  replaceFrom_eq_intercalate old new 0 t

/-- The text `t` becomes `u` when `old` is replaced by `new`: both have the same parts, in which
nothing is left to replace, one with `old` between them and the other with `new`. -/
def IsReplaced (old new t u : Text) : Prop :=
  ∃ parts : List Text, (∀ part ∈ parts, ¬old <:+: part) ∧
    t = old.intercalate parts ∧ u = new.intercalate parts

theorem isReplaced_replaceAll (hold : old ≠ []) (new t : Text) :
    IsReplaced old new t (replaceAll old new t) :=
  ⟨pieces old t, fun _ => not_infix_of_mem_piecesFrom hold,
    (intercalate_piecesFrom hold 0 t).symm, replaceAll_eq_intercalate old new t⟩

/-! ### From the left -/

theorem replaceAll_self_append (hold : old ≠ []) (new t : Text) :
    replaceAll old new (old ++ t) = new ++ replaceAll old new t := by
  have hne : pieces old t ≠ [] := piecesFrom_ne_nil old 0 t
  rw [replaceAll_eq_intercalate, replaceAll_eq_intercalate, pieces_sep_append hold,
    List.intercalate_cons_of_ne_nil hne]
  rfl

/-- The first occurrence is replaced, and then those behind it. -/
theorem IsFirst.replaceAll_eq {t before after : Text} (hold : old ≠ [])
    (h : IsFirst old t before after) (new : Text) :
    replaceAll old new t = before ++ (new ++ replaceAll old new after) := by
  obtain rfl := h.eq
  induction before with
  | nil => exact replaceAll_self_append hold new after
  | cons c before ih =>
    obtain ⟨hno, hrest⟩ := h.cons_inv
    have hih := ih hrest
    rw [replaceAll] at hih ⊢
    rw [List.cons_append, replaceFrom, if_neg (by rwa [List.isPrefixOf_iff_prefix]), hih]
    rfl

/-! ### Texts that stay as they are -/

theorem length_flatMap_append (sep : Text) (parts : List Text) :
    (parts.flatMap (sep ++ ·)).length =
      parts.length * sep.length + (parts.map List.length).sum := by
  induction parts with
  | nil => simp
  | cons part parts ih =>
    simp only [List.flatMap_cons, List.length_append, List.length_cons, List.map_cons,
      List.sum_cons, ih, Nat.add_mul]
    omega

/-- Behind other separators the same parts give another text. -/
theorem flatMap_append_inj {parts : List Text} (hne : parts ≠ [])
    (h : parts.flatMap (new ++ ·) = parts.flatMap (old ++ ·)) : new = old := by
  obtain ⟨part, parts, rfl⟩ := List.exists_cons_of_ne_nil hne
  have hlength := congrArg List.length h
  rw [length_flatMap_append, length_flatMap_append, Nat.add_right_cancel_iff] at hlength
  have hsame : new.length = old.length := Nat.eq_of_mul_eq_mul_left (Nat.succ_pos _) hlength
  rw [List.flatMap_cons, List.flatMap_cons, List.append_assoc, List.append_assoc] at h
  exact (List.append_inj h hsame).1

/-- Replacing leaves a text as it is just if the new text is the old one, or the old one does not
occur. -/
theorem replaceAll_eq_self_iff (hold : old ≠ []) {t : Text} :
    replaceAll old new t = t ↔ new = old ∨ ¬old <:+: t := by
  obtain ⟨part, parts, hparts⟩ := List.exists_cons_of_ne_nil (piecesFrom_ne_nil old 0 t)
  have ht : t = part ++ parts.flatMap (old ++ ·) := by
    rw [← intercalate_cons_flatMap, ← hparts, intercalate_piecesFrom hold, List.drop_zero]
  have hreplaced : replaceAll old new t = part ++ parts.flatMap (new ++ ·) := by
    rw [replaceAll_eq_intercalate, pieces, hparts, intercalate_cons_flatMap]
  have hpart : ¬old <:+: part :=
    not_infix_of_mem_piecesFrom hold (hparts ▸ List.mem_cons_self)
  constructor
  · intro h
    rw [hreplaced] at h
    rcases parts with _ | ⟨part', parts⟩
    · right
      simpa [ht] using hpart
    · exact .inl (flatMap_append_inj (List.cons_ne_nil _ _) (List.append_cancel_left (h.trans ht)))
  · rintro (rfl | hno)
    · rw [hreplaced, ← ht]
    · rcases parts with _ | ⟨part', parts⟩
      · rw [hreplaced, ht]
        rfl
      · refine absurd ?_ hno
        rw [ht]
        exact ⟨part, part' ++ parts.flatMap (old ++ ·), by simp⟩

/-! ### Escaped delimiters -/

section Escapes

variable {delimiter escape : Char} (hne : delimiter ≠ escape)

@[simp] theorem escapeDelimiters_nil : escapeDelimiters delimiter escape [] = [] := rfl

theorem escapeDelimiters_cons_delimiter (t : Text) :
    escapeDelimiters delimiter escape (delimiter :: t) =
      [escape, delimiter] ++ escapeDelimiters delimiter escape t := by
  simp [escapeDelimiters]

theorem escapeDelimiters_cons_of_ne {c : Char} (hc : c ≠ delimiter) (t : Text) :
    escapeDelimiters delimiter escape (c :: t) = c :: escapeDelimiters delimiter escape t := by
  simp [escapeDelimiters, hc]

include hne

theorem head?_escapeDelimiters (t : Text) :
    (escapeDelimiters delimiter escape t).head? ≠ some delimiter := by
  rcases t with _ | ⟨c, t⟩
  · simp
  · by_cases hc : c = delimiter
    · rw [hc, escapeDelimiters_cons_delimiter]
      simpa using Ne.symm hne
    · rw [escapeDelimiters_cons_of_ne hc]
      simpa using hc

/-- An escape stands right before every delimiter. -/
theorem getLast?_of_escapeDelimiters {t u v : Text}
    (h : escapeDelimiters delimiter escape t = u ++ delimiter :: v) : u.getLast? = some escape := by
  induction t generalizing u with
  | nil => simp at h
  | cons c t ih =>
    by_cases hc : c = delimiter
    · rw [hc, escapeDelimiters_cons_delimiter] at h
      -- the delimiter is the one behind the escape, or one in what follows
      rcases u with _ | ⟨d, _ | ⟨e, u⟩⟩
      · exact absurd (List.cons.inj h).1.symm hne
      · rw [(List.cons.inj h).1]
        rfl
      · have hrest := ih (List.cons.inj (List.cons.inj h).2).2
        simp [List.getLast?_cons, hrest]
    · rw [escapeDelimiters_cons_of_ne hc] at h
      rcases u with _ | ⟨d, u⟩
      · exact absurd (List.cons.inj h).1 hc
      · have hrest := ih (List.cons.inj h).2
        simp [List.getLast?_cons, hrest]

/-- The escapes that were put before delimiters are taken away again. -/
theorem replaceAll_escapeDelimiters (t : Text) :
    replaceAll [escape, delimiter] [delimiter] (escapeDelimiters delimiter escape t) = t := by
  induction t with
  | nil => rfl
  | cons c t ih =>
    by_cases hc : c = delimiter
    · rw [hc, escapeDelimiters_cons_delimiter, replaceAll_self_append (List.cons_ne_nil _ _), ih]
      rfl
    · have hstart : ¬[escape, delimiter].isPrefixOf
          (c :: escapeDelimiters delimiter escape t) = true := by
        have hhead := head?_escapeDelimiters hne t
        rw [List.isPrefixOf_iff_prefix, List.cons_prefix_cons]
        rintro ⟨-, u, hu⟩
        rw [← hu] at hhead
        exact hhead rfl
      rw [replaceAll] at ih ⊢
      rw [escapeDelimiters_cons_of_ne hc, replaceFrom, if_neg hstart, ih]

end Escapes
end ContentBlocker.Text
