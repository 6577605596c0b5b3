import ContentBlocker.Pattern.Compile
import ContentBlocker.Proofs.Text.Ends

/-!
# The atoms of a pattern

The compiler of patterns rewrites the whole text in several passes, each of which sees what the
passes before have written.  Together they write a pattern atom by atom.

* `Atom` are the pieces of a pattern, and `Atom.text` is how each of them is written;
* `atoms` are the atoms of a pattern in order;
* `compile_eq` says that a pattern is written atom by atom.
-/

namespace ContentBlocker.Pattern

/-- A piece of a pattern. -/
inductive Atom where
  /-- The anchor `||`. -/
  | hostStart
  /-- The anchor `|` at the start. -/
  | start
  /-- The anchor `|` at the end. -/
  | stop
  /-- The mask `*`. -/
  | any
  /-- The mask `^`. -/
  | separator
  /-- A character that is no mask, for itself. -/
  | literal (c : Char) (h : c ≠ '*' ∧ c ≠ '^')
  deriving DecidableEq, Repr

namespace Atom

/-- An atom as a regular expression. -/
def text : Atom → Text
  | hostStart => Pattern.hostStart
  | start => ['^']
  | stop => ['$']
  | any => anything
  | separator => Pattern.separator
  | literal c _ => if c = '|' ∨ c ∈ specials then ['\\', c] else [c]

/-- The atom that a character stands for between the anchors. -/
def ofChar (c : Char) : Atom :=
  if h : c = '*' then any else if h' : c = '^' then separator else literal c ⟨h, h'⟩

/-- No atom begins with a `|` or with a question mark. -/
theorem head?_text (a : Atom) (t : Text) :
    (a.text ++ t).head? ≠ some '|' ∧ (a.text ++ t).head? ≠ some '?' := by
  obtain ⟨d, u, he, hd⟩ : ∃ d u, a.text = d :: u ∧ d ≠ '|' ∧ d ≠ '?' := by
    cases a with
    | hostStart => exact ⟨'^', _, rfl, by decide⟩
    | start => exact ⟨'^', [], rfl, by decide⟩
    | stop => exact ⟨'$', [], rfl, by decide⟩
    | any => exact ⟨'.', ['*'], rfl, by decide⟩
    | separator => exact ⟨'[', _, rfl, by decide⟩
    | literal c _ =>
      rw [text]
      split_ifs with hc
      · exact ⟨'\\', [c], rfl, by decide⟩
      · refine ⟨c, [], rfl, fun hp => hc (.inl hp), ?_⟩
        rintro rfl
        exact hc (.inr (by decide))
  rw [he]
  simpa using hd

end Atom

/-! ### The anchors -/

/-- What a pattern holds behind the anchor at its start. -/
def body (p : Text) : Text :=
  if ['|', '|'].isPrefixOf p then p.drop 2 else if ['|'].isPrefixOf p then p.drop 1 else p

/-- The atom of the anchor at the start of a pattern. -/
def startAtoms (p : Text) : List Atom :=
  if ['|', '|'].isPrefixOf p then [.hostStart] else if ['|'].isPrefixOf p then [.start] else []

/-- The characters of a pattern between its anchors. -/
def units (p : Text) : Text :=
  if (body p).getLast? = some '|' then (body p).dropLast else body p

/-- The atom of the anchor at the end of a pattern. -/
def endAtoms (p : Text) : List Atom := if (body p).getLast? = some '|' then [.stop] else []

/-- The atoms of a pattern. -/
def atoms (p : Text) : List Atom := startAtoms p ++ (units p).map Atom.ofChar ++ endAtoms p

/-- The three kinds of starts. -/
theorem startMask_cases (p : Text) :
    (startMask p = ['|', '|'] ∧ startAtoms p = [.hostStart]) ∨
      (startMask p = ['|'] ∧ startAtoms p = [.start]) ∨ startMask p = [] ∧ startAtoms p = [] := by
  unfold startMask startAtoms
  split_ifs
  · exact .inl ⟨rfl, rfl⟩
  · exact .inr (.inl ⟨rfl, rfl⟩)
  · exact .inr (.inr ⟨rfl, rfl⟩)

theorem body_eq (p : Text) : body p = p.drop (startMask p).length := by
  unfold body startMask
  split_ifs <;> rfl

theorem startMask_append_body (p : Text) : startMask p ++ body p = p := by
  have h : startMask p <+: p := by
    unfold startMask
    split_ifs with h₁ h₂
    · exact List.isPrefixOf_iff_prefix.1 h₁
    · exact List.isPrefixOf_iff_prefix.1 h₂
    · exact List.nil_prefix
  rw [body_eq, List.prefix_iff_eq_append.1 h]

/-- A `|` behind the anchor at the start stands behind `||` only. -/
theorem startMask_of_head?_body {p : Text} (h : (body p).head? = some '|') :
    startMask p = ['|', '|'] := by
  have hp := startMask_append_body p
  obtain ⟨q, hq⟩ : ∃ q, body p = '|' :: q := by
    rcases hb : body p with _ | ⟨c, q⟩
    · simp [hb] at h
    · obtain rfl : c = '|' := by simpa [hb] using h
      exact ⟨q, rfl⟩
  rcases startMask_cases p with ⟨hs, -⟩ | ⟨hs, -⟩ | ⟨hs, -⟩
  · exact hs
  · rw [hs, hq] at hp
    simp [startMask, ← hp] at hs
  · rw [hs, hq] at hp
    rw [← hp] at hs
    unfold startMask at hs
    split_ifs at hs with h₁ h₂
    simp at h₂

/-! ### One pass behind another -/

@[simp] theorem escapeSpecials_append (s t : Text) :
    escapeSpecials (s ++ t) = escapeSpecials s ++ escapeSpecials t := List.flatMap_append ..

@[simp] theorem escapePipes_append (s t : Text) :
    escapePipes (s ++ t) = escapePipes s ++ escapePipes t := List.flatMap_append ..

@[simp] theorem writeMasks_append (s t : Text) :
    writeMasks (s ++ t) = writeMasks s ++ writeMasks t := by
  simp [writeMasks, List.flatMap_append]

theorem pipe_not_special : '|' ∉ specials := by decide

theorem escapeSpecials_pipe (t : Text) : escapeSpecials ('|' :: t) = '|' :: escapeSpecials t := by
  simp [escapeSpecials, pipe_not_special]

/-- Escaping puts no `|` in front. -/
theorem head?_escapeSpecials {c : Char} (hc : c ≠ '|') (t : Text) :
    (escapeSpecials (c :: t)).head? ≠ some '|' := by
  by_cases hs : c ∈ specials
  · simp [escapeSpecials, hs]
  · simpa [escapeSpecials, hs] using hc

theorem isPrefixOf_pipe_escapeSpecials (t : Text) :
    ['|'].isPrefixOf (escapeSpecials t) = ['|'].isPrefixOf t := by
  rcases t with _ | ⟨c, t⟩
  · rfl
  · by_cases hc : c = '|'
    · rw [hc, escapeSpecials_pipe]
      rfl
    · rw [Text.isPrefixOf_of_head? (head?_escapeSpecials hc t),
        Text.isPrefixOf_of_head? (by simpa using hc)]

theorem isPrefixOf_pipes_escapeSpecials (t : Text) :
    ['|', '|'].isPrefixOf (escapeSpecials t) = ['|', '|'].isPrefixOf t := by
  rcases t with _ | ⟨c, t⟩
  · rfl
  · by_cases hc : c = '|'
    · rw [hc, escapeSpecials_pipe, List.isPrefixOf_cons_cons, List.isPrefixOf_cons_cons,
        isPrefixOf_pipe_escapeSpecials]
    · rw [Text.isPrefixOf_of_head? (head?_escapeSpecials hc t),
        Text.isPrefixOf_of_head? (by simpa using hc)]

/-- Escaping adds no anchor and hides none. -/
theorem startMask_escapeSpecials (p : Text) : startMask (escapeSpecials p) = startMask p := by
  simp only [startMask, isPrefixOf_pipes_escapeSpecials, isPrefixOf_pipe_escapeSpecials]

/-- The anchor at the start goes through the passes unchanged. -/
theorem passes_startMask (p : Text) :
    escapeSpecials (startMask p) = startMask p ∧ writeMasks (startMask p) = startMask p := by
  rcases startMask_cases p with ⟨hs, -⟩ | ⟨hs, -⟩ | ⟨hs, -⟩ <;> rw [hs] <;> decide

theorem drop_escapeSpecials (p : Text) :
    (escapeSpecials p).drop (startMask p).length = escapeSpecials (body p) := by
  have h : escapeSpecials p = startMask p ++ escapeSpecials (body p) := by
    conv_lhs => rw [← startMask_append_body p]
    rw [escapeSpecials_append, (passes_startMask p).1]
  rw [h, List.drop_left]

/-! ### One character through all passes -/

/-- The last character of a pattern is not escaped if it is a `|`. -/
def lastText (c : Char) : Text := if c = '|' then ['|'] else (Atom.ofChar c).text

theorem writeMasks_escaped (c : Char) :
    writeMasks (escapePipes (escapeSpecials [c])) = (Atom.ofChar c).text := by
  by_cases hs : c ∈ specials
  · have hall : (specials.all fun c =>
        writeMasks (escapePipes (escapeSpecials [c])) = (Atom.ofChar c).text) = true := by decide
    exact of_decide_eq_true (List.all_eq_true.1 hall c hs)
  · by_cases hp : c = '|'
    · subst hp
      decide
    · by_cases ha : c = '*'
      · subst ha
        decide
      · by_cases hc : c = '^'
        · subst hc
          decide
        · simp [escapeSpecials, escapePipes, writeMasks, Atom.ofChar, Atom.text, hs, hp, ha, hc]

theorem writeMasks_last (c : Char) : writeMasks (escapeSpecials [c]) = lastText c := by
  by_cases hp : c = '|'
  · subst hp
    decide
  · have he : escapePipes (escapeSpecials [c]) = escapeSpecials [c] := by
      by_cases hs : c ∈ specials <;> simp [escapeSpecials, escapePipes, hs, hp]
    rw [lastText, if_neg hp, ← writeMasks_escaped, he]

theorem writeMasks_flatMap (m : Text) :
    writeMasks (escapePipes (escapeSpecials m)) = m.flatMap fun c => (Atom.ofChar c).text := by
  induction m with
  | nil => rfl
  | cons c m ih =>
    rw [← List.singleton_append, escapeSpecials_append, escapePipes_append, writeMasks_append,
      writeMasks_escaped, ih, List.flatMap_append, List.flatMap_singleton]

/-- What stands behind the anchor at the start, with the last character set apart. -/
theorem writeMasks_body (m : Text) (c : Char) :
    writeMasks (escapePipes (escapeSpecials (m ++ [c])).dropLast ++
        (escapeSpecials (m ++ [c])).getLast?.toList) =
      (m.flatMap fun c => (Atom.ofChar c).text) ++ lastText c := by
  -- only the backslash before the last character is left to the pass over pipes
  have hlast : escapePipes (escapeSpecials [c]).dropLast ++ [c] = escapeSpecials [c] := by
    by_cases hs : c ∈ specials
    · simp [escapeSpecials, escapePipes, hs]
    · simp [escapeSpecials, escapePipes, hs]
  have hget : (escapeSpecials (m ++ [c])).getLast? = some c := by
    by_cases hs : c ∈ specials <;> simp [escapeSpecials, hs]
  have hne : escapeSpecials [c] ≠ [] := by
    by_cases hs : c ∈ specials <;> simp [escapeSpecials, hs]
  rw [hget, escapeSpecials_append, List.dropLast_append_of_ne_nil hne, escapePipes_append,
    List.append_assoc, Option.toList_some, hlast, writeMasks_append, writeMasks_flatMap,
    writeMasks_last]

/-! ### The ends -/

/-- A written character ends with a `|` only if it is one. -/
theorem getLast?_text_ofChar {c : Char} (hc : c ≠ '|') (t : Text) :
    (t ++ (Atom.ofChar c).text).getLast? ≠ some '|' := by
  obtain ⟨u, d, he, hd⟩ : ∃ u d, (Atom.ofChar c).text = u ++ [d] ∧ d ≠ '|' := by
    unfold Atom.ofChar
    split_ifs
    · exact ⟨['.'], '*', rfl, by decide⟩
    · exact ⟨"[/:&?]", '?', rfl, by decide⟩
    · rw [Atom.text]
      split_ifs
      · exact ⟨['\\'], c, rfl, hc⟩
      · exact ⟨[], c, rfl, hc⟩
  rw [he, ← List.append_assoc, List.getLast?_concat]
  simpa using hd

theorem writeStart_append (p : Text) {t : Text}
    (h : t.head? = some '|' → startMask p = ['|', '|']) :
    writeStart (startMask p ++ t) = (startAtoms p).flatMap Atom.text ++ t := by
  have hpipes : ∀ u, Text.stripStart? ['|', '|'] ('|' :: '|' :: u) = some u :=
    Text.stripStart?_append ['|', '|']
  have hpipe : ∀ u, Text.stripStart? ['|'] ('|' :: u) = some u := Text.stripStart?_append ['|']
  rcases startMask_cases p with ⟨hs, ha⟩ | ⟨hs, ha⟩ | ⟨hs, ha⟩
  · rw [hs, ha]
    show writeStart ('|' :: '|' :: t) = _
    simp only [writeStart, hpipes]
    rfl
  · have ht : t.head? ≠ some '|' := fun ht => by simp [h ht] at hs
    have hno : Text.stripStart? ['|', '|'] ('|' :: t) = none := by
      simp [Text.stripStart?, List.isPrefixOf, Text.isPrefixOf_of_head? ht]
    rw [hs, ha]
    show writeStart ('|' :: t) = _
    simp only [writeStart, hno, hpipe]
    rfl
  · have ht : t.head? ≠ some '|' := fun ht => by simp [h ht] at hs
    rw [hs, ha]
    show writeStart t = t
    simp only [writeStart, Text.stripStart?_of_head? ht]

theorem writeEnd_pipe (t : Text) : writeEnd (t ++ ['|']) = t ++ ['$'] := by
  simp [writeEnd]

theorem writeEnd_of_getLast? {t : Text} (h : t.getLast? ≠ some '|') : writeEnd t = t := by
  simp [writeEnd, Text.stripEnd?_of_getLast? h]

/-- **A pattern is written atom by atom.** -/
theorem compile_eq {p : Text} (hp : p ∉ matchAll) : compile p = (atoms p).flatMap Atom.text := by
  rw [compile, if_neg (by simpa using hp)]
  simp only [startMask_escapeSpecials, drop_escapeSpecials]
  rcases List.eq_nil_or_concat (body p) with hb | ⟨m, c, hb⟩
  · -- nothing but an anchor: two of the patterns that every address matches, or the empty one
    have hs := startMask_append_body p
    rw [hb, List.append_nil] at hs
    rcases startMask_cases p with ⟨h, -⟩ | ⟨h, -⟩ | ⟨h, -⟩
    · exact absurd (by rw [← hs, h]; decide) hp
    · exact absurd (by rw [← hs, h]; decide) hp
    · rw [← hs, h]
      decide
  · -- what follows the anchor begins with a bare pipe only if it is nothing else
    have hhead : ((m.flatMap fun c => (Atom.ofChar c).text) ++ lastText c).head? = some '|' →
        startMask p = ['|', '|'] := by
      rcases m with _ | ⟨d, m⟩
      · by_cases hc : c = '|'
        · intro _
          exact startMask_of_head?_body (by simp [hb, hc])
        · rw [lastText, if_neg hc]
          intro h
          exact absurd (by simpa using h) ((Atom.ofChar c).head?_text []).1
      · rw [List.flatMap_cons, List.append_assoc]
        intro h
        exact absurd h ((Atom.ofChar d).head?_text _).1
    rw [List.append_assoc, writeMasks_append, (passes_startMask p).2, hb, List.concat_eq_append,
      writeMasks_body, writeStart_append p hhead, atoms, units, endAtoms, hb]
    by_cases hc : c = '|'
    · subst hc
      rw [lastText, if_pos rfl, ← List.append_assoc, writeEnd_pipe]
      simp [List.flatMap_map, Atom.text]
    · rw [lastText, if_neg hc, ← List.append_assoc,
        writeEnd_of_getLast? (getLast?_text_ofChar hc _)]
      simp [List.flatMap_map, hc]

end ContentBlocker.Pattern
