import ContentBlocker.Text.Escaped
import Mathlib.Tactic

/-!
# Splitting what was joined

Texts are joined by a delimiter, with an escape before every delimiter that is part of a text.
Splitting at the delimiters that no escape stands before gives the texts back.

* `intercalate_cons_eq` and `intercalate_append_cons` show the delimiters of joined texts;
* `escapeDelimiters` is a text with its delimiters escaped, and `joinEscaped` joins such texts;
* `foldl_step_escapeDelimiters` reads one of them into the current part, and `foldl_step_part` reads
  it up to the next delimiter;
* `AreParts` says that nothing is lost when texts are joined, and `splitEscaped_joinEscaped` that
  splitting undoes joining.
-/

namespace ContentBlocker.Text

/-! ### Joined texts -/

theorem intercalate_cons_flatMap (sep t : Text) (after : List Text) :
    sep.intercalate (t :: after) = t ++ after.flatMap (sep ++ ·) := by
  induction after generalizing t with
  | nil => simp
  | cons u after ih =>
    rw [List.intercalate_cons_cons, ih]
    simp

section Joining

variable (c : Char)

theorem intercalate_cons_eq (t : Text) (after : List Text) :
    [c].intercalate (t :: after) = t ++ after.flatMap (c :: ·) :=
  intercalate_cons_flatMap [c] t after

theorem intercalate_append_cons (before : List Text) (t : Text) (after : List Text) :
    [c].intercalate (before ++ t :: after) =
      (before.flatMap (· ++ [c])) ++ (t ++ after.flatMap (c :: ·)) := by
  induction before with
  | nil => exact intercalate_cons_eq c t after
  | cons b before ih =>
    rw [List.cons_append, List.intercalate_cons_of_ne_nil (by simp), ih]
    simp

/-- The first part of a text goes to the first separator. -/
theorem splitOn_eq_cons (t : Text) :
    ∃ rest, t.splitOn c = t.takeWhile (· ≠ c) :: rest := by
  induction t with
  | nil => exact ⟨[], by simp⟩
  | cons d t ih =>
    obtain ⟨rest, ih⟩ := ih
    rw [List.splitOn] at ih ⊢
    rw [List.splitOnP_cons_eq_if_modifyHead, ih]
    by_cases h : d = c
    · exact ⟨t.takeWhile (· ≠ c) :: rest, by simp [h]⟩
    · exact ⟨rest, by simp [h]⟩

end Joining

/-! ### Escaped delimiters -/

/-- A text with an escape before every delimiter. -/
def escapeDelimiters (delimiter escape : Char) (t : Text) : Text :=
  t.flatMap fun c => if c = delimiter then [escape, c] else [c]

section Splitting

variable {delimiter escape : Char} {keepEmpty : Bool}

theorem escapeDelimiters_of_notMem {t : Text} (h : delimiter ∉ t) :
    escapeDelimiters delimiter escape t = t := by
  induction t with
  | nil => rfl
  | cons c t ih =>
    rw [List.mem_cons, not_or] at h
    have hcons : escapeDelimiters delimiter escape (c :: t) =
        c :: escapeDelimiters delimiter escape t := by
      simp [escapeDelimiters, Ne.symm h.1]
    rw [hcons, ih h.2]

variable (hne : delimiter ≠ escape)
include hne

/-- An escaped text is read into the current part as it was before. -/
theorem foldl_step_escapeDelimiters (t : Text) (s : Splitting) :
    (escapeDelimiters delimiter escape t).foldl (Splitting.step delimiter escape keepEmpty) s =
      ⟨s.parts, t.reverse ++ s.current, t.getLast?.or s.before⟩ := by
  induction t generalizing s with
  | nil => rfl
  | cons c t ih =>
    have hread : (if c = delimiter then [escape, c] else [c]).foldl
        (Splitting.step delimiter escape keepEmpty) s = ⟨s.parts, c :: s.current, some c⟩ := by
      by_cases hc : c = delimiter
      · -- the escape is read first, and the delimiter takes its place
        simp [Splitting.step, hc, Ne.symm hne]
      · simp [Splitting.step, hc]
    rw [escapeDelimiters, List.flatMap_cons, List.foldl_append, hread]
    refine (ih _).trans ?_
    rw [List.getLast?_cons]
    cases t.getLast? <;> simp

/-- A text is a part of its own when a delimiter follows, if an empty one is kept and stands behind
another delimiter. -/
theorem foldl_step_part {t : Text} {before : Option Char} (hclosed : t.getLast? ≠ some escape)
    (hempty : t = [] → keepEmpty = true ∧ before = some delimiter) (parts : List Text) :
    (escapeDelimiters delimiter escape t ++ [delimiter]).foldl
        (Splitting.step delimiter escape keepEmpty) ⟨parts, [], before⟩ =
      ⟨t :: parts, [], some delimiter⟩ := by
  rw [List.foldl_append, foldl_step_escapeDelimiters hne, List.foldl_cons, List.foldl_nil]
  rcases List.eq_nil_or_concat' t with rfl | ⟨u, c, rfl⟩
  · obtain ⟨rfl, rfl⟩ := hempty rfl
    simp [Splitting.step, hne]
  · have hc : c ≠ escape := by simpa using hclosed
    simp [Splitting.step, hc]

end Splitting

/-! ### Parts -/

/-- Texts joined by the delimiter, each with an escape before every delimiter. -/
def joinEscaped (delimiter escape : Char) (ts : List Text) : Text :=
  [delimiter].intercalate (ts.map (escapeDelimiters delimiter escape))

/-- Nothing is lost when these texts are joined: none of them ends with the escape, and an empty one
is kept and is neither the first nor the last. -/
structure AreParts (escape : Char) (keepEmpty : Bool) (ts : List Text) : Prop where
  closed : ∀ t ∈ ts, t.getLast? ≠ some escape
  kept : [] ∈ ts → keepEmpty = true
  first : ts.head? ≠ some []
  last : ts.getLast? ≠ some []

section Parts

variable {delimiter escape : Char} {keepEmpty : Bool} {ts : List Text}

theorem areParts_of_ne_nil (h : ∀ t ∈ ts, t ≠ [] ∧ t.getLast? ≠ some escape) :
    AreParts escape keepEmpty ts where
  closed t ht := (h t ht).2
  kept hnil := absurd rfl (h [] hnil).1
  first hfirst := (h [] (List.mem_of_head? hfirst)).1 rfl
  last hlast := (h [] (List.mem_of_getLast? hlast)).1 rfl

/-- Joined texts are read behind the parts that are complete.  If the first of them is empty, a
delimiter was read right before. -/
theorem foldl_step_joinEscaped (hne : delimiter ≠ escape)
    (hclosed : ∀ t ∈ ts, t.getLast? ≠ some escape) (hkept : [] ∈ ts → keepEmpty = true)
    (hlast : ts.getLast? ≠ some []) (parts : List Text) {before : Option Char}
    (hfirst : ts.head? = some [] → before = some delimiter) :
    ((joinEscaped delimiter escape ts).foldl (Splitting.step delimiter escape keepEmpty)
      ⟨parts, [], before⟩).finish = parts.reverse ++ ts := by
  induction ts generalizing parts before with
  | nil => simp [joinEscaped, Splitting.finish]
  | cons t ts ih =>
    obtain ⟨ht, hts⟩ := List.forall_mem_cons.1 hclosed
    rcases ts with _ | ⟨u, us⟩
    · have hnil : t ≠ [] := by simpa using hlast
      simp [joinEscaped, foldl_step_escapeDelimiters hne, Splitting.finish, hnil]
    · have hempty : t = [] → keepEmpty = true ∧ before = some delimiter := by
        rintro rfl
        exact ⟨hkept (by simp), hfirst rfl⟩
      have hjoin : joinEscaped delimiter escape (t :: u :: us) =
          (escapeDelimiters delimiter escape t ++ [delimiter]) ++
            joinEscaped delimiter escape (u :: us) := by
        simp [joinEscaped, List.intercalate_cons_cons]
      have hrest := ih hts (fun h => hkept (List.mem_cons_of_mem _ h))
        (by simpa [List.getLast?_cons_cons] using hlast) (t :: parts) fun _ => rfl
      rw [hjoin, List.foldl_append, foldl_step_part hne ht hempty, hrest]
      simp

theorem AreParts.splitEscaped_eq (h : AreParts escape keepEmpty ts) (hne : delimiter ≠ escape) :
    splitEscaped delimiter escape keepEmpty (joinEscaped delimiter escape ts) = ts :=
  foldl_step_joinEscaped hne h.closed h.kept h.last [] fun hfirst => absurd hfirst h.first

/-- Splitting undoes joining, if no text is empty or ends with the escape. -/
theorem splitEscaped_intercalate (hne : delimiter ≠ escape)
    (h : ∀ t ∈ ts, t ≠ [] ∧ t.getLast? ≠ some escape) :
    splitEscaped delimiter escape keepEmpty
      ([delimiter].intercalate (ts.map (escapeDelimiters delimiter escape))) = ts :=
  (areParts_of_ne_nil h).splitEscaped_eq hne

end Parts

/-! ### Empty parts -/

/-- A step that keeps no empty parts completes none. -/
theorem Splitting.step_parts_ne_nil {s : Splitting} (h : ∀ t ∈ s.parts, t ≠ [])
    (delimiter escape c : Char) : ∀ t ∈ (s.step delimiter escape false c).parts, t ≠ [] := by
  unfold Splitting.step
  split_ifs with _ _ _ hkept
  · exact h
  · exact h
  · have hcurrent : s.current ≠ [] := by simpa using hkept
    exact List.forall_mem_cons.2 ⟨by simpa using hcurrent, h⟩
  · exact h
  · exact h

theorem splitEscaped_ne_nil (delimiter escape : Char) (t : Text) :
    ∀ part ∈ splitEscaped delimiter escape false t, part ≠ [] := by
  have hparts : ∀ s : Splitting, (∀ part ∈ s.parts, part ≠ []) →
      ∀ part ∈ (t.foldl (Splitting.step delimiter escape false) s).parts, part ≠ [] := by
    induction t with
    | nil => exact fun s h => h
    | cons c t ih => exact fun s h => ih _ (Splitting.step_parts_ne_nil h delimiter escape c)
  have hread := hparts ⟨[], [], none⟩ (by simp)
  unfold splitEscaped Splitting.finish
  split_ifs with hcurrent
  · simpa using hread
  · have hne : (t.foldl (Splitting.step delimiter escape false) ⟨[], [], none⟩).current ≠ [] := by
      simpa using hcurrent
    intro part hpart
    rcases List.mem_cons.1 (List.mem_reverse.1 hpart) with rfl | hpart
    · simpa using hne
    · exact hread part hpart

/-- **Splitting undoes joining.**  Texts that are not empty and do not end with the escape are given
back, whether or not empty parts are kept; if they are, texts between the first and the last may be
empty; and if they are not, no text at all has an empty part. -/
theorem splitEscaped_joinEscaped (delimiter escape : Char) :
    (delimiter ≠ escape →
      (∀ (keepEmpty : Bool) (ts : List Text), (∀ t ∈ ts, t ≠ [] ∧ t.getLast? ≠ some escape) →
        splitEscaped delimiter escape keepEmpty (joinEscaped delimiter escape ts) = ts) ∧
      ∀ ts : List Text, (∀ t ∈ ts, t.getLast? ≠ some escape) →
        ts.head? ≠ some [] → ts.getLast? ≠ some [] →
        splitEscaped delimiter escape true (joinEscaped delimiter escape ts) = ts) ∧
    ∀ t : Text, [] ∉ splitEscaped delimiter escape false t := by
  refine ⟨fun hne => ⟨fun keepEmpty ts h => ?_, fun ts hclosed hfirst hlast => ?_⟩, fun t hmem => ?_⟩
  · exact (areParts_of_ne_nil h).splitEscaped_eq hne
  · have hparts : AreParts escape true ts := ⟨hclosed, fun _ => rfl, hfirst, hlast⟩
    exact hparts.splitEscaped_eq hne
  · exact splitEscaped_ne_nil delimiter escape t [] hmem rfl

/-- Delimiters at both ends of a text, an escape inside of one, and an empty text between them. -/
theorem splitEscaped_joinEscaped_empty :
    let ts : List Text := [",a\\b,", "", "c\\d"]
    joinEscaped ',' '\\' ts = ("\\,a\\b\\,,,c\\d" : Text) ∧
      splitEscaped ',' '\\' true (joinEscaped ',' '\\' ts) = ts ∧
      splitEscaped ',' '\\' false (joinEscaped ',' '\\' (ts.filter (· ≠ []))) =
        ts.filter (· ≠ []) := by
  intro ts
  obtain ⟨hplain, hempty⟩ := (splitEscaped_joinEscaped ',' '\\').1 (by decide)
  exact ⟨by decide, hempty ts (by decide) (by decide) (by decide), hplain false _ (by decide)⟩

end ContentBlocker.Text
