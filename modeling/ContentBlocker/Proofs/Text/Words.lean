import ContentBlocker.Proofs.Text.Places
import ContentBlocker.Text.Quoted
import Mathlib.Data.List.TakeWhile
import Mathlib.Tactic

/-!
# Words between blanks and parts outside of quotation marks

Two readers go over the same text: one looks for delimiters outside of quotation marks, the other
for words, of which those in quotation marks may hold blanks.

* `IsGap` is a text of blanks, and `trim_between_gaps` takes such texts off the ends;
* `words_bare_append` and `words_quoted_append` read one word;
* `IsClosed` says that the delimiters and marks of a text do not matter for what follows, and
  `splitOutsideQuotes_append_delimiter` splits behind such a text.
-/

namespace ContentBlocker.Text

/-! ### Blanks -/

/-- A text of blanks, perhaps empty. -/
def IsGap (t : Text) : Prop := ∀ c ∈ t, isBlank c = true

section Trim

variable {before after : Text} (hbefore : IsGap before) (hafter : IsGap after)

include hbefore in
theorem trimStart_gap_append (t : Text) : trimStart (before ++ t) = trimStart t :=
  List.dropWhile_append_of_pos hbefore

include hafter in
theorem trimEnd_append_gap (t : Text) : trimEnd (t ++ after) = trimEnd t := by
  have hreverse : ∀ c ∈ after.reverse, isBlank c = true := fun c hc =>
    hafter c (List.mem_reverse.1 hc)
  rw [trimEnd, List.reverse_append, List.dropWhile_append_of_pos hreverse, ← trimEnd]

theorem trimStart_of_head? {t : Text} (h : ∀ c ∈ t.head?, isBlank c = false) :
    trimStart t = t := by
  rcases t with _ | ⟨c, t⟩
  · rfl
  · exact List.dropWhile_cons_of_neg (by simp [h c rfl])

theorem trimEnd_of_getLast? {t : Text} (h : ∀ c ∈ t.getLast?, isBlank c = false) :
    trimEnd t = t := by
  rw [trimEnd, ← trimStart, trimStart_of_head? (by simpa using h), List.reverse_reverse]

theorem trimStart_eq_nil_iff {t : Text} : trimStart t = [] ↔ IsGap t := List.dropWhile_eq_nil_iff

/-- What is taken off the start is a text of blanks. -/
theorem exists_gap_trimStart (t : Text) : ∃ gap, IsGap gap ∧ t = gap ++ trimStart t :=
  ⟨t.takeWhile isBlank, fun _ hc => List.mem_takeWhile_imp hc,
    List.takeWhile_append_dropWhile.symm⟩

/-- What is taken off the end is a text of blanks. -/
theorem exists_gap_trimEnd (t : Text) : ∃ gap, IsGap gap ∧ t = trimEnd t ++ gap := by
  obtain ⟨gap, hgap, ht⟩ := exists_gap_trimStart t.reverse
  refine ⟨gap.reverse, fun c hc => hgap c (List.mem_reverse.1 hc), ?_⟩
  rw [trimEnd, ← trimStart, ← List.reverse_append, ← ht, List.reverse_reverse]

theorem trimEnd_eq_nil_iff {t : Text} : trimEnd t = [] ↔ IsGap t := by
  rw [trimEnd, List.reverse_eq_nil_iff, List.dropWhile_eq_nil_iff]
  exact forall_congr' fun c => by rw [List.mem_reverse]

theorem trimEnd_append {t : Text} (h : ¬IsGap t) (s : Text) :
    trimEnd (s ++ t) = s ++ trimEnd t := by
  rw [← trimEnd_eq_nil_iff, trimEnd, List.reverse_eq_nil_iff] at h
  rw [trimEnd, List.reverse_append, List.dropWhile_append, if_neg (by simpa using h),
    List.reverse_append, List.reverse_reverse, ← trimEnd]

/-- Nothing is left of blanks, and something of any other text. -/
theorem trim_eq_nil_iff {t : Text} : trim t = [] ↔ IsGap t := by
  rw [trim, trimEnd_eq_nil_iff]
  refine ⟨fun h c hc => ?_, fun h c hc => h c ((List.dropWhile_suffix _).subset hc)⟩
  rw [← List.takeWhile_append_dropWhile (p := isBlank) (l := t), List.mem_append] at hc
  rcases hc with hc | hc
  · exact List.mem_takeWhile_imp hc
  · exact h c hc

/-- What is left begins with no blank. -/
theorem head?_trim (t : Text) : ∀ c ∈ (trim t).head?, isBlank c = false := by
  intro c hc
  obtain ⟨v, hv⟩ := trimEnd_isPrefix (trimStart t)
  have hhead : (trimStart t).head? = some c := by
    rw [← hv, List.head?_append, show (trimEnd (trimStart t)).head? = some c from hc]
    rfl
  have hfirst := List.head?_dropWhile_not isBlank t
  rw [← trimStart, hhead] at hfirst
  simpa using hfirst

include hbefore hafter in
/-- Blanks around a text do not count. -/
theorem trim_between_gaps (t : Text) : trim (before ++ (t ++ after)) = trim t := by
  rw [trim, trimStart_gap_append hbefore]
  by_cases ht : IsGap t
  · rw [trim_eq_nil_iff.2 ht, trimStart_gap_append ht, trimStart_eq_nil_iff.2 hafter]
    rfl
  · rw [← trimStart_eq_nil_iff, trimStart] at ht
    rw [trimStart, List.dropWhile_append, if_neg (by simpa using ht), trimEnd_append_gap hafter]
    rfl

/-- A text that neither begins nor ends with a blank is trimmed. -/
theorem trim_eq_self {t : Text} (hfirst : ∀ c ∈ t.head?, isBlank c = false)
    (hlast : ∀ c ∈ t.getLast?, isBlank c = false) : trim t = t := by
  rw [trim, trimStart_of_head? hfirst, trimEnd_of_getLast? hlast]

end Trim

/-! ### Words -/

theorem words_gap_append {gap : Text} (h : IsGap gap) (t : Text) : words (gap ++ t) = words t := by
  induction gap with
  | nil => rfl
  | cons c gap ih =>
    obtain ⟨hc, hgap⟩ := List.forall_mem_cons.1 h
    have hread := ih hgap
    rw [words] at hread ⊢
    rw [List.cons_append, wordsFrom, if_pos hc, hread]

/-- A word without quotation marks goes to the next blank. -/
theorem wordsFrom_bare_append {w : Text} (hw : ∀ c ∈ w, isBlank c = false) {t : Text}
    (ht : ∀ c ∈ t.head?, isBlank c = true) : wordsFrom .bare (w ++ t) = w :: words t := by
  induction w with
  | nil =>
    rcases t with _ | ⟨c, t⟩
    · rfl
    · have hc : isBlank c = true := ht c rfl
      rw [List.nil_append, wordsFrom, if_pos hc, words, wordsFrom, if_pos hc]
  | cons c w ih =>
    obtain ⟨hc, hw⟩ := List.forall_mem_cons.1 hw
    rw [List.cons_append, wordsFrom, if_neg (by simp [hc]), ih hw, List.modifyHead_cons]

theorem words_bare_append {w : Text} (hne : w ≠ []) (hw : ∀ c ∈ w, isBlank c = false)
    (hquote : w.head? ≠ some '\'') {t : Text} (ht : ∀ c ∈ t.head?, isBlank c = true) :
    words (w ++ t) = w :: words t := by
  obtain ⟨c, w, rfl⟩ := List.exists_cons_of_ne_nil hne
  obtain ⟨hc, hw⟩ := List.forall_mem_cons.1 hw
  have hmark : c ≠ '\'' := by simpa using hquote
  rw [List.cons_append, words, wordsFrom, if_neg (by simp [hc]), if_neg hmark,
    wordsFrom_bare_append hw ht, List.modifyHead_cons]

/-- A word in quotation marks goes to the next one, over any blanks. -/
theorem wordsFrom_quoted_append {w : Text} (hw : '\'' ∉ w) (t : Text) :
    wordsFrom .quoted (w ++ '\'' :: t) = w :: words t := by
  induction w with
  | nil => rw [List.nil_append, wordsFrom, if_pos rfl, words]
  | cons c w ih =>
    obtain ⟨hc, hw⟩ := not_or.1 (mt List.mem_cons.2 hw)
    rw [List.cons_append, wordsFrom, if_neg (Ne.symm hc), ih hw, List.modifyHead_cons]

theorem words_quoted_append {w : Text} (hw : '\'' ∉ w) (t : Text) :
    words ('\'' :: (w ++ '\'' :: t)) = w :: words t := by
  rw [words, wordsFrom, if_neg (by decide), if_pos rfl, wordsFrom_quoted_append hw]

theorem wordsFrom_ne_nil {state : WordState} (h : state ≠ .between) (t : Text) :
    wordsFrom state t ≠ [] := by
  induction t with
  | nil => cases state <;> simp [wordsFrom] at h ⊢
  | cons c t ih =>
    cases state with
    | between => exact absurd rfl h
    | bare =>
      rw [wordsFrom]
      split_ifs
      · simp
      · simpa using ih
    | quoted =>
      rw [wordsFrom]
      split_ifs
      · simp
      · simpa using ih

/-- A text without words is a text of blanks. -/
theorem words_eq_nil_iff {t : Text} : words t = [] ↔ IsGap t := by
  refine ⟨fun h => ?_, fun h => by rw [← List.append_nil t, words_gap_append h]; rfl⟩
  induction t with
  | nil => exact fun c hc => by cases hc
  | cons c t ih =>
    rw [words, wordsFrom] at h
    split_ifs at h with hblank hquote
    · exact List.forall_mem_cons.2 ⟨hblank, ih h⟩
    · exact absurd h (wordsFrom_ne_nil (by decide) t)
    · rw [List.modifyHead_eq_nil_iff] at h
      exact absurd h (wordsFrom_ne_nil (by decide) t)

/-! ### Parts outside of quotation marks -/

section Parts

variable {delimiter quote : Char}

/-- The text belongs to one part as a whole, and what follows is split as if it stood alone: every
mark is closed, and no delimiter stands outside of the marks. -/
def IsClosed (delimiter quote : Char) (s : Text) : Prop :=
  ∀ t, rawPartsOutsideQuotes delimiter quote false (s ++ t) =
    (rawPartsOutsideQuotes delimiter quote false t).modifyHead (s ++ ·)

theorem isClosed_of_notMem {s : Text} (hd : delimiter ∉ s) (hq : quote ∉ s) :
    IsClosed delimiter quote s := by
  intro t
  induction s with
  | nil =>
    rw [List.nil_append]
    rcases rawPartsOutsideQuotes delimiter quote false t with _ | ⟨part, parts⟩ <;> rfl
  | cons c s ih =>
    obtain ⟨hcd, hd⟩ := not_or.1 (mt List.mem_cons.2 hd)
    obtain ⟨hcq, hq⟩ := not_or.1 (mt List.mem_cons.2 hq)
    rw [List.cons_append, rawPartsOutsideQuotes, if_neg (Ne.symm hcq),
      if_neg fun h => hcd h.1.symm, ih hd hq, List.modifyHead_modifyHead]
    rfl

theorem isClosed_gap (hd : isBlank delimiter = false) (hq : isBlank quote = false) {gap : Text}
    (h : IsGap gap) : IsClosed delimiter quote gap :=
  isClosed_of_notMem (fun hmem => absurd (h delimiter hmem) (by simp [hd]))
    fun hmem => absurd (h quote hmem) (by simp [hq])

theorem rawPartsOutsideQuotes_quoted {s : Text} (hq : quote ∉ s) (t : Text) :
    rawPartsOutsideQuotes delimiter quote true (s ++ quote :: t) =
      (rawPartsOutsideQuotes delimiter quote false t).modifyHead ((s ++ [quote]) ++ ·) := by
  induction s with
  | nil =>
    rw [List.nil_append, rawPartsOutsideQuotes, if_pos rfl]
    rfl
  | cons c s ih =>
    obtain ⟨hc, hq⟩ := not_or.1 (mt List.mem_cons.2 hq)
    rw [List.cons_append, rawPartsOutsideQuotes, if_neg (Ne.symm hc), if_neg (by simp), ih hq,
      List.modifyHead_modifyHead]
    rfl

/-- Inside of marks any text may stand. -/
theorem isClosed_quoted {s : Text} (hq : quote ∉ s) :
    IsClosed delimiter quote (quote :: (s ++ [quote])) := by
  intro t
  rw [List.cons_append, List.append_assoc, List.singleton_append, rawPartsOutsideQuotes, if_pos rfl,
    Bool.not_false, rawPartsOutsideQuotes_quoted hq, List.modifyHead_modifyHead]
  rfl

theorem IsClosed.append {s t : Text} (hs : IsClosed delimiter quote s)
    (ht : IsClosed delimiter quote t) : IsClosed delimiter quote (s ++ t) := by
  intro u
  rw [List.append_assoc, hs, ht, List.modifyHead_modifyHead]
  simp [Function.comp_def]

theorem splitOutsideQuotes_of_isClosed {s : Text} (hs : IsClosed delimiter quote s) :
    splitOutsideQuotes delimiter quote s = [trim s].filter (!·.isEmpty) := by
  have hparts := hs []
  rw [List.append_nil] at hparts
  rw [splitOutsideQuotes, hparts]
  simp [rawPartsOutsideQuotes]

/-- Behind a closed text the delimiter ends a part. -/
theorem splitOutsideQuotes_append_delimiter (hne : delimiter ≠ quote) {s : Text}
    (hs : IsClosed delimiter quote s) (t : Text) :
    splitOutsideQuotes delimiter quote (s ++ delimiter :: t) =
      splitOutsideQuotes delimiter quote s ++ splitOutsideQuotes delimiter quote t := by
  rw [splitOutsideQuotes_of_isClosed hs, splitOutsideQuotes, hs, rawPartsOutsideQuotes, if_neg hne,
    if_pos ⟨rfl, rfl⟩, List.modifyHead_cons, List.append_nil, List.map_cons, ← List.singleton_append,
    List.filter_append]
  rfl

theorem forall_mem_modifyHead_cons {parts : List Text} (h : parts ≠ []) (c : Char) :
    (∀ part ∈ parts.modifyHead (c :: ·), IsGap part) ↔
      isBlank c = true ∧ ∀ part ∈ parts, IsGap part := by
  obtain ⟨part, parts, rfl⟩ := List.exists_cons_of_ne_nil h
  simp only [List.modifyHead_cons, List.forall_mem_cons, IsGap, and_assoc]

/-- All parts are blank if there are only blanks and delimiters. -/
theorem forall_isGap_iff (hne : delimiter ≠ quote) (hquote : isBlank quote = false) (t : Text) :
    (∀ part ∈ rawPartsOutsideQuotes delimiter quote false t, IsGap part) ↔
      ∀ c ∈ t, c = delimiter ∨ isBlank c = true := by
  induction t with
  | nil => simp [rawPartsOutsideQuotes, IsGap]
  | cons c t ih =>
    have hnil := fun inside => rawPartsOutsideQuotes_ne_nil delimiter quote inside t
    rw [rawPartsOutsideQuotes, List.forall_mem_cons]
    split_ifs with hc hd
    · -- the quotation mark is no blank, whatever it encloses
      rw [forall_mem_modifyHead_cons (hnil _), hc, hquote]
      simp [Ne.symm hne]
    · rw [List.forall_mem_cons, ih]
      simp [hd.1, IsGap]
    · have hplain : c ≠ delimiter := fun h => hd ⟨h, rfl⟩
      rw [forall_mem_modifyHead_cons (hnil _), ih]
      simp [hplain]

/-- Nothing is left of blanks and delimiters, and some part of any other text. -/
theorem splitOutsideQuotes_eq_nil_iff (hne : delimiter ≠ quote) (hquote : isBlank quote = false)
    {t : Text} :
    splitOutsideQuotes delimiter quote t = [] ↔ ∀ c ∈ t, c = delimiter ∨ isBlank c = true := by
  rw [← forall_isGap_iff hne hquote]
  simp [splitOutsideQuotes, trim_eq_nil_iff]

end Parts
end ContentBlocker.Text
