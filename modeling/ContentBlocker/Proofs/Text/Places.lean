import ContentBlocker.Text.Quoted
import Mathlib.Tactic

/-!
# Places of a text in another

How often a text occurs in another, counted by the places where it begins, and what becomes of the
places when texts are put together and taken apart.

* `places` counts the places, overlapping ones included;
* `places_append_le` and `places_append_of_isSealed` compare a text with its two parts;
* `places_mark` counts a place that reaches over the border between two parts;
* `placesIn` counts the places in several texts, and `placesIn_splitOn_le`, `placesIn_words_le`,
  `placesIn_splitOutsideQuotes_le` and `placesIn_pieces_le` say that splitting makes no places.
-/

namespace ContentBlocker.Text

/-- The number of places in a text where `p` begins. -/
def places (p : Text) : Text → ℕ
  | [] => 0
  | c :: t => (if p.isPrefixOf (c :: t) then 1 else 0) + places p t

@[simp] theorem places_nil (p : Text) : places p [] = 0 := rfl

theorem places_cons (p : Text) (c : Char) (t : Text) :
    places p (c :: t) = (if p.isPrefixOf (c :: t) then 1 else 0) + places p t := rfl

/-! ### Parts of a text -/

/-- A place at the start stays when the text goes on. -/
theorem head_places_le {p s t : Text} (h : s <+: t) :
    (if p.isPrefixOf s then 1 else 0) ≤ if p.isPrefixOf t then 1 else 0 := by
  split_ifs with hs ht
  · exact le_rfl
  · rw [List.isPrefixOf_iff_prefix] at hs ht
    exact absurd (hs.trans h) ht
  · exact Nat.zero_le 1
  · exact le_rfl

/-- The places of two texts are places of both together. -/
theorem places_append_le (p s t : Text) : places p s + places p t ≤ places p (s ++ t) := by
  induction s with
  | nil => simp
  | cons c s ih =>
    have hhead := head_places_le (p := p) (List.prefix_append (c :: s) t)
    rw [List.cons_append] at hhead
    rw [List.cons_append, places_cons, places_cons]
    omega

theorem places_le_of_isInfix {p s t : Text} (h : s <:+: t) : places p s ≤ places p t := by
  obtain ⟨u, v, rfl⟩ := h
  have hleft := places_append_le p u s
  have hright := places_append_le p (u ++ s) v
  omega

/-- No place begins in characters that the text does not begin with. -/
theorem places_append_of_head? {p s : Text} (hp : p ≠ []) (h : ∀ c ∈ s, p.head? ≠ some c)
    (t : Text) : places p (s ++ t) = places p t := by
  induction s with
  | nil => rfl
  | cons c s ih =>
    obtain ⟨d, q, rfl⟩ := List.exists_cons_of_ne_nil hp
    have hd : d ≠ c := by simpa using h c List.mem_cons_self
    rw [List.cons_append, places_cons, ih fun e he => h e (List.mem_cons_of_mem c he)]
    simp [List.isPrefixOf, hd]

/-- A text has no place in a shorter one. -/
theorem places_of_length_lt {p t : Text} (h : t.length < p.length) : places p t = 0 := by
  induction t with
  | nil => rfl
  | cons c t ih =>
    have hno : ¬p <+: c :: t := fun hp => absurd hp.length_le (by omega)
    rw [List.length_cons] at h
    rw [places_cons, ih (by omega), if_neg (by rwa [List.isPrefixOf_iff_prefix])]

/-- A place may begin in the first part of a text and reach over the second into the third. -/
theorem places_mark {m p q t : Text} (hm : m <+: p ++ (q ++ t)) (hp : p.length < m.length)
    (hpq : p ++ q ≠ []) (s : Text) :
    places m (s ++ p) + 1 + places m t ≤ places m (s ++ (p ++ (q ++ t))) := by
  induction s with
  | nil =>
    -- the place is at the start, where the shorter `p` has none
    obtain ⟨c, u, hc⟩ := List.exists_cons_of_ne_nil hpq
    have hstart : m.isPrefixOf (c :: (u ++ t)) = true := by
      rw [← List.append_assoc, hc] at hm
      exact List.isPrefixOf_iff_prefix.2 hm
    have hrest := places_append_le m u t
    rw [List.nil_append, List.nil_append, ← List.append_assoc, hc, List.cons_append,
      places_of_length_lt hp, places_cons, if_pos hstart]
    omega
  | cons c s ih =>
    have hhead : (if m.isPrefixOf (c :: (s ++ p)) then 1 else 0) ≤
        if m.isPrefixOf (c :: (s ++ (p ++ (q ++ t)))) then 1 else 0 :=
      head_places_le ⟨q ++ t, by simp⟩
    rw [List.cons_append, List.cons_append, places_cons, places_cons]
    omega

/-! ### Texts that no place reaches into -/

/-- No place of `p` that begins before the text reaches into it: no end of `p` is a start of the
text. -/
def isSealed (p t : Text) : Bool := p.tail.tails.all fun q => q.isEmpty || !q.isPrefixOf t

theorem isPrefixOf_append_of_isSealed {p t : Text} (h : isSealed p t = true) (c : Char) (s : Text) :
    p.isPrefixOf (c :: s ++ t) = p.isPrefixOf (c :: s) := by
  rw [Bool.eq_iff_iff, List.isPrefixOf_iff_prefix, List.isPrefixOf_iff_prefix]
  refine ⟨fun hp => ?_, fun hp => hp.trans (List.prefix_append _ t)⟩
  rcases List.prefix_or_prefix_of_prefix hp (List.prefix_append (c :: s) t) with hs | ⟨q, rfl⟩
  · exact hs
  · -- what reaches into the text is an end of `p`, and so empty
    rw [List.prefix_append_right_inj, ← List.isPrefixOf_iff_prefix] at hp
    have hq := List.all_eq_true.1 h q ((List.mem_tails q _).2 (List.suffix_append s q))
    obtain rfl : q = [] := by simpa [hp] using hq
    rw [List.append_nil]

theorem places_append_of_isSealed {p t : Text} (h : isSealed p t = true) (s : Text) :
    places p (s ++ t) = places p s + places p t := by
  induction s with
  | nil => simp
  | cons c s ih =>
    rw [List.cons_append, places_cons, places_cons, ← List.cons_append,
      isPrefixOf_append_of_isSealed h, ih, Nat.add_assoc]

/-! ### Several texts -/

/-- The number of places in some texts. -/
def placesIn (p : Text) (ts : List Text) : ℕ := (ts.map (places p)).sum

@[simp] theorem placesIn_nil (p : Text) : placesIn p [] = 0 := rfl

@[simp] theorem placesIn_cons (p t : Text) (ts : List Text) :
    placesIn p (t :: ts) = places p t + placesIn p ts := by
  simp [placesIn]

theorem places_le_placesIn {p t : Text} {ts : List Text} (h : t ∈ ts) :
    places p t ≤ placesIn p ts :=
  List.single_le_sum (by simp) _ (List.mem_map_of_mem h)

theorem placesIn_le_of_sublist {p : Text} {ss ts : List Text} (h : ss.Sublist ts) :
    placesIn p ss ≤ placesIn p ts :=
  (h.map (places p)).sum_le_sum fun _ _ => Nat.zero_le _

theorem placesIn_map_le {p : Text} {f : Text → Text} {ts : List Text}
    (h : ∀ t, places p (f t) ≤ places p t) : placesIn p (ts.map f) ≤ placesIn p ts := by
  rw [placesIn, List.map_map]
  exact List.sum_le_sum fun t _ => h t

theorem placesIn_le_map {p : Text} {f : Text → Text} {ts : List Text}
    (h : ∀ t, places p t ≤ places p (f t)) : placesIn p ts ≤ placesIn p (ts.map f) := by
  rw [placesIn, placesIn, List.map_map]
  exact List.sum_le_sum fun t _ => h t

theorem placesIn_le_intercalate (p sep : Text) (ts : List Text) :
    placesIn p ts ≤ places p (sep.intercalate ts) := by
  match ts with
  | [] => exact Nat.zero_le _
  | [t] => simp
  | t :: t' :: ts =>
    have hrest := placesIn_le_intercalate p sep (t' :: ts)
    have hleft := places_append_le p (t ++ sep) (sep.intercalate (t' :: ts))
    have hright := places_append_le p t sep
    rw [List.intercalate_cons_cons, placesIn_cons]
    omega

/-! ### Splitting -/

theorem trimEnd_isPrefix (t : Text) : trimEnd t <+: t := by
  rw [← List.reverse_suffix, trimEnd, List.reverse_reverse]
  exact List.dropWhile_suffix _

theorem trim_isInfix (t : Text) : trim t <:+: t :=
  (trimEnd_isPrefix (trimStart t)).isInfix.trans (List.dropWhile_suffix _).isInfix

theorem places_trim_le (p t : Text) : places p (trim t) ≤ places p t :=
  places_le_of_isInfix (trim_isInfix t)

theorem placesIn_splitOn_le (p : Text) (c : Char) (t : Text) :
    placesIn p (t.splitOn c) ≤ places p t := by
  have h := placesIn_le_intercalate p [c] (t.splitOn c)
  rwa [List.intercalate_splitOn] at h

theorem intercalate_modifyHead {sep : Text} {ts : List Text} (h : ts ≠ []) (c : Char) :
    sep.intercalate (ts.modifyHead (c :: ·)) = c :: sep.intercalate ts := by
  match ts, h with
  | [t], _ => simp
  | t :: t' :: ts, _ => simp [List.intercalate_cons_cons]

/-! Parts outside of quotation marks. -/

theorem rawPartsOutsideQuotes_ne_nil (delimiter quote : Char) (inside : Bool) (t : Text) :
    rawPartsOutsideQuotes delimiter quote inside t ≠ [] := by
  induction t generalizing inside with
  | nil => simp [rawPartsOutsideQuotes]
  | cons c t ih =>
    rw [rawPartsOutsideQuotes]
    split_ifs <;> simp [List.modifyHead_eq_nil_iff, ih]

theorem intercalate_rawPartsOutsideQuotes (delimiter quote : Char) (inside : Bool) (t : Text) :
    [delimiter].intercalate (rawPartsOutsideQuotes delimiter quote inside t) = t := by
  induction t generalizing inside with
  | nil => simp [rawPartsOutsideQuotes]
  | cons c t ih =>
    have hne := rawPartsOutsideQuotes_ne_nil delimiter quote
    rw [rawPartsOutsideQuotes]
    split_ifs with hq hd
    · rw [intercalate_modifyHead (hne _ t), ih]
    · rw [List.intercalate_cons_of_ne_nil (hne _ t), ih, hd.1]
      rfl
    · rw [intercalate_modifyHead (hne _ t), ih]

theorem placesIn_splitOutsideQuotes_le (p : Text) (delimiter quote : Char) (t : Text) :
    placesIn p (splitOutsideQuotes delimiter quote t) ≤ places p t := by
  let parts := rawPartsOutsideQuotes delimiter quote false t
  calc placesIn p (splitOutsideQuotes delimiter quote t)
      ≤ placesIn p (parts.map trim) := placesIn_le_of_sublist List.filter_sublist
    _ ≤ placesIn p parts := placesIn_map_le (places_trim_le p)
    _ ≤ places p ([delimiter].intercalate parts) := placesIn_le_intercalate p _ parts
    _ = places p t := by rw [intercalate_rawPartsOutsideQuotes]

/-! Words. -/

/-- A text begins with the first of some texts, and all of them together have no more places. -/
def BeginsWithin (p t : Text) (ws : List Text) : Prop :=
  ∃ w rest, ws = w :: rest ∧ w <+: t ∧ placesIn p ws ≤ places p t

theorem BeginsWithin.cons {p t : Text} {ws : List Text} (h : BeginsWithin p t ws) (c : Char) :
    BeginsWithin p (c :: t) (ws.modifyHead (c :: ·)) := by
  obtain ⟨w, rest, rfl, hw, hle⟩ := h
  have hstart : c :: w <+: c :: t := List.cons_prefix_cons.2 ⟨rfl, hw⟩
  have hhead := head_places_le (p := p) hstart
  refine ⟨c :: w, rest, rfl, hstart, ?_⟩
  rw [placesIn_cons] at hle
  rw [List.modifyHead_cons, placesIn_cons, places_cons, places_cons]
  omega

theorem BeginsWithin.nil {p t : Text} {ws : List Text} (h : placesIn p ws ≤ places p t) (c : Char) :
    BeginsWithin p (c :: t) ([] :: ws) := by
  refine ⟨[], ws, rfl, List.nil_prefix, ?_⟩
  rw [placesIn_cons, places_nil, places_cons]
  omega

/-- The words of a text have no more places than the text, also when the reader stands inside of a
word. -/
theorem wordsFrom_places (p t : Text) :
    placesIn p (wordsFrom .between t) ≤ places p t ∧
      BeginsWithin p t (wordsFrom .bare t) ∧ BeginsWithin p t (wordsFrom .quoted t) := by
  induction t with
  | nil =>
    have hnil : BeginsWithin p [] [[]] := ⟨[], [], rfl, List.nil_prefix, le_rfl⟩
    exact ⟨le_rfl, hnil, hnil⟩
  | cons c t ih =>
    obtain ⟨hbetween, hbare, hquoted⟩ := ih
    have hlater : places p t ≤ places p (c :: t) := Nat.le_add_left _ _
    refine ⟨?_, ?_, ?_⟩
    · rw [wordsFrom]
      split_ifs
      · exact hbetween.trans hlater
      · obtain ⟨w, rest, -, -, hle⟩ := hquoted
        exact hle.trans hlater
      · obtain ⟨w, rest, -, -, hle⟩ := hbare.cons c
        exact hle
    · rw [wordsFrom]
      split_ifs
      · exact .nil hbetween c
      · exact hbare.cons c
    · rw [wordsFrom]
      split_ifs
      · exact .nil hbetween c
      · exact hquoted.cons c

theorem placesIn_words_le (p t : Text) : placesIn p (words t) ≤ places p t :=
  (wordsFrom_places p t).1

/-! Parts between the occurrences of a text. -/

theorem piecesFrom_ne_nil (sep : Text) (skip : ℕ) (t : Text) : piecesFrom sep skip t ≠ [] := by
  induction t generalizing skip with
  | nil => simp [piecesFrom]
  | cons c t ih =>
    cases skip with
    | zero =>
      rw [piecesFrom]
      split_ifs <;> simp [List.modifyHead_eq_nil_iff, ih]
    | succ skip =>
      rw [piecesFrom]
      exact ih skip

theorem intercalate_piecesFrom {sep : Text} (hsep : sep ≠ []) (skip : ℕ) (t : Text) :
    sep.intercalate (piecesFrom sep skip t) = t.drop skip := by
  induction t generalizing skip with
  | nil => simp [piecesFrom]
  | cons c t ih =>
    cases skip with
    | zero =>
      have hne := piecesFrom_ne_nil sep
      rw [piecesFrom]
      split_ifs with h
      · obtain ⟨u, hu⟩ := List.isPrefixOf_iff_prefix.1 h
        obtain ⟨d, q, rfl⟩ := List.exists_cons_of_ne_nil hsep
        obtain ⟨rfl, rfl⟩ : d = c ∧ q ++ u = t := by simpa using hu
        rw [List.intercalate_cons_of_ne_nil (hne _ _), ih]
        simp
      · rw [intercalate_modifyHead (hne _ t), ih]
        rfl
    | succ skip =>
      rw [piecesFrom, ih]
      rfl

theorem placesIn_pieces_le (p : Text) {sep : Text} (hsep : sep ≠ []) (t : Text) :
    placesIn p (pieces sep t) ≤ places p t := by
  have h := placesIn_le_intercalate p sep (pieces sep t)
  rwa [pieces, intercalate_piecesFrom hsep] at h

end ContentBlocker.Text
