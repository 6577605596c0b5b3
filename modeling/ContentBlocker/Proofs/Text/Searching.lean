import ContentBlocker.Proofs.Text.Ends
import ContentBlocker.Proofs.Text.Places
import ContentBlocker.Text.Escaped

/-!
# What searching finds

Where a text was cut or split, told from the text, and the other way round.

* `infix_append_cons_iff` and `infix_intercalate_iff`: no occurrence reaches over a character that is
  not in it;
* `cut?_eq_some_iff` and `cut?_append`: the first occurrence (`IsFirst`) depends on what stands before
  it alone;
* `NoneBegins` says that no occurrence begins in a text, and `NoneBegins.isFirst_append_iff` that it
  may be left out;
* `not_infix_of_mem_pieces` and `pieces_append`: the parts between the occurrences of a separator;
* `cutLastUnescaped?_eq_some_iff` and `cutLastUnescaped?_eq_none_iff`: the last unescaped occurrence
  (`IsLastUnescaped`), and texts without one (`AllEscaped`).
-/

namespace ContentBlocker

namespace Text

/-! ### The end of a text -/

theorem eq_append_of_stripEnd? {p s t : Text} (h : stripEnd? p t = some s) : t = s ++ p := by
  unfold stripEnd? at h
  split_ifs at h with hp
  obtain ⟨u, rfl⟩ := List.isSuffixOf_iff_suffix.1 hp
  cases h
  simp

theorem getD_stripEnd?_isPrefix (p t : Text) : (stripEnd? p t).getD t <+: t := by
  rcases h : stripEnd? p t with _ | s
  · exact List.prefix_rfl
  · rw [eq_append_of_stripEnd? h]
    exact List.prefix_append s p

theorem mapM_stripEnd?_eq_some_iff {p : Text} {ts ss : List Text} :
    ts.mapM (stripEnd? p) = some ss ↔ ts = ss.map (· ++ p) := by
  constructor
  · intro h
    induction ts generalizing ss with
    | nil =>
      cases h
      rfl
    | cons t ts ih =>
      rw [List.mapM_cons] at h
      obtain ⟨s, hs, h⟩ := Option.bind_eq_some_iff.1 h
      obtain ⟨rest, hrest, h⟩ := Option.bind_eq_some_iff.1 h
      cases h
      rw [List.map_cons, ← ih hrest, ← eq_append_of_stripEnd? hs]
  · rintro rfl
    induction ss with
    | nil => rfl
    | cons s ss ih =>
      rw [List.map_cons, List.mapM_cons, stripEnd?_append, ih]
      rfl

theorem eq_append_of_cutLast? {c : Char} {t before after : Text}
    (h : cutLast? c t = some (before, after)) : t = before ++ c :: after := by
  induction t generalizing before with
  | nil => cases h
  | cons d t ih =>
    unfold cutLast? at h
    split at h
    · next s hs =>
      cases h
      rw [List.cons_append, ← ih hs]
    · split_ifs at h with hd
      cases h
      rw [hd, List.nil_append]

/-! ### Occurrences -/

theorem places_eq_zero_iff {p t : Text} (hp : p ≠ []) : places p t = 0 ↔ ¬p <:+: t := by
  induction t with
  | nil => simpa using hp
  | cons c t ih =>
    rw [places_cons, Nat.add_eq_zero_iff, ih, List.infix_cons_iff, not_or,
      ← List.isPrefixOf_iff_prefix]
    simp

theorem isSealed_cons_of_notMem {p : Text} {c : Char} (hc : c ∉ p) (t : Text) :
    isSealed p (c :: t) = true := by
  rw [isSealed, List.all_eq_true]
  intro q hq
  rcases q with _ | ⟨d, q⟩
  · rfl
  · have hd : d ∈ p :=
      List.mem_of_mem_tail (((List.mem_tails _ _).1 hq).subset List.mem_cons_self)
    simp [List.isPrefixOf, ne_of_mem_of_not_mem hd hc]

theorem infix_append_iff_of_isSealed {p t : Text} (hp : p ≠ []) (h : isSealed p t = true)
    (s : Text) : p <:+: s ++ t ↔ p <:+: s ∨ p <:+: t := by
  rw [← not_iff_not, not_or, ← places_eq_zero_iff hp, ← places_eq_zero_iff hp,
    ← places_eq_zero_iff hp, places_append_of_isSealed h, Nat.add_eq_zero_iff]

theorem infix_append_iff_of_head? {p s : Text} (hp : p ≠ []) (h : ∀ c ∈ s, p.head? ≠ some c)
    (t : Text) : p <:+: s ++ t ↔ p <:+: t := by
  rw [← not_iff_not, ← places_eq_zero_iff hp, ← places_eq_zero_iff hp, places_append_of_head? hp h]

/-- No occurrence reaches over a character that is not in it. -/
theorem infix_append_cons_iff {p : Text} (hp : p ≠ []) {c : Char} (hc : c ∉ p) (s t : Text) :
    p <:+: s ++ c :: t ↔ p <:+: s ∨ p <:+: t := by
  have hhead : ∀ d ∈ [c], p.head? ≠ some d := by
    intro d hd hp
    obtain rfl := List.mem_singleton.1 hd
    exact hc (List.mem_of_head? hp)
  rw [infix_append_iff_of_isSealed hp (isSealed_cons_of_notMem hc t), ← List.singleton_append,
    infix_append_iff_of_head? hp hhead]

/-- So what occurs in some texts with such a character between them occurs in one of them. -/
theorem infix_intercalate_iff {p : Text} (hp : p ≠ []) {c : Char} (hc : c ∉ p) {ts : List Text} :
    p <:+: [c].intercalate ts ↔ ∃ t ∈ ts, p <:+: t := by
  induction ts with
  | nil => simpa using hp
  | cons t ts ih =>
    rcases ts with _ | ⟨u, ts⟩
    · simp
    · rw [List.intercalate_cons_cons, List.append_assoc, List.singleton_append,
        infix_append_cons_iff hp hc, ih]
      simp

/-! ### The first occurrence -/

theorem eq_append_of_cut? {p t before after : Text} (h : cut? p t = some (before, after)) :
    t = before ++ (p ++ after) := by
  induction t generalizing before with
  | nil =>
    unfold cut? at h
    split_ifs at h with hp
    cases h
    simp [hp]
  | cons c t ih =>
    unfold cut? at h
    split_ifs at h with hp
    · cases h
      obtain ⟨u, hu⟩ := List.isPrefixOf_iff_prefix.1 hp
      rw [← hu]
      simp
    · obtain ⟨⟨b, a⟩, hb, h⟩ := Option.map_eq_some_iff.1 h
      cases h
      rw [ih hb]
      rfl

/-- The first occurrence of `p` in a text stands between `before` and `after`. -/
structure IsFirst (p t before after : Text) : Prop where
  eq : t = before ++ (p ++ after)
  first : ¬p <:+: before ++ p.dropLast

theorem cut?_eq_none_iff {p t : Text} : cut? p t = none ↔ ¬p <:+: t := by
  induction t with
  | nil =>
    rw [cut?, List.infix_nil]
    split_ifs with hp <;> simp [hp]
  | cons c t ih =>
    rw [cut?, List.infix_cons_iff, not_or, ← ih, ← List.isPrefixOf_iff_prefix]
    split_ifs with hp <;> simp [hp]

/-- What comes after the first character of a text may be searched on its own if no occurrence
begins with that character. -/
theorem IsFirst.cons_inv {p b after : Text} {c : Char}
    (h : IsFirst p (c :: (b ++ (p ++ after))) (c :: b) after) :
    ¬p <+: c :: (b ++ (p ++ after)) ∧ IsFirst p (b ++ (p ++ after)) b after := by
  have hfirst := h.first
  rw [List.cons_append, List.infix_cons_iff, not_or] at hfirst
  refine ⟨fun hpre => hfirst.1 ?_, rfl, hfirst.2⟩
  have hstart : c :: (b ++ p.dropLast) <+: c :: (b ++ (p ++ after)) := by
    simpa using (List.dropLast_prefix p).trans (List.prefix_append p after)
  refine List.prefix_of_prefix_length_le hpre hstart ?_
  rw [List.length_cons, List.length_append, List.length_dropLast]
  omega

/-- What is cut at an occurrence is the first one if there is none before its last character. -/
theorem IsFirst.cut?_eq {p t before after : Text} (h : IsFirst p t before after) :
    cut? p t = some (before, after) := by
  obtain rfl := h.eq
  induction before with
  | nil =>
    rcases p with _ | ⟨d, q⟩
    · exact absurd List.nil_infix h.first
    · simp [cut?]
  | cons c b ih =>
    obtain ⟨hno, hb⟩ := h.cons_inv
    rw [List.cons_append, cut?, if_neg (by rwa [List.isPrefixOf_iff_prefix]), ih hb]
    rfl

/-- Behind characters that a text does not begin with it stands for the first time. -/
theorem isFirst_append {p s : Text} (hp : p ≠ []) (h : ∀ c ∈ s, p.head? ≠ some c) (t : Text) :
    IsFirst p (s ++ (p ++ t)) s t := by
  refine ⟨rfl, fun hin => ?_⟩
  have hshort := ((infix_append_iff_of_head? hp h _).1 hin).length_le
  have hpos := List.length_pos_iff.2 hp
  rw [List.length_dropLast] at hshort
  omega

/-- Behind characters of one kind a text stands for the first time if it has a character of another
kind. -/
theorem isFirst_append_of_forall {p : Char → Bool} {s old : Text} (hs : ∀ c ∈ s, p c = true)
    (hold : old.all p = false) (t : Text) : IsFirst old (s ++ (old ++ t)) s t := by
  refine ⟨rfl, ?_⟩
  -- the first character of another kind
  obtain ⟨c, hfind⟩ : ∃ c, old.find? (!p ·) = some c := by
    simpa [← Option.isSome_iff_exists] using hold
  obtain ⟨hc, a, b, rfl, ha⟩ := List.find?_eq_some_iff_append.1 hfind
  have hc : p c = false := by simpa using hc
  induction s with
  | nil =>
    intro hin
    have hshort := hin.length_le
    simp at hshort
  | cons d s ih =>
    rw [List.cons_append, List.infix_cons_iff, not_or]
    refine ⟨fun hpre => ?_, ih fun e he => hs e (List.mem_cons_of_mem d he)⟩
    -- would stand among the ones of the one kind
    have hshort : a ++ [c] <+: d :: s ++ a := by
      rw [List.dropLast_append_of_ne_nil (List.cons_ne_nil c b)] at hpre
      refine List.prefix_of_prefix_length_le (List.IsPrefix.trans ?_ hpre) ?_ ?_
      · simp
      · simp
      · simp
    have hall : ∀ e ∈ d :: s ++ a, p e = true := by
      intro e he
      rcases List.mem_append.1 he with he | he
      · exact hs e he
      · simpa using ha e he
    have hone := hall c (hshort.subset (List.mem_append_right a (List.mem_singleton_self c)))
    rw [hc] at hone
    cases hone

theorem cut?_eq_some_iff {p t before after : Text} (hp : p ≠ []) :
    cut? p t = some (before, after) ↔ IsFirst p t before after := by
  refine ⟨fun h => ⟨eq_append_of_cut? h, ?_⟩, IsFirst.cut?_eq⟩
  induction t generalizing before with
  | nil => simp [cut?, hp] at h
  | cons c t ih =>
    have ht := eq_append_of_cut? h
    unfold cut? at h
    split_ifs at h with hstart
    · cases h
      intro hin
      have hshort := hin.length_le
      have hpos := List.length_pos_iff.2 hp
      rw [List.nil_append, List.length_dropLast] at hshort
      omega
    · obtain ⟨⟨b, a⟩, hb, h⟩ := Option.map_eq_some_iff.1 h
      cases h
      rw [List.cons_append, List.infix_cons_iff, not_or]
      refine ⟨fun hpre => hstart ?_, ih hb⟩
      have hprefix : c :: (b ++ p.dropLast) <+: c :: t := by
        rw [ht]
        simpa using (List.dropLast_prefix p).trans (List.prefix_append p a)
      exact List.isPrefixOf_iff_prefix.2 (hpre.trans hprefix)

/-- What follows the first occurrence does not count for finding it. -/
theorem cut?_append {p t before after : Text} (hp : p ≠ [])
    (h : cut? p t = some (before, after)) (rest : Text) :
    cut? p (before ++ (p ++ rest)) = some (before, rest) :=
  IsFirst.cut?_eq ⟨rfl, ((cut?_eq_some_iff hp).1 h).first⟩

theorem replaceFirst_of_isFirst {old t before after : Text} (h : IsFirst old t before after)
    (new : Text) : replaceFirst old new t = before ++ new ++ after := by
  rw [replaceFirst, h.cut?_eq]

theorem replaceFirst_of_not_infix {old t : Text} (h : ¬old <:+: t) (new : Text) :
    replaceFirst old new t = t := by
  rw [replaceFirst, cut?_eq_none_iff.2 h]

/-! ### What stands before all occurrences -/

/-- No occurrence of `p` begins in a text, whatever follows it. -/
def NoneBegins (p : Text) : Text → Prop
  | [] => True
  | c :: s => (∀ t, ¬p <+: c :: (s ++ t)) ∧ NoneBegins p s

section NoneBegins

variable {p s : Text}

theorem noneBegins_of_head? (hp : p ≠ []) (h : ∀ c ∈ s, p.head? ≠ some c) : NoneBegins p s := by
  induction s with
  | nil => exact trivial
  | cons c s ih =>
    obtain ⟨d, q, rfl⟩ := List.exists_cons_of_ne_nil hp
    obtain ⟨hc, hs⟩ := List.forall_mem_cons.1 h
    refine ⟨fun t hpre => hc ?_, ih hs⟩
    rw [(List.cons_prefix_cons.1 hpre).1]
    rfl

theorem NoneBegins.append {t : Text} (hs : NoneBegins p s) (ht : NoneBegins p t) :
    NoneBegins p (s ++ t) := by
  induction s with
  | nil => exact ht
  | cons c s ih =>
    refine ⟨fun u => ?_, ih hs.2⟩
    have hc := hs.1 (t ++ u)
    rwa [← List.append_assoc] at hc

theorem NoneBegins.infix_append_iff (h : NoneBegins p s) (t : Text) :
    p <:+: s ++ t ↔ p <:+: t := by
  induction s with
  | nil => rfl
  | cons c s ih => rw [List.cons_append, List.infix_cons_iff, or_iff_right (h.1 t), ih h.2]

/-- What stands before all occurrences does not count for finding the first one. -/
theorem NoneBegins.isFirst_append_iff (h : NoneBegins p s) (hp : p ≠ []) {t after : Text} :
    (∃ before, IsFirst p (s ++ t) before after) ↔ ∃ before, IsFirst p t before after := by
  have hkeep : ∀ {before after}, IsFirst p t before after →
      IsFirst p (s ++ t) (s ++ before) after := by
    rintro before after ⟨rfl, hfirst⟩
    exact ⟨(List.append_assoc ..).symm, by rwa [List.append_assoc, h.infix_append_iff]⟩
  refine ⟨fun ⟨before, hfirst⟩ => ?_, fun ⟨before, hfirst⟩ => ⟨_, hkeep hfirst⟩⟩
  rcases hcut : cut? p t with _ | ⟨b, a⟩
  · rw [cut?_eq_none_iff, ← h.infix_append_iff, ← cut?_eq_none_iff, hfirst.cut?_eq] at hcut
    cases hcut
  · have hb := (cut?_eq_some_iff hp).1 hcut
    have heq := (hkeep hb).cut?_eq
    rw [hfirst.cut?_eq] at heq
    cases heq
    exact ⟨b, hb⟩

end NoneBegins

/-! ### Parts between the occurrences -/

/-- A text begins with its first part. -/
theorem piecesFrom_isPrefix {sep : Text} (hsep : sep ≠ []) {t v : Text} {vs : List Text}
    (h : piecesFrom sep 0 t = v :: vs) : v <+: t := by
  have ht := intercalate_piecesFrom hsep 0 t
  rw [h, List.drop_zero] at ht
  rcases vs with _ | ⟨w, vs⟩
  · rw [← ht, List.intercalate_singleton]
  · rw [← ht, List.intercalate_cons_cons, List.append_assoc]
    exact List.prefix_append v _

/-- No part holds the separator. -/
theorem not_infix_of_mem_piecesFrom {sep : Text} (hsep : sep ≠ []) {skip : ℕ} {t w : Text}
    (hw : w ∈ piecesFrom sep skip t) : ¬sep <:+: w := by
  induction t generalizing skip w with
  | nil =>
    obtain rfl : w = [] := by simpa [piecesFrom] using hw
    simpa using hsep
  | cons c t ih =>
    cases skip with
    | succ skip => exact ih hw
    | zero =>
      rw [piecesFrom] at hw
      split_ifs at hw with hstart
      · rcases List.mem_cons.1 hw with rfl | hw
        · simpa using hsep
        · exact ih hw
      · obtain ⟨v, vs, hv⟩ := List.exists_cons_of_ne_nil (piecesFrom_ne_nil sep 0 t)
        rw [hv, List.modifyHead_cons] at hw
        rcases List.mem_cons.1 hw with rfl | hw
        · intro hin
          rcases List.infix_cons_iff.1 hin with hpre | hin
          · rw [List.isPrefixOf_iff_prefix] at hstart
            exact hstart (hpre.trans (List.cons_prefix_cons.2 ⟨rfl, piecesFrom_isPrefix hsep hv⟩))
          · exact ih (by rw [hv]; exact List.mem_cons_self) hin
        · exact ih (by rw [hv]; exact List.mem_cons_of_mem v hw)

/-- A text that does not hold the separator belongs to the first part of what follows, if no
occurrence reaches over the border. -/
theorem pieces_append {sep s t : Text} (hs : ¬sep <:+: s) (ht : isSealed sep t = true) :
    pieces sep (s ++ t) = (pieces sep t).modifyHead (s ++ ·) := by
  induction s with
  | nil =>
    rw [List.nil_append]
    rcases pieces sep t with _ | ⟨v, vs⟩ <;> rfl
  | cons c s ih =>
    obtain ⟨hstart, hs⟩ := not_or.1 (mt List.infix_cons_iff.2 hs)
    have hno : ¬sep.isPrefixOf (c :: (s ++ t)) = true := by
      rwa [← List.cons_append, isPrefixOf_append_of_isSealed ht, List.isPrefixOf_iff_prefix]
    rw [pieces] at ih ⊢
    rw [List.cons_append, piecesFrom, if_neg hno, ih hs, pieces]
    rcases piecesFrom sep 0 t with _ | ⟨v, vs⟩ <;> rfl

theorem piecesFrom_append (sep s t : Text) :
    piecesFrom sep s.length (s ++ t) = piecesFrom sep 0 t := by
  induction s with
  | nil => rfl
  | cons c s ih =>
    rw [List.length_cons, List.cons_append, piecesFrom, ih]

theorem pieces_sep_append {sep : Text} (hsep : sep ≠ []) (t : Text) :
    pieces sep (sep ++ t) = [] :: pieces sep t := by
  obtain ⟨c, q, rfl⟩ := List.exists_cons_of_ne_nil hsep
  have hstart : (c :: q).isPrefixOf (c :: (q ++ t)) = true :=
    List.isPrefixOf_iff_prefix.2 (List.prefix_append (c :: q) t)
  rw [pieces, List.cons_append, piecesFrom, if_pos hstart, List.length_cons, Nat.add_sub_cancel,
    piecesFrom_append]
  rfl

end Text

/-! ### The last unescaped occurrence -/

theorem lastUnescapedBelow?_eq_some_iff {α : Type} [DecidableEq α] {needle escape : α} {start : ℕ}
    {xs : List α} {n i : ℕ} :
    lastUnescapedBelow? needle escape start xs n = some i ↔
      start ≤ i ∧ i < n ∧ UnescapedAt needle escape xs i ∧
        ∀ j, i < j → j < n → ¬UnescapedAt needle escape xs j := by
  induction n with
  | zero => simp [lastUnescapedBelow?]
  | succ n ih =>
    rw [lastUnescapedBelow?]
    split_ifs with hstart hhere
    · constructor
      · nofun
      · rintro ⟨hi, hlt, -⟩
        omega
    · constructor
      · intro h
        cases h
        exact ⟨by omega, by omega, hhere, fun j hj hlt => by omega⟩
      · rintro ⟨hi, hlt, -, hlast⟩
        have hle : ¬i < n := fun hlt' => hlast n hlt' (by omega) hhere
        rw [show i = n by omega]
    · rw [ih]
      constructor
      · rintro ⟨hi, hlt, hat, hlast⟩
        refine ⟨hi, by omega, hat, fun j hj hlt' => ?_⟩
        rcases Nat.lt_succ_iff_lt_or_eq.1 hlt' with hj' | rfl
        · exact hlast j hj hj'
        · exact hhere
      · rintro ⟨hi, hlt, hat, hlast⟩
        have hne : i ≠ n := by
          rintro rfl
          exact hhere hat
        exact ⟨hi, by omega, hat, fun j hj hlt' => hlast j hj (by omega)⟩

theorem lastUnescapedBelow?_eq_none_iff {α : Type} [DecidableEq α] {needle escape : α} {start : ℕ}
    {xs : List α} {n : ℕ} :
    lastUnescapedBelow? needle escape start xs n = none ↔
      ∀ i, start ≤ i → i < n → ¬UnescapedAt needle escape xs i := by
  induction n with
  | zero => simp [lastUnescapedBelow?]
  | succ n ih =>
    rw [lastUnescapedBelow?]
    split_ifs with hstart hhere
    · refine iff_of_true rfl fun i hi hlt => ?_
      omega
    · simp only [false_iff, not_forall, not_not]
      exact ⟨n, by omega, by omega, hhere⟩
    · rw [ih]
      refine forall_congr' fun i => forall_congr' fun hi => ⟨fun h hlt => ?_, fun h hlt => ?_⟩
      · rcases Nat.lt_succ_iff_lt_or_eq.1 hlt with hlt | rfl
        · exact h hlt
        · exact hhere
      · exact h (by omega)

/-- An unescaped place in a list takes it apart. -/
theorem unescapedAt_iff {α : Type} {needle escape : α} {xs : List α} {i : ℕ} :
    UnescapedAt needle escape xs i ↔
      ∃ before after, xs = before ++ needle :: after ∧ before.length = i ∧
        before.getLast? ≠ some escape := by
  constructor
  · rintro ⟨hget, hescape⟩
    obtain ⟨hlt, hget⟩ := List.getElem?_eq_some_iff.1 hget
    refine ⟨xs.take i, xs.drop (i + 1), ?_, by simpa using hlt.le, ?_⟩
    · rw [← hget, List.getElem_cons_drop, List.take_append_drop]
    · rw [List.getLast?_take]
      rcases hescape with rfl | hescape
      · simp
      · split_ifs
        · simp
        · rw [List.getElem?_eq_getElem (by omega)] at hescape ⊢
          simpa using hescape
  · rintro ⟨before, after, rfl, rfl, hescape⟩
    refine ⟨by simp, ?_⟩
    rcases List.eq_nil_or_concat' before with rfl | ⟨b, d, rfl⟩
    · exact .inl rfl
    · right
      simpa using hescape

namespace Text

/-- The last unescaped `needle` of a text, the last character excepted, stands between `before` and
`after`. -/
structure IsLastUnescaped (needle escape : Char) (t before after : Text) : Prop where
  eq : t = before ++ needle :: after
  ne_nil : after ≠ []
  unescaped : before.getLast? ≠ some escape
  last : ∀ u v, after = u ++ needle :: v → v ≠ [] → (needle :: u).getLast? = some escape

theorem cutLastUnescaped?_eq_some_iff {needle escape : Char} {t before after : Text} :
    cutLastUnescaped? needle escape t = some (before, after) ↔
      IsLastUnescaped needle escape t before after := by
  have hsplit : ∀ i, (t.take i, t.drop (i + 1)) = (before, after) →
      UnescapedAt needle escape t i → t = before ++ needle :: after ∧ before.length = i ∧
        before.getLast? ≠ some escape := by
    intro i h hat
    obtain ⟨b, a, rfl, rfl, hescape⟩ := unescapedAt_iff.1 hat
    obtain ⟨rfl, rfl⟩ : b = before ∧ a = after := by simpa using h
    exact ⟨rfl, rfl, hescape⟩
  rw [cutLastUnescaped?, Option.map_eq_some_iff]
  simp only [lastUnescaped?, lastUnescapedBelow?_eq_some_iff]
  constructor
  · rintro ⟨i, ⟨-, hlt, hat, hlast⟩, h⟩
    obtain ⟨rfl, rfl, hescape⟩ := hsplit i h hat
    refine ⟨rfl, ?_, hescape, fun u v huv hv => ?_⟩
    · rintro rfl
      simp at hlt
    · subst huv
      by_contra hne
      have hpos := List.length_pos_iff.2 hv
      refine hlast (before ++ needle :: u).length (by simp) (by simp; omega) ?_
      refine unescapedAt_iff.2 ⟨before ++ needle :: u, v, by simp, rfl, ?_⟩
      rwa [List.getLast?_append_of_ne_nil _ (by simp)]
  · rintro ⟨rfl, hne, hescape, hlast⟩
    have hpos := List.length_pos_iff.2 hne
    refine ⟨before.length, ⟨Nat.zero_le _, by simp; omega,
      unescapedAt_iff.2 ⟨before, after, rfl, rfl, hescape⟩, fun j hj hlt hat => ?_⟩, by simp⟩
    obtain ⟨b, a, hb, rfl, hescape'⟩ := unescapedAt_iff.1 hat
    -- the later place lies in what follows the first
    rcases List.append_eq_append_iff.1 hb with ⟨w, hw, hrest⟩ | ⟨w, hw, -⟩
    · rcases w with _ | ⟨d, u⟩
      · simp [hw] at hj
      · obtain ⟨rfl, hafter⟩ := List.cons.inj hrest
        have ha : a ≠ [] := by
          rintro rfl
          rw [hb] at hlt
          simp at hlt
        rw [hw, List.getLast?_append_of_ne_nil _ (by simp)] at hescape'
        exact hescape' (hlast u a hafter ha)
    · rw [hw] at hj
      simp at hj

/-- An escape stands right before every `needle` of a text, the last character excepted. -/
def AllEscaped (needle escape : Char) (t : Text) : Prop :=
  ∀ before after, t = before ++ needle :: after → after ≠ [] → before.getLast? = some escape

theorem cutLastUnescaped?_eq_none_iff {needle escape : Char} {t : Text} :
    cutLastUnescaped? needle escape t = none ↔ AllEscaped needle escape t := by
  rw [cutLastUnescaped?, Option.map_eq_none_iff, lastUnescaped?, lastUnescapedBelow?_eq_none_iff]
  constructor
  · rintro h before after rfl hne
    have hpos := List.length_pos_iff.2 hne
    by_contra hescape
    exact h before.length (Nat.zero_le _) (by simp; omega)
      (unescapedAt_iff.2 ⟨before, after, rfl, rfl, hescape⟩)
  · rintro h i - hlt hat
    obtain ⟨before, after, rfl, rfl, hescape⟩ := unescapedAt_iff.1 hat
    refine hescape (h before after rfl ?_)
    rintro rfl
    simp at hlt

/-- What follows the last unescaped `needle` has escaped ones only. -/
theorem IsLastUnescaped.allEscaped {needle escape : Char} {t before after : Text}
    (h : IsLastUnescaped needle escape t before after) (hne : needle ≠ escape) :
    AllEscaped needle escape after := by
  intro u v huv hv
  have hlast := h.last u v huv hv
  rcases u with _ | ⟨d, u⟩
  · exact absurd (Option.some.inj hlast) hne
  · rwa [List.getLast?_cons_cons] at hlast

theorem eq_append_of_cutLastUnescaped? {needle escape : Char} {t before after : Text}
    (h : cutLastUnescaped? needle escape t = some (before, after)) :
    t = before ++ needle :: after :=
  (cutLastUnescaped?_eq_some_iff.1 h).eq

end Text
end ContentBlocker
