import ContentBlocker.Filter.Dialect
import ContentBlocker.Proofs.Text.Searching
import ContentBlocker.Proofs.Text.Splitting

/-!
# Marks of dialects

A rule of another dialect is told by a mark in its text, and a rewriting takes one mark away.  It
may leave others: those in the domains, in the arguments of scriptlets and among the options.

* `marks` are the marks, and `markPlaces` counts the places of one of them in a rule;
* `Spends` says that a rewriting makes no marks and takes one away;
* `scriptletCall?_spends`, `snippets?_spends`, `contentRule_spends` and `allTypes?_spends` say so of
  the rewritings, and `regexRule_keeps` says what is left of a rule on the text of scripts;
* `scriptContents?_regexRule` says that this is rewritten no more.
-/

namespace ContentBlocker.Dialect

open Text

/-! ### Marks -/

/-- The marks of scriptlets after `+js`. -/
def callMarks : List Text := ["##+js(", "#@#+js("]

/-- The marks of snippets. -/
def snippetMarks : List Text := ["#$#", "#@$#"]

/-- The marks of the option that stands for others: it may be the first option or a later one. -/
def allMarks : List Text := ["$all,", ",all,"]

/-- The marks of all dialects but that of rules on the text of scripts. -/
def otherMarks : List Text := callMarks ++ snippetMarks ++ allMarks

/-- The marks of all dialects. -/
def marks : List Text := scriptSign :: otherMarks

theorem callMarks_subset : callMarks ⊆ otherMarks := by decide

theorem snippetMarks_subset : snippetMarks ⊆ otherMarks := by decide

theorem allMarks_subset : allMarks ⊆ otherMarks := by decide

theorem scriptSign_mem_marks : scriptSign ∈ marks := List.mem_cons_self

theorem otherMarks_subset : otherMarks ⊆ marks := List.subset_cons_self scriptSign otherMarks

/-- The number of places of a mark in a rule.  The last option counts as if a comma followed it. -/
def markPlaces (m rule : Text) : ℕ := places m (rule ++ [','])

/-- The number of marks in a rule. -/
def markCount (rule : Text) : ℕ := (marks.map (markPlaces · rule)).sum

/-- From the rule `t` to the rule `u`, no mark gets more places, and the mark `m` loses one. -/
structure Spends (m t u : Text) : Prop where
  mem : m ∈ marks
  le : ∀ m' ∈ marks, markPlaces m' u ≤ markPlaces m' t
  lt : markPlaces m u < markPlaces m t

theorem Spends.markCount_lt {m t u : Text} (h : Spends m t u) : markCount u < markCount t :=
  List.sum_lt_sum (markPlaces · u) (markPlaces · t) h.le ⟨m, h.mem, h.lt⟩

/-- A rule whose places are among those in two parts of another rule, where a mark reaches from the
first part over what is between. -/
theorem spends_of_mark {m d p q r t u : Text} (hmem : m ∈ marks)
    (ht : t ++ [','] = d ++ (p ++ (q ++ r))) (hm : m <+: p ++ (q ++ r)) (hp : p.length < m.length)
    (hpq : p ++ q ≠ [])
    (hu : ∀ m' ∈ marks, markPlaces m' u ≤ places m' (d ++ p) + places m' r) : Spends m t u := by
  have htotal : ∀ m', markPlaces m' t = places m' (d ++ (p ++ (q ++ r))) := by
    intro m'
    rw [markPlaces, ht]
  refine ⟨hmem, fun m' hm' => ?_, ?_⟩
  · have hleft := places_append_le m' (d ++ p) (q ++ r)
    have hright := places_append_le m' q r
    have hkept := hu m' hm'
    rw [List.append_assoc, ← htotal] at hleft
    omega
  · -- the place that begins in `p` is neither one of the first part nor one of the last
    have hspent := places_mark hm hp hpq d
    have hkept := hu m hmem
    rw [← htotal] at hspent
    omega

/-! ### What no mark reaches over -/

/-- A text with a backslash before every quotation mark. -/
def escapeQuotes (t : Text) : Text := t.flatMap fun c => if c = '"' then ['\\', '"'] else [c]

theorem escapeQuotes_quote_cons (t : Text) :
    escapeQuotes ('"' :: t) = '\\' :: '"' :: escapeQuotes t := rfl

theorem escapeQuotes_cons {c : Char} (hc : c ≠ '"') (t : Text) :
    escapeQuotes (c :: t) = c :: escapeQuotes t := by
  simp [escapeQuotes, hc]

theorem quoteArg_eq (arg : Text) : quoteArg arg = '"' :: (escapeQuotes arg ++ ['"']) := rfl

section Mark

variable {m : Text} (hm : m ∈ marks)
include hm

/-- No mark begins with any of some characters. -/
theorem places_append_of_marks {s : Text}
    (hs : (marks.all fun m => s.all fun c => m.head? ≠ some c) = true) (t : Text) :
    places m (s ++ t) = places m t := by
  have hne : ∀ m ∈ marks, m ≠ [] := by decide
  have hhead := List.all_eq_true.1 (List.all_eq_true.1 hs m hm)
  exact places_append_of_head? (hne m hm) (fun c hc => of_decide_eq_true (hhead c hc)) t

/-- No mark reaches into some texts. -/
theorem places_append_of_sealed {t : Text} (ht : (marks.all fun m => isSealed m t) = true)
    (s : Text) : places m (s ++ t) = places m s + places m t :=
  places_append_of_isSealed (List.all_eq_true.1 ht m hm) s

theorem places_quoteMark_cons (t : Text) : places m ('"' :: t) = places m t :=
  places_append_of_marks hm (s := ['"']) (by decide) t

/-- No mark reaches over a quotation mark. -/
theorem places_append_quoteMark (s t : Text) :
    places m (s ++ '"' :: t) = places m s + places m t := by
  have hsealed : (marks.all fun m => isSealed m ('"' :: t)) = true := rfl
  rw [places_append_of_sealed hm hsealed, places_quoteMark_cons hm]

/-- Nor over a closing parenthesis. -/
theorem places_append_closing (s t : Text) :
    places m (s ++ ')' :: t) = places m s + places m t := by
  have hsealed : (marks.all fun m => isSealed m (')' :: t)) = true := rfl
  have hclosing : places m (')' :: t) = places m t :=
    places_append_of_marks hm (s := [')']) (by decide) t
  rw [places_append_of_sealed hm hsealed, hclosing]

/-! ### Scriptlet rules -/

omit hm in
theorem isPrefixOf_escapeQuotes {p : Text} (hquote : '"' ∉ p) (hescape : '\\' ∉ p) (t : Text) :
    p.isPrefixOf (escapeQuotes t) = p.isPrefixOf t := by
  induction p generalizing t with
  | nil => simp
  | cons d p ih =>
    rw [List.mem_cons, not_or] at hquote hescape
    rcases t with _ | ⟨c, t⟩
    · rfl
    · by_cases hc : c = '"'
      · have hd : (d == '\\') = false ∧ (d == '"') = false := by
          simp [Ne.symm hescape.1, Ne.symm hquote.1]
        rw [hc, escapeQuotes_quote_cons]
        simp [List.isPrefixOf, hd]
      · rw [escapeQuotes_cons hc, List.isPrefixOf, List.isPrefixOf, ih hquote.2 hescape.2]

/-- Escaping quotation marks makes no marks and takes none away. -/
theorem places_escapeQuotes (t : Text) : places m (escapeQuotes t) = places m t := by
  have hall : ∀ m ∈ marks, '"' ∉ m ∧ '\\' ∉ m := by decide
  have hstarts := isPrefixOf_escapeQuotes (hall m hm).1 (hall m hm).2
  induction t with
  | nil => rfl
  | cons c t ih =>
    by_cases hc : c = '"'
    · have hpair : escapeQuotes ('"' :: t) = ['\\', '"'] ++ escapeQuotes t := rfl
      rw [hc, hpair, places_append_of_marks hm (by decide), ih, places_quoteMark_cons hm]
    · have hcons := escapeQuotes_cons hc t
      rw [hcons, places_cons, places_cons, ← hcons, hstarts, ih]

theorem places_quoteArg_append (arg t : Text) :
    places m (quoteArg arg ++ t) = places m arg + places m t := by
  rw [quoteArg_eq, List.cons_append, places_quoteMark_cons hm, List.append_assoc,
    List.singleton_append, places_append_quoteMark hm, places_escapeQuotes hm]

theorem places_comma_space (t : Text) : places m (',' :: ' ' :: t) = places m t := by
  have hall : marks.all (fun m => !m.isPrefixOf (',' :: ' ' :: t)) = true := rfl
  have hno : m.isPrefixOf (',' :: ' ' :: t) = false := by
    simpa using List.all_eq_true.1 hall m hm
  have hspace : places m (' ' :: t) = places m t :=
    places_append_of_marks hm (s := [' ']) (by decide) t
  rw [places_cons, hno, hspace]
  simp

theorem places_arguments (arg : Text) (args : List Text) (t : Text) :
    places m ([',', ' '].intercalate (quoteArg arg :: args.map quoteArg) ++ t) =
      places m arg + placesIn m args + places m t := by
  induction args generalizing arg with
  | nil =>
    rw [List.map_nil, List.intercalate_singleton, places_quoteArg_append hm, placesIn_nil,
      Nat.add_zero]
  | cons arg' args ih =>
    rw [List.map_cons, List.intercalate_cons_cons, List.append_assoc, List.append_assoc,
      places_quoteArg_append hm, List.cons_append, List.singleton_append, places_comma_space hm, ih,
      placesIn_cons]
    omega

end Mark

/-- What the sign of a scriptlet rule has in common with the signs of other dialects. -/
def signFront (isException : Bool) : Text := if isException then ['#', '@'] else ['#']

/-- The marks in a scriptlet rule are those in front of its sign and in its arguments. -/
theorem markPlaces_scriptletRule {m : Text} (hm : m ∈ marks) (domains : Text) (isException : Bool)
    (name : Text) (args : List Text) :
    markPlaces m (scriptletRule domains isException name args) =
      places m (domains ++ signFront isException) + (places m name + placesIn m args) := by
  let call := [',', ' '].intercalate (quoteArg name :: args.map quoteArg) ++ [')', ',']
  have hsign : scriptletSign isException = signFront isException ++ "%#//scriptlet(".toList := by
    cases isException <;> rfl
  have hrule : scriptletRule domains isException name args ++ [','] =
      domains ++ signFront isException ++ '%' :: ("#//scriptlet(".toList ++ call) := by
    simp only [scriptletRule, hsign, call, List.append_assoc]
    rfl
  obtain ⟨rest, hrest⟩ : ∃ rest, call = '"' :: rest := by
    cases args <;> exact ⟨_, rfl⟩
  -- no mark holds a percent sign, so what is written behind the front of the sign counts by itself
  have hsealed :
      (marks.all fun m => isSealed m ('%' :: ("#//scriptlet(".toList ++ call))) = true := rfl
  have hnone : ∀ m ∈ marks, places m "%#//scriptlet(" = 0 ∧ places m [')', ','] = 0 := by decide
  calc markPlaces m (scriptletRule domains isException name args)
      = places m (domains ++ signFront isException) +
          places m ("%#//scriptlet(".toList ++ '"' :: rest) := by
        rw [markPlaces, hrule, places_append_of_sealed hm hsealed, hrest]
        rfl
    _ = places m (domains ++ signFront isException) + places m call := by
        rw [places_append_quoteMark hm, (hnone m hm).1, Nat.zero_add, hrest,
          places_quoteMark_cons hm]
    _ = _ := by rw [places_arguments hm, (hnone m hm).2, Nat.add_zero]

/-! ### Rewritings -/

theorem eq_append_of_splitAtSign? {sign exceptionSign rule before after : Text} {isException : Bool}
    (h : splitAtSign? sign exceptionSign rule = some (before, isException, after)) :
    rule = before ++ ((if isException then exceptionSign else sign) ++ after) := by
  unfold splitAtSign? at h
  split at h
  · next hcut =>
    cases h
    exact eq_append_of_cut? hcut
  · obtain ⟨s, hcut, h⟩ := Option.map_eq_some_iff.1 h
    cases h
    exact eq_append_of_cut? hcut

/-- A scriptlet rule for a rule with another sign, whose name and arguments are taken from what
follows the sign. -/
theorem scriptletRule_spends {t domains after name : Text} {args : List Text} {isException : Bool}
    {q : Text} (hmem : signFront isException ++ q ∈ marks) (hq : q ≠ [])
    (ht : t = domains ++ (signFront isException ++ q ++ after))
    (hargs : ∀ m ∈ marks, places m name + placesIn m args ≤ places m after) :
    Spends (signFront isException ++ q) t (scriptletRule domains isException name args) := by
  have hfront : signFront isException ++ q ≠ [] := by simp [hq]
  refine spends_of_mark (d := domains) (p := signFront isException) (q := q) (r := after ++ [','])
    hmem (by simp [ht]) ⟨after ++ [','], by simp⟩ ?_ hfront ?_
  · have := List.length_pos_iff.2 hq
    rw [List.length_append]
    omega
  · intro m hm
    have hafter := places_append_le m after [',']
    have hcall := hargs m hm
    rw [markPlaces_scriptletRule hm]
    omega

/-- A prefix in front of the name of a scriptlet. -/
theorem places_prefixed {m : Text} (hm : m ∈ marks) (name : Text) :
    places m ("ubo-".toList ++ name) = places m name ∧
      places m ("abp-".toList ++ name) = places m name :=
  ⟨places_append_of_marks hm (by decide) name, places_append_of_marks hm (by decide) name⟩

theorem scriptletCall?_spends {t u : Text} (h : scriptletCall? t = some u) :
    ∃ m ∈ otherMarks, Spends m t u := by
  unfold scriptletCall? at h
  split at h
  · cases h
  · next domains isException after hsplit =>
    have hsign : (if isException then "#@#+js(".toList else "##+js(".toList) =
        signFront isException ++ "#+js(".toList := by
      cases isException <;> rfl
    have hmem : signFront isException ++ "#+js(".toList ∈ otherMarks :=
      callMarks_subset (by cases isException <;> decide)
    have ht := eq_append_of_splitAtSign? hsplit
    rw [hsign] at ht
    dsimp only at h
    split at h
    · next c name args hargs =>
      cases h
      let inner := (stripEnd? [')'] after).getD after
      have hinner : inner <:+: after := (getD_stripEnd?_isPrefix [')'] after).isInfix
      refine ⟨_, hmem, scriptletRule_spends (otherMarks_subset hmem) (by decide) ht fun m hm => ?_⟩
      calc places m ("ubo-".toList ++ c :: name) + placesIn m args
          = placesIn m ((inner.splitOn ',').map trim) := by
            rw [(places_prefixed hm _).1, hargs, placesIn_cons]
        _ ≤ placesIn m (inner.splitOn ',') := placesIn_map_le (places_trim_le m)
        _ ≤ places m inner := placesIn_splitOn_le m ',' inner
        _ ≤ places m after := places_le_of_isInfix hinner
    · cases h

/-- Every rewriting of snippets gives some rule, and each of them spends the mark. -/
theorem snippets?_spends {t : Text} {us : List Text} (h : snippets? t = some us) :
    us ≠ [] ∧ ∃ m ∈ otherMarks, ∀ u ∈ us, Spends m t u := by
  unfold snippets? at h
  split at h
  · cases h
  · next domains isException after hsplit =>
    have hsign : (if isException then "#@$#".toList else "#$#".toList) =
        signFront isException ++ "$#".toList := by
      cases isException <;> rfl
    have hmem : signFront isException ++ "$#".toList ∈ otherMarks :=
      snippetMarks_subset (by cases isException <;> decide)
    have ht := eq_append_of_splitAtSign? hsplit
    rw [hsign] at ht
    split_ifs at h with hstyle
    split at h
    · cases h
    · next hne =>
      cases h
      refine ⟨by simpa using hne, _, hmem, fun u hu => ?_⟩
      obtain ⟨statement, hstatement, hu⟩ := List.mem_filterMap.1 hu
      unfold snippet? at hu
      split at hu
      · next name args hwords =>
        cases hu
        refine scriptletRule_spends (otherMarks_subset hmem) (by decide) ht fun m hm => ?_
        calc places m ("abp-".toList ++ name) + placesIn m args
            = placesIn m (words statement) := by
              rw [(places_prefixed hm _).2, hwords, placesIn_cons]
          _ ≤ places m statement := placesIn_words_le m statement
          _ ≤ placesIn m (splitOutsideQuotes ';' '\'' after) := places_le_placesIn hstatement
          _ ≤ places m after := placesIn_splitOutsideQuotes_le m ';' '\'' after
      · cases hu

/-! ### Texts of scripts -/

/-- A rule on the text of scripts taken apart: its conditions hold no start of a condition. -/
theorem scriptContents?_eq_some {t : Text} {us : List Text} (h : scriptContents? t = some us) :
    ∃ domains chain, ∃ conditions : List Text, cut? scriptSign t = some (domains, chain) ∧
      (∀ c ∈ conditions, ¬hasText <:+: c) ∧
      (∀ m, placesIn m conditions ≤ places m chain) ∧
      (conditions.filter fun c => !isRegexCondition c) ≠ [] ∧
      us = (conditions.filter fun c => !isRegexCondition c).map (contentRule domains) ++
        if (conditions.filter isRegexCondition).isEmpty then []
        else [regexRule domains (conditions.filter isRegexCondition)] := by
  unfold scriptContents? at h
  split at h
  · cases h
  · next domains chain hcut =>
    split at h
    · next parts hparts =>
      split at h
      · cases h
      · next conditions hconditions =>
        have hmap := mapM_stripEnd?_eq_some_iff.1 hconditions
        have hnone : ∀ c ∈ conditions, ¬hasText <:+: c := by
          intro c hc hin
          have hpart : c ++ [')'] ∈ pieces hasText chain := by
            rw [hparts, hmap]
            exact List.mem_cons_of_mem _ (List.mem_map_of_mem hc)
          exact not_infix_of_mem_piecesFrom (by decide) hpart
            (hin.trans (List.prefix_append c [')']).isInfix)
        have hplaces : ∀ m, placesIn m conditions ≤ places m chain := by
          intro m
          calc placesIn m conditions
              ≤ placesIn m (conditions.map (· ++ [')'])) :=
                placesIn_le_map fun c => places_le_of_isInfix (List.prefix_append c [')']).isInfix
            _ ≤ placesIn m (pieces hasText chain) := by
                rw [hparts, hmap]
                exact placesIn_le_of_sublist (List.sublist_cons_self [] _)
            _ ≤ places m chain := placesIn_pieces_le m (by decide) chain
        rw [List.partition_eq_filter_filter] at h
        dsimp only at h
        split_ifs at h with hempty hregex
        · cases h
          exact ⟨domains, chain, conditions, hcut, hnone, hplaces, by simpa using hempty,
            by rw [if_pos hregex]; rfl⟩
        · cases h
          exact ⟨domains, chain, conditions, hcut, hnone, hplaces, by simpa using hempty,
            by rw [if_neg hregex]; rfl⟩
    · cases h

/-- A rule for a text in scripts spends the sign. -/
theorem contentRule_spends {t domains chain content : Text}
    (ht : t = domains ++ (scriptSign ++ chain))
    (hcontent : ∀ m ∈ marks, places m content ≤ places m chain) :
    Spends scriptSign t (contentRule domains content) := by
  refine spends_of_mark (d := domains) (p := []) (q := scriptSign) (r := chain ++ [','])
    scriptSign_mem_marks (by simp [ht]) ⟨chain ++ [','], by simp⟩ (by decide) (by decide) ?_
  intro m hm
  have hrule : contentRule domains content ++ [','] =
      domains ++ ("$$script[tag-content=".toList ++ '"' :: (content ++ '"' :: [']', ','])) := by
    simp only [contentRule, List.append_assoc]
    rfl
  have hsealed : (marks.all fun m => isSealed m ("$$script[tag-content=".toList ++
      '"' :: (content ++ '"' :: [']', ',']))) = true := rfl
  have hnone : ∀ m ∈ marks, places m "$$script[tag-content=" = 0 ∧ places m [']', ','] = 0 := by
    decide
  have hchain := places_append_le m chain [',']
  calc markPlaces m (contentRule domains content)
      = places m domains + places m content := by
        rw [markPlaces, hrule, places_append_of_sealed hm hsealed, places_append_quoteMark hm,
          places_append_quoteMark hm, (hnone m hm).1, (hnone m hm).2, Nat.zero_add, Nat.add_zero]
    _ ≤ places m (domains ++ []) + places m (chain ++ [',']) := by
        have hle := hcontent m hm
        rw [List.append_nil]
        omega

/-- Conditions as they are written one after the other. -/
def writtenConditions (conditions : List Text) : Text :=
  conditions.flatMap fun c => hasText ++ c ++ [')']

theorem writtenConditions_cons (c : Text) (cs : List Text) :
    writtenConditions (c :: cs) = hasText ++ (c ++ ')' :: writtenConditions cs) := by
  simp [writtenConditions]

theorem regexRule_eq (domains : Text) (conditions : List Text) :
    regexRule domains conditions = domains ++ (scriptSign ++ writtenConditions conditions) := by
  rw [regexRule, List.append_assoc]
  rfl

theorem places_writtenConditions {m : Text} (hm : m ∈ marks) (conditions : List Text) :
    places m (writtenConditions conditions ++ [',']) = placesIn m conditions := by
  induction conditions with
  | nil =>
    have hnone : ∀ m ∈ marks, places m [','] = 0 := by decide
    exact hnone m hm
  | cons c cs ih =>
    rw [writtenConditions_cons, List.append_assoc, List.append_assoc, List.cons_append,
      places_append_of_marks hm (by decide), places_append_closing hm, ih, placesIn_cons]

/-- The marks in a rule for expressions in scripts are those up to the sign and in the
expressions. -/
theorem markPlaces_regexRule {m : Text} (hm : m ∈ marks) (domains : Text) {conditions : List Text}
    (hne : conditions ≠ []) :
    markPlaces m (regexRule domains conditions) =
      places m (domains ++ scriptSign) + placesIn m conditions := by
  obtain ⟨c, cs, rfl⟩ := List.exists_cons_of_ne_nil hne
  have hrule : regexRule domains (c :: cs) ++ [','] =
      domains ++ scriptSign ++ (writtenConditions (c :: cs) ++ [',']) := by
    simp only [regexRule_eq, List.append_assoc]
  have hsealed :
      (marks.all fun m => isSealed m (writtenConditions (c :: cs) ++ [','])) = true := rfl
  rw [markPlaces, hrule, places_append_of_sealed hm hsealed, places_writtenConditions hm]

/-- What is left of a rule for the expressions in it makes no marks and keeps the sign. -/
theorem regexRule_keeps {t domains chain : Text} {conditions : List Text}
    (ht : t = domains ++ (scriptSign ++ chain)) (hne : conditions ≠ [])
    (hplaces : ∀ m, placesIn m conditions ≤ places m chain) :
    (∀ m ∈ marks, markPlaces m (regexRule domains conditions) ≤ markPlaces m t) ∧
      0 < markPlaces scriptSign (regexRule domains conditions) := by
  constructor
  · intro m hm
    have hleft := places_append_le m (domains ++ scriptSign) (chain ++ [','])
    have hright := places_append_le m chain [',']
    have htotal : markPlaces m t = places m (domains ++ scriptSign ++ (chain ++ [','])) := by
      rw [markPlaces, ht]
      simp only [List.append_assoc]
    have hle := hplaces m
    rw [markPlaces_regexRule hm domains hne]
    omega
  · have hsign : places scriptSign scriptSign = 1 := by decide
    have hleft := places_append_le scriptSign domains scriptSign
    rw [markPlaces_regexRule scriptSign_mem_marks domains hne]
    omega

theorem pieces_writtenConditions {conditions : List Text}
    (hnone : ∀ c ∈ conditions, ¬hasText <:+: c) :
    pieces hasText (writtenConditions conditions) = [] :: conditions.map (· ++ [')']) := by
  induction conditions with
  | nil => rfl
  | cons c cs ih =>
    obtain ⟨hc, hcs⟩ := List.forall_mem_cons.1 hnone
    -- the closing parenthesis keeps a condition apart from the start of the next
    have hclosing : pieces hasText (')' :: writtenConditions cs) =
        (pieces hasText (writtenConditions cs)).modifyHead (')' :: ·) := rfl
    rw [writtenConditions_cons, pieces_sep_append (by decide), pieces_append hc rfl, hclosing,
      ih hcs]
    rfl

/-- A rule for expressions in scripts is in the common form. -/
theorem scriptContents?_regexRule {t domains chain : Text} {conditions : List Text}
    (hcut : cut? scriptSign t = some (domains, chain))
    (hnone : ∀ c ∈ conditions, ¬hasText <:+: c)
    (hregex : ∀ c ∈ conditions, isRegexCondition c = true) :
    scriptContents? (regexRule domains conditions) = none := by
  have hrule : cut? scriptSign (regexRule domains conditions) =
      some (domains, writtenConditions conditions) := by
    rw [regexRule_eq]
    exact cut?_append (by decide) hcut _
  have hcontents : conditions.filter (not ∘ isRegexCondition) = [] := by simpa using hregex
  have hstrip : (conditions.map (· ++ [')'])).mapM (stripEnd? [')']) = some conditions :=
    mapM_stripEnd?_eq_some_iff.2 rfl
  rw [scriptContents?, hrule]
  simp only [pieces_writtenConditions hnone, hstrip, List.partition_eq_filter_filter, hcontents,
    List.isEmpty_nil, if_true]

/-! ### All types -/

theorem replaceToken_eq {old : Text} {ts : List Text} (h : old ∈ ts) :
    ∃ before after, ts = before ++ old :: after ∧
      ∀ new, replaceToken old new ts = before ++ new :: after := by
  induction ts with
  | nil => cases h
  | cons t ts ih =>
    by_cases ht : t = old
    · exact ⟨[], ts, by rw [ht]; rfl, fun new => by rw [replaceToken, if_pos ht]; rfl⟩
    · obtain ⟨before, after, hts, hnew⟩ := ih ((List.mem_cons.1 h).resolve_left (Ne.symm ht))
      exact ⟨t :: before, after, by rw [hts]; rfl,
        fun new => by rw [replaceToken, if_neg ht, hnew]; rfl⟩

/-- A rule for all types taken apart at the option, behind the sign in front of it. -/
theorem allTypes?_eq_some {t : Text} {us : List Text} (h : allTypes? t = some us) :
    ∃ (front rest : Text) (sign : Char), sign :: "all,".toList ∈ allMarks ∧
      t ++ [','] = front ++ ([sign] ++ ("all".toList ++ ',' :: rest)) ∧
      us.map (· ++ [',']) =
        allReplacements.map fun new => front ++ [sign] ++ (new ++ ',' :: rest) := by
  unfold allTypes? at h
  split at h
  · cases h
  · next pattern options hcut =>
    dsimp only at h
    split_ifs at h with hall
    cases h
    obtain ⟨before, after, htokens, hnew⟩ := replaceToken_eq (List.contains_iff_mem.1 hall)
    have hoptions : options = [','].intercalate (before ++ allOption :: after) := by
      rw [← htokens, List.intercalate_splitOn]
    -- the comma that is counted behind the last option stands behind those that follow
    obtain ⟨rest, hrest⟩ : ∃ rest, after.flatMap (',' :: ·) ++ [','] = ',' :: rest := by
      rcases after with _ | ⟨u, after⟩ <;> exact ⟨_, rfl⟩
    obtain ⟨front, sign, hsign, hfront⟩ : ∃ (front : Text) (sign : Char),
        sign :: "all,".toList ∈ allMarks ∧
          pattern ++ '$' :: before.flatMap (· ++ [',']) = front ++ [sign] := by
      rcases List.eq_nil_or_concat before with rfl | ⟨before, b, rfl⟩
      · exact ⟨pattern, '$', by decide, rfl⟩
      · exact ⟨pattern ++ '$' :: (before.flatMap (· ++ [',']) ++ b), ',', by decide, by simp⟩
    have hwritten : ∀ new, pattern ++ '$' :: [','].intercalate (before ++ new :: after) ++ [','] =
        front ++ [sign] ++ (new ++ ',' :: rest) := by
      intro new
      rw [intercalate_append_cons, ← hfront, ← hrest]
      simp only [List.append_assoc, List.cons_append]
    refine ⟨front, rest, sign, hsign, ?_, ?_⟩
    · rw [eq_append_of_cutLastUnescaped? hcut, hoptions, hwritten, List.append_assoc]
      rfl
    · rw [List.map_map]
      refine List.map_congr_left fun new _ => ?_
      rw [Function.comp_apply, hnew, hwritten]

/-- Every rewriting of the option spends its mark. -/
theorem allTypes?_spends {t : Text} {us : List Text} (h : allTypes? t = some us) :
    us ≠ [] ∧ ∃ m ∈ otherMarks, ∀ u ∈ us, Spends m t u := by
  obtain ⟨front, rest, sign, hsign, ht, hus⟩ := allTypes?_eq_some h
  have hmem := allMarks_subset hsign
  refine ⟨?_, _, hmem, fun u hu => ?_⟩
  · rintro rfl
    cases hus
  · obtain ⟨new, hnew, hu⟩ : ∃ new ∈ allReplacements,
        front ++ [sign] ++ (new ++ ',' :: rest) = u ++ [','] := by
      rw [← List.mem_map, ← hus]
      exact List.mem_map_of_mem hu
    refine spends_of_mark (otherMarks_subset hmem) ht ⟨rest, by simp⟩ (by simp) (by simp) ?_
    intro m hm
    -- neither new option ends a mark that begins before it, and no mark begins inside of them
    have hsealed : (allReplacements.all fun new =>
        marks.all fun m => isSealed m (new ++ ',' :: rest)) = true := rfl
    have hchars : ∀ new ∈ allReplacements,
        (marks.all fun m => new.all fun c => m.head? ≠ some c) = true := by decide
    rw [markPlaces, ← hu, places_append_of_sealed hm (List.all_eq_true.1 hsealed new hnew),
      places_append_of_marks hm (hchars new hnew)]

end ContentBlocker.Dialect
