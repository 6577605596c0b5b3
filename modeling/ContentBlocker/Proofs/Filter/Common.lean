import ContentBlocker.Proofs.Filter.Settling
import ContentBlocker.Proofs.Text.Splitting
import ContentBlocker.Proofs.Text.Words

/-!
# What the rewritings look for

A rule stands for itself if no rewriting applies to it, and only then.  Each rewriting looks for a
sign anywhere in the rule, and for something behind the sign.

* `IsBehindSign` is what follows the sign that a rule is split at;
* `HoldsCall`, `HoldsSnippets`, `HoldsContents` and `HoldsAll` say what each rewriting looks for;
* `isCommon_iff` says that a rule is in the common form if it holds none of these;
* `normalize_eq_self_iff` says that other rules never stand for themselves;
* `normalize_settles` says what is left to rewrite in the rules that normalizing gives.
-/

namespace ContentBlocker.Dialect

open Text

/-! ### Rules that stand for themselves -/

/-- A rewriting never gives the rule itself: the rule would have as many marks as before, and none
may be left for its expressions. -/
theorem normalize_eq_self_iff {t : Text} : normalize t = [t] ↔ IsCommon t := by
  refine ⟨fun h => ?_, IsCommon.normalize_eq⟩
  by_contra hcommon
  rcases (normalize_step hcommon).2 t (by rw [h]; exact List.mem_singleton_self t) with
    ⟨m, hspends, -⟩ | hleaves
  · exact absurd hspends.markCount_lt (lt_irrefl _)
  · exact hleaves.rewritten hleaves.settled

/-! ### Signs -/

/-- The text follows the first sign of a rule, or the first sign of exceptions if the rule holds no
other. -/
def IsBehindSign (sign exceptionSign rule after : Text) : Prop :=
  (∃ front, IsFirst sign rule front after) ∨
    ¬sign <:+: rule ∧ ∃ front, IsFirst exceptionSign rule front after

theorem isBehindSign_iff {sign exceptionSign rule after : Text} (hs : sign ≠ [])
    (he : exceptionSign ≠ []) :
    IsBehindSign sign exceptionSign rule after ↔
      ∃ front isException,
        splitAtSign? sign exceptionSign rule = some (front, isException, after) := by
  simp only [IsBehindSign, ← cut?_eq_some_iff hs, ← cut?_eq_some_iff he, ← cut?_eq_none_iff]
  rw [splitAtSign?]
  cases cut? sign rule with
  | none => cases cut? exceptionSign rule <;> simp [Prod.ext_iff]
  | some s => simp [Prod.ext_iff]

/-! ### Scriptlets -/

/-- What is written as the name of a scriptlet behind the sign `+js`: all up to the first comma, or up
to the end without the closing parenthesis. -/
def callName (after : Text) : Text := ((stripEnd? [')'] after).getD after).takeWhile (· ≠ ',')

/-- A name that is not blank follows the sign of scriptlets after `+js`. -/
def HoldsCall (rule : Text) : Prop :=
  ∃ after, IsBehindSign "##+js(" "#@#+js(" rule after ∧ ¬IsGap (callName after)

theorem scriptletCall?_eq_none_iff {rule : Text} :
    scriptletCall? rule = none ↔ ¬HoldsCall rule := by
  simp only [HoldsCall, isBehindSign_iff (by decide : "##+js(".toList ≠ [])
    (by decide : "#@#+js(".toList ≠ [])]
  rw [scriptletCall?]
  rcases splitAtSign? "##+js(" "#@#+js(" rule with _ | ⟨domains, isException, after⟩
  · simp
  · obtain ⟨rest, hrest⟩ := splitOn_eq_cons ',' ((stripEnd? [')'] after).getD after)
    rw [← callName] at hrest
    have hname := trim_eq_nil_iff (t := callName after)
    dsimp only
    rw [hrest, List.map_cons]
    rcases htrim : trim (callName after) with _ | ⟨c, name⟩ <;> simp [← hname, htrim]

/-! ### Snippets -/

/-- More than blanks and semicolons follows the sign of snippets, and the rule applies no style. -/
def HoldsSnippets (rule : Text) : Prop :=
  isStyleRule rule = false ∧
    ∃ after, IsBehindSign "#$#" "#@$#" rule after ∧ ¬∀ c ∈ after, c = ';' ∨ isBlank c = true

/-- Every part of a body that is not blank is a call. -/
theorem filterMap_snippet?_eq_nil_iff (domains : Text) (isException : Bool) (after : Text) :
    (splitOutsideQuotes ';' '\'' after).filterMap (snippet? domains isException) = [] ↔
      ∀ c ∈ after, c = ';' ∨ isBlank c = true := by
  have hparts := splitOutsideQuotes_eq_nil_iff (by decide : ';' ≠ '\'') (by decide) (t := after)
  rw [← hparts]
  refine ⟨fun h => ?_, fun h => by rw [h]; rfl⟩
  by_contra hne
  obtain ⟨part, hpart⟩ := List.exists_mem_of_ne_nil _ hne
  have hnone := List.forall_none_of_filterMap_eq_nil h part hpart
  obtain ⟨hpart, hempty⟩ := List.mem_filter.1 hpart
  obtain ⟨raw, -, rfl⟩ := List.mem_map.1 hpart
  obtain ⟨c, t, ht⟩ := List.exists_cons_of_ne_nil (by simpa using hempty : trim raw ≠ [])
  have hblank := head?_trim raw c (by rw [ht]; rfl)
  rcases hwords : words (trim raw) with _ | ⟨name, args⟩
  · have hgap := words_eq_nil_iff.1 hwords c (by rw [ht]; exact List.mem_cons_self)
    rw [hblank] at hgap
    cases hgap
  · rw [snippet?, hwords] at hnone
    cases hnone

theorem snippets?_eq_none_iff {rule : Text} : snippets? rule = none ↔ ¬HoldsSnippets rule := by
  simp only [HoldsSnippets, isBehindSign_iff (by decide : "#$#".toList ≠ [])
    (by decide : "#@$#".toList ≠ [])]
  rw [snippets?]
  rcases splitAtSign? "#$#" "#@$#" rule with _ | ⟨domains, isException, after⟩
  · simp
  · have hcalls := filterMap_snippet?_eq_nil_iff domains isException after
    dsimp only
    split_ifs with hstyle
    · simp [hstyle]
    · rcases hrules : (splitOutsideQuotes ';' '\'' after).filterMap
          (snippet? domains isException) with _ | ⟨r, rs⟩
      · simpa [hstyle, or_iff_not_imp_left] using hcalls.1 hrules
      · simpa [hstyle, or_iff_not_imp_left] using mt hcalls.2 (by simp [hrules])

/-! ### Texts of scripts -/

/-- Nothing but conditions on a text follows the sign of rules on the text of scripts, and one of
them is no regular expression. -/
def HoldsContents (rule : Text) : Prop :=
  ∃ front, ∃ conditions : List Text, IsFirst scriptSign rule front (writtenConditions conditions) ∧
    (∀ c ∈ conditions, ¬hasText <:+: c) ∧ ∃ c ∈ conditions, isRegexCondition c = false

/-- A chain of conditions is split into the conditions that it is written with. -/
theorem pieces_eq_iff {chain : Text} {conditions : List Text} :
    pieces hasText chain = [] :: conditions.map (· ++ [')']) ↔
      chain = writtenConditions conditions ∧ ∀ c ∈ conditions, ¬hasText <:+: c := by
  constructor
  · intro h
    constructor
    · have hchain := intercalate_piecesFrom (by decide : hasText ≠ []) 0 chain
      rw [← pieces, h, intercalate_cons_flatMap, List.flatMap_map] at hchain
      simpa [writtenConditions] using hchain.symm
    · intro c hc hin
      have hpiece : c ++ [')'] ∈ pieces hasText chain := by
        rw [h]
        exact List.mem_cons_of_mem _ (List.mem_map_of_mem hc)
      exact not_infix_of_mem_piecesFrom (by decide) hpiece
        (hin.trans (List.prefix_append c _).isInfix)
  · rintro ⟨rfl, hnone⟩
    exact pieces_writtenConditions hnone

theorem scriptContents?_eq_none_iff {rule : Text} :
    scriptContents? rule = none ↔ ¬HoldsContents rule := by
  constructor
  · rintro h ⟨front, conditions, hfirst, hnone, c, hc, hcontent⟩
    have hstrip : (conditions.map (· ++ [')'])).mapM (stripEnd? [')']) = some conditions :=
      mapM_stripEnd?_eq_some_iff.2 rfl
    have hregex : ∀ c ∈ conditions, isRegexCondition c = true := by
      simpa [scriptContents?, hfirst.cut?_eq, pieces_writtenConditions hnone, hstrip] using h
    rw [hregex c hc] at hcontent
    cases hcontent
  · intro h
    unfold scriptContents?
    split
    · rfl
    · next front chain hcut =>
      split
      · next parts hparts =>
        split
        · rfl
        · next conditions hconditions =>
          rw [mapM_stripEnd?_eq_some_iff.1 hconditions] at hparts
          obtain ⟨rfl, hnone⟩ := pieces_eq_iff.1 hparts
          have hregex : ∀ c ∈ conditions, isRegexCondition c = true := by
            by_contra hcontent
            refine h ⟨front, conditions, (cut?_eq_some_iff (by decide)).1 hcut, hnone, ?_⟩
            simpa using hcontent
          simpa using hregex
      · rfl

/-! ### All types -/

/-- The option that stands for others is among the options. -/
def HoldsAll (rule : Text) : Prop :=
  ∃ pattern options, IsLastUnescaped '$' '\\' rule pattern options ∧
    allOption ∈ options.splitOn ','

theorem allTypes?_eq_none_iff {rule : Text} : allTypes? rule = none ↔ ¬HoldsAll rule := by
  simp only [HoldsAll, ← cutLastUnescaped?_eq_some_iff]
  rw [allTypes?]
  rcases cutLastUnescaped? '$' '\\' rule with _ | ⟨pattern, options⟩ <;> simp

/-! ### All dialects -/

/-- A rule is in the common form if no rewriting finds what it looks for. -/
theorem isCommon_iff {rule : Text} :
    IsCommon rule ↔
      ¬HoldsCall rule ∧ ¬HoldsSnippets rule ∧ ¬HoldsContents rule ∧ ¬HoldsAll rule := by
  rw [← scriptletCall?_eq_none_iff, ← snippets?_eq_none_iff, ← scriptContents?_eq_none_iff,
    ← allTypes?_eq_none_iff]
  exact ⟨fun h => ⟨h.scriptletCall, h.snippets, h.scriptContents, h.allTypes⟩,
    fun ⟨hcall, hsnippets, hcontents, hall⟩ => ⟨hcall, hsnippets, hcontents, hall⟩⟩

/-! ### Normalizing again -/

/-- **Normalizing settles.**  Normalizing a rule gives some rules.  Normalizing one of these again
changes nothing just if it holds nothing that a rewriting looks for; no rewriting finds anything in
them if the rule has no more than one mark of a dialect.  A rule with several marks may need more
rounds, but never more than two for each mark. -/
theorem normalize_settles (t : Text) :
    normalize t ≠ [] ∧
    (∀ u ∈ normalize t, (normalize u = [u] ↔
      ¬HoldsCall u ∧ ¬HoldsSnippets u ∧ ¬HoldsContents u ∧ ¬HoldsAll u)) ∧
    (markCount t ≤ 1 → ∀ u ∈ normalize t, normalize u = [u]) ∧
    ∀ n, 2 * markCount t ≤ n → ∀ u ∈ rounds n t, normalize u = [u] :=
  ⟨normalize_ne_nil t, fun _ _ => normalize_eq_self_iff.trans isCommon_iff,
    fun ht _ hu => (isCommon_of_mem_normalize ht hu).normalize_eq,
    fun _ hn _ hu => (isCommon_of_mem_rounds ((Nat.sub_le _ _).trans hn) hu).normalize_eq⟩

example : markCount "||example.org^$all,important" = 1 := by decide

/-- One round replaces the first of two options that stand for others, and leaves the second. -/
theorem normalize_all_repeated :
    ∃ u ∈ normalize "||example.org^$all,all", normalize u ≠ [u] := by
  decide

end ContentBlocker.Dialect
