import ContentBlocker.Proofs.Blocker.Safety
import ContentBlocker.Proofs.Conversion.Outcome
import ContentBlocker.Proofs.Filter.Options
import ContentBlocker.Proofs.Text.Searching
import ContentBlocker.Proofs.Text.Splitting

/-!
# What badfilter rules name

A badfilter rule is written like another rule, with one more option.  The rule that it cancels is
told from its text, by taking the option out again.

* `UrlRule.written` is a rule as it is written with a pattern and some options;
* `UrlRule.badfilterTarget_written`: wherever the option stands among others, taking it out leaves
  the rule without it;
* `UrlRule.read_badfilter` is the target of a rule that is read;
* `UrlRule.badfilter_names_written` puts the two together, and says what the rule cancels.
-/

namespace ContentBlocker

/-! ### Rules that one target cancels -/

/-- One more badfilter rule, wherever it stands, cancels the rules whose text is its target. -/
theorem Job.survivors_cons {r : Rule} {target : Text} (h : r.badfilter? = some target)
    (rs ss : List Rule) :
    survivors (rs ++ r :: ss) = (survivors (rs ++ ss)).filter (·.text ≠ target) := by
  have hplain : Badfilters.plain (rs ++ r :: ss) = Badfilters.plain (rs ++ ss) := by
    simp [Badfilters.plain, h]
  have htarget : Badfilters.targets (r :: ss) = target :: Badfilters.targets ss :=
    List.filterMap_cons_some h
  rw [survivors, survivors, hplain, Badfilters.targets_append, Badfilters.targets_append, htarget]
  simp only [uncancelled, List.filter_filter]
  refine List.filter_congr fun s _ => ?_
  simp only [List.mem_append, List.mem_cons]
  grind

namespace UrlRule

open Text

/-! ### Written rules -/

/-- The option of badfilter rules. -/
def badfilterOption : Text := "badfilter"

/-- A rule as it is written with a pattern and some options. -/
def written (pattern : Text) (options : List Text) : Text :=
  if options = [] then pattern else pattern ++ '$' :: [','].intercalate options

/-- An option that needs no escapes in a list of options. -/
structure IsPlainOption (option : Text) : Prop where
  ne_nil : option ≠ []
  comma : ',' ∉ option
  backslash : option.getLast? ≠ some '\\'

theorem written_of_ne_nil (pattern : Text) {options : List Text} (h : options ≠ []) :
    written pattern options = pattern ++ '$' :: [','].intercalate options := if_neg h

/-- More options stand behind a comma each. -/
theorem written_append (pattern : Text) {before : List Text} (h : before ≠ [])
    (after : List Text) :
    written pattern (before ++ after) = written pattern before ++ after.flatMap (',' :: ·) := by
  obtain ⟨o, before, rfl⟩ := List.exists_cons_of_ne_nil h
  rw [written_of_ne_nil _ h, written_of_ne_nil _ (by simp), List.cons_append, intercalate_cons_eq,
    intercalate_cons_eq]
  simp

/-! ### Taking the option out -/

section Target

variable {pattern : Text} (hp : ¬badfilterOption <:+: pattern)
include hp

/-- No text that holds the option stands over a sign in a rule that holds it nowhere else. -/
theorem not_infix_append {sign : Char} (hsign : sign ∉ badfilterOption) {p rest : Text}
    (hin : badfilterOption <:+: p) (hrest : ¬badfilterOption <:+: rest) :
    ¬p <:+: pattern ++ sign :: rest := by
  intro h
  rcases (infix_append_cons_iff (by decide) hsign _ _).1 (hin.trans h) with h | h
  · exact hp h
  · exact hrest h

/-- A rule without the option in its pattern and among its options does not hold it at all. -/
theorem not_infix_written {options : List Text} (ho : ∀ o ∈ options, ¬badfilterOption <:+: o) :
    ¬badfilterOption <:+: written pattern options := by
  unfold written
  split_ifs with h
  · exact hp
  · refine not_infix_append hp (by decide) List.infix_rfl ?_
    rw [infix_intercalate_iff (by decide) (by decide)]
    rintro ⟨o, hmem, h⟩
    exact ho o hmem h

/-- The option is not taken for the first of several where nothing follows it. -/
theorem not_infix_only : ¬"$badfilter,".toList <:+: pattern ++ '$' :: badfilterOption := by
  intro h
  have hin : "badfilter,".toList <:+: pattern ++ '$' :: badfilterOption :=
    List.IsInfix.trans ⟨['$'], [], rfl⟩ h
  rcases (infix_append_cons_iff (by decide) (by decide) _ _).1 hin with hin | hin
  · exact hp (List.IsInfix.trans ⟨[], [','], rfl⟩ hin)
  · exact absurd hin (by decide)

/-- The only option. -/
theorem badfilterTarget_only : badfilterTarget (written pattern [badfilterOption]) = pattern := by
  have hlater : ¬",badfilter".toList <:+: pattern ++ '$' :: badfilterOption := by
    intro h
    rcases (infix_append_cons_iff (by decide) (by decide) _ _).1 h with h | h
    · exact hp (List.IsInfix.trans ⟨[','], [], rfl⟩ h)
    · exact absurd h (by decide)
  have honly : IsFirst "$badfilter" (pattern ++ '$' :: badfilterOption) pattern [] :=
    ⟨rfl, not_infix_append hp (by decide) ⟨['$'], [], rfl⟩ (by decide : ¬_ <:+: "badfilte".toList)⟩
  rw [badfilterTarget, written_of_ne_nil _ (by simp), List.intercalate_singleton,
    replaceFirst_of_not_infix (not_infix_only hp), replaceFirst_of_not_infix hlater,
    replaceFirst_of_isFirst honly, List.append_nil, List.append_nil]

/-- The first of some options. -/
theorem badfilterTarget_first {options : List Text} (hne : options ≠ [])
    (ho : ∀ o ∈ options, ¬badfilterOption <:+: o) :
    badfilterTarget (written pattern (badfilterOption :: options)) = written pattern options := by
  have hfirst : IsFirst "$badfilter," (written pattern (badfilterOption :: options)) pattern
      ([','].intercalate options) := by
    refine ⟨?_, not_infix_only hp⟩
    rw [written_of_ne_nil _ (by simp), List.intercalate_cons_of_ne_nil hne, List.append_assoc]
    rfl
  have htaken : replaceFirst "$badfilter," "$" (written pattern (badfilterOption :: options)) =
      written pattern options := by
    rw [replaceFirst_of_isFirst hfirst, written_of_ne_nil _ hne, List.append_assoc]
    rfl
  have hnone : ∀ p : Text, badfilterOption <:+: p → ¬p <:+: written pattern options :=
    fun p hin h => not_infix_written hp ho (hin.trans h)
  rw [badfilterTarget, htaken,
    replaceFirst_of_not_infix (hnone ",badfilter".toList ⟨[','], [], rfl⟩),
    replaceFirst_of_not_infix (hnone "$badfilter".toList ⟨['$'], [], rfl⟩)]

/-- An option behind others. -/
theorem badfilterTarget_later {before after : List Text} (hne : before ≠ [])
    (ho : ∀ o ∈ before ++ after, ¬badfilterOption <:+: o) :
    badfilterTarget (written pattern (before ++ badfilterOption :: after)) =
      written pattern (before ++ after) := by
  have hbefore : ¬badfilterOption <:+: written pattern before :=
    not_infix_written hp fun o hmem => ho o (List.mem_append_left _ hmem)
  have hall := not_infix_written hp ho
  have htext : written pattern (before ++ badfilterOption :: after) =
      written pattern before ++ ',' :: [','].intercalate (badfilterOption :: after) := by
    rw [written_append _ hne, intercalate_cons_eq]
    rfl
  have hfirst : ¬"$badfilter,".toList <:+: written pattern (before ++ badfilterOption :: after) := by
    intro h
    have hin : "$badfilter".toList <:+: written pattern (before ++ badfilterOption :: after) :=
      List.IsInfix.trans ⟨[], [','], rfl⟩ h
    rw [htext, infix_append_cons_iff (by decide) (by decide),
      infix_intercalate_iff (by decide) (by decide)] at hin
    rcases hin with hin | ⟨o, hmem, hin⟩
    · exact hbefore (List.IsInfix.trans ⟨['$'], [], rfl⟩ hin)
    · rcases List.mem_cons.1 hmem with rfl | hmem
      · exact absurd hin (by decide)
      · exact ho o (List.mem_append_right _ hmem) (List.IsInfix.trans ⟨['$'], [], rfl⟩ hin)
  have hlater : IsFirst ",badfilter" (written pattern (before ++ badfilterOption :: after))
      (written pattern before) (after.flatMap (',' :: ·)) := by
    constructor
    · rw [htext, intercalate_cons_eq]
      rfl
    · exact not_infix_append hbefore (by decide) ⟨[','], [], rfl⟩
        (by decide : ¬_ <:+: "badfilte".toList)
  have honly : ¬"$badfilter".toList <:+: written pattern (before ++ after) :=
    fun h => hall (List.IsInfix.trans ⟨['$'], [], rfl⟩ h)
  rw [badfilterTarget, replaceFirst_of_not_infix hfirst, replaceFirst_of_isFirst hlater,
    List.append_nil, ← written_append _ hne, replaceFirst_of_not_infix honly]

/-- Wherever the option stands, taking it out leaves the rule without it. -/
theorem badfilterTarget_written {before after : List Text}
    (ho : ∀ o ∈ before ++ after, ¬badfilterOption <:+: o) :
    badfilterTarget (written pattern (before ++ badfilterOption :: after)) =
      written pattern (before ++ after) := by
  rcases eq_or_ne before [] with rfl | hbefore
  · rcases eq_or_ne after [] with rfl | hafter
    · exact badfilterTarget_only hp
    · exact badfilterTarget_first hp hafter ho
  · exact badfilterTarget_later hp hbefore ho

end Target

/-! ### Reading badfilter rules -/

theorem withRegex_badfilter [Externals] {r r' : UrlRule} (h : r.withRegex = .ok r') :
    r'.badfilter = r.badfilter := by
  unfold withRegex at h
  split_ifs at h
  · split at h <;> cases h
    rfl
  · cases h
    rfl

theorem forDocuments_badfilter (r : UrlRule) : r.forDocuments.badfilter = r.badfilter := by
  unfold forDocuments
  split_ifs <;> rfl

/-- A rule that is read with the option among its options is a badfilter rule. -/
theorem read_badfilter [Externals] {text options : Text} {r : UrlRule}
    (h : UrlRule.read text = .ok r) (hoptions : (splitOptions text).2 = some options)
    (hmem : badfilterOption ∈ splitEscaped ',' '\\' false options) :
    r.badfilter = some (badfilterTarget text) := by
  unfold UrlRule.read at h
  rcases hs : splitOptions text with ⟨pattern, o⟩
  rw [hs] at h hoptions
  cases hoptions
  obtain ⟨s, happly, h⟩ := bind_eq_ok_iff.1 h
  obtain ⟨r', hregex, hcheck⟩ := bind_eq_ok_iff.1 h
  obtain rfl := checkCsp_eq hcheck
  have hall := applyAll_described text pattern [] (splitEscaped ',' '\\' false options)
  have happlied : (described text pattern []).applyAll (splitEscaped ',' '\\' false options) =
    .ok s := happly
  rw [happlied] at hall
  obtain ⟨-, hdescribed⟩ := Option.ite_none_right_eq_some.1 hall.symm
  rw [withRegex_badfilter hregex, forDocuments_badfilter, ← Option.some.inj hdescribed]
  exact if_pos (List.any_eq_true.2 ⟨_, hmem, rfl⟩)

/-- **A badfilter rule names the rule that it was made from.**  Take a rule that is written with a
pattern and some plain options, without the text of the option in either, and put the option before,
between or behind them.  If the options are found where they are written, and the rule is read, its
target is the text without the option.  So among any other rules it cancels those with this text, and
no others. -/
theorem badfilter_names_written [Externals] {pattern : Text} {before after : List Text}
    {r : UrlRule} (hp : ¬badfilterOption <:+: pattern)
    (ho : ∀ o ∈ before ++ after, IsPlainOption o ∧ ¬badfilterOption <:+: o)
    (hsplit : (splitOptions (written pattern (before ++ badfilterOption :: after))).2 =
      some ([','].intercalate (before ++ badfilterOption :: after)))
    (h : UrlRule.read (written pattern (before ++ badfilterOption :: after)) = .ok r) :
    r.badfilter = some (written pattern (before ++ after)) ∧
      ∀ rs ss : List Rule, Job.survivors (rs ++ .url r :: ss) =
        (Job.survivors (rs ++ ss)).filter (·.text ≠ written pattern (before ++ after)) := by
  have hplain : ∀ o ∈ before ++ badfilterOption :: after, IsPlainOption o := by
    have hoption : IsPlainOption badfilterOption := by constructor <;> decide
    simp only [List.forall_mem_append, List.forall_mem_cons] at ho ⊢
    exact ⟨fun o hmem => (ho.1 o hmem).1, hoption, fun o hmem => (ho.2 o hmem).1⟩
  have htokens : splitEscaped ',' '\\' false
      ([','].intercalate (before ++ badfilterOption :: after)) =
        before ++ badfilterOption :: after := by
    have hescape : (before ++ badfilterOption :: after).map (escapeDelimiters ',' '\\') =
        before ++ badfilterOption :: after :=
      (List.map_congr_left fun o hmem => escapeDelimiters_of_notMem (hplain o hmem).comma).trans
        (List.map_id _)
    calc splitEscaped ',' '\\' false ([','].intercalate (before ++ badfilterOption :: after))
        = splitEscaped ',' '\\' false ([','].intercalate
            ((before ++ badfilterOption :: after).map (escapeDelimiters ',' '\\'))) := by
          rw [hescape]
      _ = before ++ badfilterOption :: after :=
          splitEscaped_intercalate (by decide) fun o hmem =>
            ⟨(hplain o hmem).ne_nil, (hplain o hmem).backslash⟩
  have htarget := read_badfilter h hsplit (by rw [htokens]; simp)
  rw [badfilterTarget_written hp fun o hmem => (ho o hmem).2] at htarget
  exact ⟨htarget, Job.survivors_cons htarget⟩

/-- The option between two others, behind a pattern that holds the signs of options and all but the
last letter of its name. -/
theorem badfilter_names_written_between :
    let pattern : Text := "@@||a.com/$badfilte,x^"
    let before : List Text := ["image"]
    let after : List Text := ["domain=a.com|b.com"]
    ∃ r, UrlRule.read "@@||a.com/$badfilte,x^$image,badfilter,domain=a.com|b.com" = .ok r ∧
      written pattern (before ++ badfilterOption :: after) =
        "@@||a.com/$badfilte,x^$image,badfilter,domain=a.com|b.com".toList ∧
      r.badfilter = some "@@||a.com/$badfilte,x^$image,domain=a.com|b.com".toList := by
  intro pattern before after
  have hok : (UrlRule.read (written pattern (before ++ badfilterOption :: after))).isOk = true := by
    decide +kernel
  rcases h : UrlRule.read (written pattern (before ++ badfilterOption :: after)) with e | r
  · rw [h] at hok
    cases hok
  · refine ⟨r, h, rfl, ?_⟩
    refine (badfilter_names_written (by decide) ?_ (by decide +kernel) h).1
    have hplain : ∀ o ∈ before ++ after, ¬badfilterOption <:+: o := by decide
    intro o hmem
    refine ⟨?_, hplain o hmem⟩
    obtain rfl | rfl : o = "image".toList ∨ o = "domain=a.com|b.com".toList := by
      simpa [before, after] using hmem
    all_goals constructor <;> decide

end UrlRule
end ContentBlocker
