import ContentBlocker.Filter.Network
import ContentBlocker.Proofs.Text.Replacing

/-!
# Pattern and options

A network rule is written with a dollar sign between its pattern and its options, and with a
backslash before every dollar sign in the options.

* `IsSigned` says of a rule that it is a text with the sign of exceptions in front, or without it;
* `IsExpression` are the regular expressions that are not split;
* `splitOptions_eq_some_iff` and `splitOptions_eq_none_iff` say what is split and where;
* `splitOptions_inverts`: what was written is split again, and whatever is split was written so.
-/

namespace ContentBlocker.UrlRule

open Text

/-! ### The sign of exceptions -/

/-- The rule is the text with the sign of exceptions in front, or the text alone if it does not
begin with that sign. -/
def IsSigned (rule t : Text) : Prop :=
  rule = exceptionSign ++ t ∨ ¬exceptionSign <+: rule ∧ rule = t

theorem IsSigned.body_eq {rule t : Text} (h : IsSigned rule t) : body rule = t := by
  rcases h with rfl | ⟨hsign, rfl⟩
  · rw [body, stripStart?_append, Option.getD_some]
  · rw [body, stripStart?, if_neg (by rwa [List.isPrefixOf_iff_prefix]), Option.getD_none]

theorem isSigned_body (rule : Text) : IsSigned rule (body rule) := by
  by_cases hsign : exceptionSign <+: rule
  · obtain ⟨t, rfl⟩ := hsign
    exact .inl (by rw [body, stripStart?_append, Option.getD_some])
  · have hbody : body rule = rule := IsSigned.body_eq (.inr ⟨hsign, rfl⟩)
    exact .inr ⟨hsign, hbody.symm⟩

/-! ### Regular expressions -/

/-- The text is a regular expression between slashes that replaces nothing. -/
def IsExpression (t : Text) : Prop :=
  (∃ inner, t = '/' :: (inner ++ ['/'])) ∧ ¬replaceOption <:+: t

theorem betweenSlashes_iff {t : Text} :
    betweenSlashes t = true ↔ t = ['/'] ∨ ∃ inner, t = '/' :: (inner ++ ['/']) := by
  rw [betweenSlashes, Bool.and_eq_true, decide_eq_true_iff, decide_eq_true_iff]
  constructor
  · rintro ⟨hfirst, hlast⟩
    obtain ⟨t, rfl⟩ := List.head?_eq_some_iff.1 hfirst
    rcases List.eq_nil_or_concat' t with rfl | ⟨inner, c, rfl⟩
    · exact .inl rfl
    · rw [List.getLast?_cons, List.getLast?_concat] at hlast
      obtain rfl := Option.some.inj hlast
      exact .inr ⟨inner, rfl⟩
  · rintro (rfl | ⟨inner, rfl⟩)
    · exact ⟨rfl, rfl⟩
    · simp [List.getLast?_cons]

/-- A single slash is not split either, but it holds no dollar sign. -/
theorem isKept_iff {t : Text} :
    (betweenSlashes t && !has replaceOption t) = true ↔ IsExpression t ∨ t = ['/'] := by
  have hslash : ¬replaceOption <:+: ['/'] := by
    rw [← has_iff_infix]
    decide
  rw [Bool.and_eq_true, betweenSlashes_iff, Bool.not_eq_true', ← Bool.not_eq_true, has_iff_infix,
    IsExpression]
  constructor
  · rintro ⟨rfl | hinner, hreplace⟩
    · exact .inr rfl
    · exact .inl ⟨hinner, hreplace⟩
  · rintro (⟨hinner, hreplace⟩ | rfl)
    · exact ⟨.inr hinner, hreplace⟩
    · exact ⟨.inl rfl, hslash⟩

/-! ### Splitting -/

section Splitting

variable {rule pattern options : Text}

theorem splitOptions_of_isExpression (h : IsExpression (body rule)) :
    splitOptions rule = (body rule, none) := by
  rw [splitOptions, if_pos (isKept_iff.2 (.inl h))]

theorem splitOptions_of_not_isExpression (h : ¬IsExpression (body rule)) :
    splitOptions rule =
      (cutLastUnescaped? '$' '\\' (body rule)).elim (body rule, none)
        fun s => (s.1, some (replaceAll "\\$" "$" s.2)) := by
  by_cases hslash : body rule = ['/']
  · rw [splitOptions, hslash]
    rfl
  · rw [splitOptions, if_neg (by rw [isKept_iff, not_or]; exact ⟨h, hslash⟩)]
    cases cutLastUnescaped? '$' '\\' (body rule) <;> rfl

/-- A rule is split at its last unescaped dollar sign, and the escapes are taken out of its
options. -/
theorem splitOptions_eq_some_iff :
    splitOptions rule = (pattern, some options) ↔
      ¬IsExpression (body rule) ∧
        ∃ raw, IsLastUnescaped '$' '\\' (body rule) pattern raw ∧
          options = replaceAll "\\$" "$" raw := by
  simp only [← cutLastUnescaped?_eq_some_iff]
  by_cases h : IsExpression (body rule)
  · simp [splitOptions_of_isExpression h, h]
  · rw [splitOptions_of_not_isExpression h, and_iff_right h]
    rcases cutLastUnescaped? '$' '\\' (body rule) with _ | ⟨before, raw⟩
    · simp
    · simp [and_assoc, eq_comm]

/-- A rule is not split if it is a regular expression or has no such dollar sign. -/
theorem splitOptions_eq_none_iff :
    splitOptions rule = (pattern, none) ↔
      pattern = body rule ∧ (IsExpression pattern ∨ AllEscaped '$' '\\' pattern) := by
  simp only [← cutLastUnescaped?_eq_none_iff]
  by_cases h : IsExpression (body rule)
  · rw [splitOptions_of_isExpression h, Prod.mk.injEq, and_iff_left rfl]
    constructor
    · rintro rfl
      exact ⟨rfl, .inl h⟩
    · exact fun hbody => hbody.1.symm
  · rw [splitOptions_of_not_isExpression h]
    rcases hcut : cutLastUnescaped? '$' '\\' (body rule) with _ | ⟨before, raw⟩
    · rw [Option.elim_none, Prod.mk.injEq, and_iff_left rfl]
      constructor
      · rintro rfl
        exact ⟨rfl, .inr hcut⟩
      · exact fun hbody => hbody.1.symm
    · rw [Option.elim_some, Prod.mk.injEq]
      refine iff_of_false (fun hnone => by cases hnone.2) ?_
      rintro ⟨rfl, hexpression | hnone⟩
      · exact h hexpression
      · rw [hcut] at hnone
        cases hnone

end Splitting

/-! ### Writing -/

/-- A pattern and options with a dollar sign between them, and a backslash before every dollar sign
in the options. -/
def withOptions (pattern options : Text) : Text :=
  pattern ++ '$' :: escapeDelimiters '$' '\\' options

/-- The dollar sign in front of the options is the last one that is not escaped. -/
theorem isLastUnescaped_withOptions {pattern options : Text} (hp : pattern.getLast? ≠ some '\\')
    (ho : options ≠ []) :
    IsLastUnescaped '$' '\\' (withOptions pattern options) pattern
      (escapeDelimiters '$' '\\' options) := by
  refine ⟨rfl, fun hnil => ho ?_, hp, fun u v huv _ => ?_⟩
  · rw [← replaceAll_escapeDelimiters (by decide : '$' ≠ '\\') options, hnil]
    rfl
  · rw [List.getLast?_cons, getLast?_of_escapeDelimiters (by decide) huv, Option.getD_some]

theorem splitOptions_of_isSigned {rule pattern options : Text}
    (hrule : IsSigned rule (withOptions pattern options)) (hp : pattern.getLast? ≠ some '\\')
    (ho : options ≠ []) (hexpression : ¬IsExpression (withOptions pattern options)) :
    splitOptions rule = (pattern, some options) := by
  rw [splitOptions_eq_some_iff, hrule.body_eq]
  exact ⟨hexpression, _, isLastUnescaped_withOptions hp ho,
    (replaceAll_escapeDelimiters (by decide) options).symm⟩

/-- Behind a pattern that does not begin with the sign of exceptions nothing makes one. -/
theorem isSigned_withOptions {pattern : Text} (h : ¬exceptionSign <+: pattern) (options : Text) :
    IsSigned (withOptions pattern options) (withOptions pattern options) := by
  refine .inr ⟨fun hsign => h ?_, rfl⟩
  rcases pattern with _ | ⟨c, pattern⟩
  · exact absurd (List.cons_prefix_cons.1 hsign).1 (by decide)
  · have hsealed : isSealed exceptionSign ('$' :: escapeDelimiters '$' '\\' options) = true :=
      isSealed_cons_of_notMem (by decide) _
    rwa [← List.isPrefixOf_iff_prefix, withOptions, isPrefixOf_append_of_isSealed hsealed,
      List.isPrefixOf_iff_prefix] at hsign

/-- **Splitting undoes writing.**  Write options behind a pattern that does not end with a
backslash, with a dollar sign between them and a backslash before every dollar sign in the options,
and perhaps the sign of exceptions in front; without that sign the pattern must not begin with it.  Unless this
is a regular expression, the rule is split into this pattern and these options.

The other way round, a rule that is split has the pattern, a dollar sign and a text that is not
empty behind its sign; in that text every dollar sign but one at its end has a backslash right
before it, and the options are the text with these backslashes taken out.  A rule that is not split
is a regular expression behind its sign, or has no dollar sign without a backslash right before it
but one at its end. -/
theorem splitOptions_inverts :
    (∀ pattern options : Text, pattern.getLast? ≠ some '\\' → options ≠ [] →
      ¬IsExpression (withOptions pattern options) →
        (¬exceptionSign <+: pattern →
          splitOptions (withOptions pattern options) = (pattern, some options)) ∧
        splitOptions (exceptionSign ++ withOptions pattern options) = (pattern, some options)) ∧
    ∀ rule pattern : Text,
      (∀ options, splitOptions rule = (pattern, some options) →
        ∃ raw, IsSigned rule (pattern ++ '$' :: raw) ∧ raw ≠ [] ∧
          IsReplaced "\\$" "$" raw options ∧ AllEscaped '$' '\\' raw) ∧
      (splitOptions rule = (pattern, none) →
        IsSigned rule pattern ∧ (IsExpression pattern ∨ AllEscaped '$' '\\' pattern)) := by
  refine ⟨fun pattern options hp ho hexpression => ⟨fun hsign => ?_, ?_⟩,
    fun rule pattern => ⟨fun options h => ?_, fun h => ?_⟩⟩
  · exact splitOptions_of_isSigned (isSigned_withOptions hsign options) hp ho hexpression
  · exact splitOptions_of_isSigned (.inl rfl) hp ho hexpression
  · obtain ⟨-, raw, hlast, rfl⟩ := splitOptions_eq_some_iff.1 h
    refine ⟨raw, ?_, hlast.ne_nil, isReplaced_replaceAll (by decide) _ raw,
      hlast.allEscaped (by decide)⟩
    rw [← hlast.eq]
    exact isSigned_body rule
  · obtain ⟨rfl, hkept⟩ := splitOptions_eq_none_iff.1 h
    exact ⟨isSigned_body rule, hkept⟩

/-- Dollar signs in the pattern and in the options, an exception, and a regular expression that is
not split. -/
theorem splitOptions_inverts_dollars :
    let pattern : Text := "||é.org/a$b\\$c"
    let options : Text := "domain=x$y,csp=$"
    let written := withOptions pattern options
    (pattern.getLast? ≠ some '\\' ∧ options ≠ [] ∧ ¬IsExpression written ∧
      ¬exceptionSign <+: pattern ∧ splitOptions written = (pattern, some options)) ∧
    (splitOptions (exceptionSign ++ written) = (pattern, some options) ∧
      ∃ raw, IsSigned (exceptionSign ++ written) (pattern ++ '$' :: raw) ∧ raw ≠ [] ∧
        IsReplaced "\\$" "$" raw options ∧ AllEscaped '$' '\\' raw) ∧
    splitOptions "/ads$/" = ("/ads$/".toList, none) ∧ IsSigned "/ads$/" "/ads$/" ∧
      (IsExpression "/ads$/" ∨ AllEscaped '$' '\\' "/ads$/") := by
  intro pattern options written
  have hlast : pattern.getLast? ≠ some '\\' := by decide
  have hne : options ≠ [] := by decide
  have hexpression : ¬IsExpression written := by
    rintro ⟨⟨inner, hinner⟩, -⟩
    have hhead : some '|' = some '/' := congrArg List.head? hinner
    exact absurd hhead (by decide)
  have hsign : ¬exceptionSign <+: pattern := by decide
  have hkept : splitOptions "/ads$/" = ("/ads$/".toList, none) := by decide
  obtain ⟨hwritten, hread⟩ := splitOptions_inverts
  obtain ⟨hplain, hexception⟩ := hwritten pattern options hlast hne hexpression
  exact ⟨⟨hlast, hne, hexpression, hsign, hplain hsign⟩,
    ⟨hexception, (hread _ pattern).1 options hexception⟩, hkept, (hread _ _).2 hkept⟩

end ContentBlocker.UrlRule
