import ContentBlocker.Filter.Dialect
import ContentBlocker.Proofs.Filter.OptionSplitting
import ContentBlocker.Proofs.Text.ByteSlices

/-!
# Cutting rules at bytes

Rules are cut at a dollar sign that is found among their bytes.

* `UrlRule.splitByBytes?` and `Dialect.allTypesByBytes?` read a rule so, and fail where a part of it
  begins or ends inside of a character;
* `UrlRule.splitByBytes?_eq` and `Dialect.allTypesByBytes?_eq`: they never fail, and give what
  `splitOptions` and `allTypes?` give;
* `lastUnescaped?_exact`: what the search finds, that it ends, and that texts can be cut there.
-/

namespace ContentBlocker

open Text

namespace UrlRule

/-! ### Pattern and options -/

/-- The number of bytes of the sign in front of an exception, where a rule has one. -/
def signLength (rule : Text) : ℕ :=
  if exceptionSign.isPrefixOf rule then utf8Length exceptionSign else 0

/-- The pattern of a rule and its options, cut out of its bytes. -/
def splitByBytes? (rule : Text) : Option (Text × Option Text) := do
  let start := signLength rule
  let pattern ← slice? start (utf8Length rule) rule
  if betweenSlashes pattern && !has replaceOption pattern then some (pattern, none)
  else do
    match ← cutByBytes? '$' '\\' start rule with
    | some (before, options) => some (before, some (replaceAll "\\$" "$" options))
    | none => some (pattern, none)

/-- What stands in front of the body of a rule does not end with a backslash. -/
theorem exists_front (rule : Text) :
    ∃ front, rule = front ++ body rule ∧ utf8Length front = signLength rule ∧
      front.getLast? ≠ some '\\' := by
  rcases isSigned_body rule with hrule | ⟨hsign, hrule⟩
  · have hprefix : exceptionSign.isPrefixOf rule = true :=
      List.isPrefixOf_iff_prefix.2 ⟨body rule, hrule.symm⟩
    exact ⟨exceptionSign, hrule, (if_pos hprefix).symm, by decide⟩
  · rw [← List.isPrefixOf_iff_prefix] at hsign
    exact ⟨[], hrule, (if_neg hsign).symm, by decide⟩

theorem splitByBytes?_eq (rule : Text) : splitByBytes? rule = some (splitOptions rule) := by
  obtain ⟨front, hrule, hlength, hlast⟩ := exists_front rule
  have hbody : slice? (signLength rule) (utf8Length rule) rule = some (body rule) :=
    slice?_eq_some_iff.2 ⟨front, [], by rw [List.append_nil, ← hrule], hlength, by rw [← hrule]⟩
  have hcut : cutByBytes? '$' '\\' (signLength rule) rule =
      some (cutLastUnescaped? '$' '\\' (body rule)) := by
    have happend : cutByBytes? '$' '\\' (utf8Length front) (front ++ body rule) =
        some (cutLastUnescaped? '$' '\\' (body rule)) :=
      cutByBytes?_append (by decide) (by decide) hlast (body rule)
    rwa [← hrule, hlength] at happend
  rw [splitByBytes?, splitOptions]
  simp only [hbody, hcut, Option.bind_eq_bind, Option.bind_some]
  split_ifs
  · rfl
  · cases cutLastUnescaped? '$' '\\' (body rule) <;> rfl

end UrlRule

namespace Dialect

/-! ### All types -/

/-- The rules that a rule with the option `all` stands for, cut out of its bytes. -/
def allTypesByBytes? (rule : Text) : Option (Option (List Text)) := do
  match ← cutByBytes? '$' '\\' 0 rule with
  | none => some none
  | some (pattern, options) =>
    let tokens := options.splitOn ','
    if tokens.contains allOption then
      some (some (allReplacements.map fun new =>
        pattern ++ '$' :: [','].intercalate (replaceToken allOption new tokens)))
    else some none

theorem allTypesByBytes?_eq (rule : Text) : allTypesByBytes? rule = some (allTypes? rule) := by
  have hnil : ([] : Text).getLast? ≠ some '\\' := by decide
  have hcut : cutByBytes? '$' '\\' 0 rule = some (cutLastUnescaped? '$' '\\' rule) :=
    cutByBytes?_append (by decide) (by decide) hnil rule
  rw [allTypesByBytes?, allTypes?, hcut]
  rcases cutLastUnescaped? '$' '\\' rule with _ | ⟨pattern, options⟩
  · rfl
  · simp only [Option.bind_eq_bind, Option.bind_some]
    split_ifs <;> rfl

end Dialect

/-! ### The search -/

/-- **The search finds the last place and stays in the text.**  No round of a search among the bytes
of a text reads beyond them or goes below the first, and after as many rounds as there are bytes it
is over.  It has then found the last place not before `start` and before the last byte which holds
`needle` without `escape` right before it, or nothing if there is no such place.

If `needle` is below 128, a text can be cut before and after what was found in it: this is how rules
are split into pattern and options, and how the option `all` is replaced. -/
theorem lastUnescaped?_exact (needle escape : UInt8) (start : ℕ) (t : Text) :
    ((∀ n, (Search.after? needle escape start (utf8 t) n).isSome) ∧
      ∀ n, utf8Length t ≤ n + 1 →
        Search.after? needle escape start (utf8 t) n =
          some (.over (lastUnescaped? needle escape start (utf8 t)))) ∧
    ((∀ i, lastUnescaped? needle escape start (utf8 t) = some i ↔
        IsGreatest (stops needle escape start (utf8 t)) i) ∧
      (lastUnescaped? needle escape start (utf8 t) = none ↔
        stops needle escape start (utf8 t) = ∅)) ∧
    (needle < 128 → ∀ i, lastUnescaped? needle escape start (utf8 t) = some i →
      IsBoundary t i ∧ IsBoundary t (i + 1)) ∧
    UrlRule.splitByBytes? t = some (UrlRule.splitOptions t) ∧
    Dialect.allTypesByBytes? t = some (Dialect.allTypes? t) := by
  refine ⟨⟨fun n => ?_, fun n hn => ?_⟩, ⟨fun i => lastUnescaped?_eq_some_iff,
    lastUnescaped?_eq_none_iff⟩, fun hneedle i => isBoundary_of_lastUnescaped? hneedle,
    UrlRule.splitByBytes?_eq t, Dialect.allTypesByBytes?_eq t⟩
  · obtain ⟨s, hs, -⟩ := Search.isAfter_after? needle escape start (utf8 t) n
    rw [hs, Option.isSome_some]
  · exact Search.after?_eq (by rwa [length_utf8])

/-- Between characters of two bytes, the dollar sign after an escaped one and before one at the
end. -/
theorem lastUnescaped?_exact_characters :
    let t : Text := "é\\$ж$ü$"
    Search.after? 36 92 3 (utf8 t) 9 = some (.over (some 6)) ∧ IsBoundary t 6 ∧ IsBoundary t 7 := by
  intro t
  obtain ⟨⟨-, hover⟩, -, hboundary, -⟩ := lastUnescaped?_exact 36 92 3 t
  have hfound : lastUnescaped? 36 92 3 (utf8 t) = some 6 := by decide
  have hlength : utf8Length t ≤ 10 := by decide
  rw [← hfound]
  exact ⟨hover 9 hlength, hboundary (by decide) 6 hfound⟩

end ContentBlocker
