import ContentBlocker.Conversion.Compaction
import ContentBlocker.Proofs.Blocker.Scoped

/-!
# Hiding rules by their domains

Compaction sorts rules by the lists of domains they have.  Those with a list stay as they are, and
those without one stay or are joined to rules without a list.

* `CompactedCss.ofRulesFrom_cons` says what becomes of one rule;
* `CompactedCss.ofRulesFrom_specific`, `CompactedCss.ofRulesFrom_generic` and
  `CompactedCss.mem_wide_ofRules` say it of all rules;
* `CompactedCss.Sorted` says of a compaction that its rules are of one type and sorted by their
  lists, and `CompactedCss.ofRules_sorted` that this is so.
-/

namespace ContentBlocker

namespace BlockerRule

/-- The rule is of the type and has no list of domains. -/
def isWide (type : ActionType) (r : BlockerRule) : Bool :=
  r.action.type = type ∧ r.trigger.ifDomain = none ∧ r.trigger.unlessDomain = none

theorem isWide_iff {type : ActionType} {r : BlockerRule} :
    r.isWide type = true ↔
      r.action.type = type ∧ r.trigger.ifDomain = none ∧ r.trigger.unlessDomain = none := by
  simp [isWide]

@[simp] theorem isWide_withWildcards (type : ActionType) (r : BlockerRule) :
    r.withWildcards.isWide type = r.isWide type := by
  simp [isWide, withWildcards, Trigger.withWildcards]

end BlockerRule

namespace CompactedCss

/-! ### The three lists -/

/-- What becomes of one rule.  With a list of domains, it is put in front of the others of its kind.
Without one, it is put in front of the wide rules too, or else its selector waits, or it is joined
with those that wait. -/
theorem ofRulesFrom_cons (merge : Bool) (waiting : List Text) (r : BlockerRule)
    (rs : List BlockerRule) :
    let c := ofRulesFrom merge waiting rs
    (r.trigger.ifDomains ≠ [] ∧
        ofRulesFrom merge waiting (r :: rs) = { c with specific := r :: c.specific }) ∨
      (r.trigger.ifDomains = [] ∧ r.trigger.unlessDomains ≠ [] ∧
        ofRulesFrom merge waiting (r :: rs) = { c with generic := r :: c.generic }) ∨
      (r.trigger.ifDomains = [] ∧ r.trigger.unlessDomains = [] ∧
        ofRulesFrom merge waiting (r :: rs) = { c with wide := r :: c.wide }) ∨
      (r.trigger.ifDomains = [] ∧ r.trigger.unlessDomains = [] ∧ merge = true ∧
        r.action.type = .cssDisplayNone ∧
        ∃ (left : List Text) (joined : List BlockerRule),
          left ⊆ waiting ++ r.action.selector.toList ∧
          (∀ s ∈ joined, ∃ selectors ⊆ waiting ++ r.action.selector.toList,
            s = wideRule selectors) ∧
          ofRulesFrom merge waiting (r :: rs) =
            { ofRulesFrom merge left rs with
              wide := joined ++ (ofRulesFrom merge left rs).wide }) := by
  intro c
  by_cases hi : r.trigger.ifDomains = []
  swap
  · exact .inl ⟨hi, by simp [ofRulesFrom, hi, c]⟩
  by_cases hu : r.trigger.unlessDomains = []
  swap
  · exact .inr (.inl ⟨hi, hu, by simp [ofRulesFrom, hi, hu, c]⟩)
  by_cases hm : merge = true ∧ r.action.type = .cssDisplayNone
  swap
  · refine .inr (.inr (.inl ⟨hi, hu, ?_⟩))
    simpa [ofRulesFrom, hi, hu, c] using fun hmerge htype => absurd ⟨hmerge, htype⟩ hm
  · refine .inr (.inr (.inr ⟨hi, hu, hm.1, hm.2, ?_⟩))
    rcases hs : r.action.selector with _ | s
    · exact ⟨waiting, [], by simp, by simp, by simp [ofRulesFrom, hi, hu, hm, hs]⟩
    by_cases hfull : maxSelectors ≤ waiting.length + 1
    · refine ⟨[], [wideRule (waiting ++ [s])], by simp, ?_,
        by simp [ofRulesFrom, hi, hu, hm, hs, hfull]⟩
      intro r' hr'
      exact ⟨waiting ++ [s], List.Subset.refl _, List.mem_singleton.1 hr'⟩
    · exact ⟨waiting ++ [s], [], List.Subset.refl _, by simp,
        by simp [ofRulesFrom, hi, hu, hm, hs, hfull]⟩

/-- The rules for some domains stay, in order. -/
theorem ofRulesFrom_specific (merge : Bool) (waiting : List Text) (rules : List BlockerRule) :
    (ofRulesFrom merge waiting rules).specific =
      rules.filter fun r => r.trigger.ifDomains ≠ [] := by
  induction rules generalizing waiting with
  | nil =>
    rw [ofRulesFrom]
    split <;> rfl
  | cons r rs ih =>
    rcases ofRulesFrom_cons merge waiting r rs with
      ⟨hi, h⟩ | ⟨hi, -, h⟩ | ⟨hi, -, h⟩ | ⟨hi, -, -, -, left, joined, -, -, h⟩ <;>
    simp [h, hi, ih]

/-- The rules for all domains but some stay, in order. -/
theorem ofRulesFrom_generic (merge : Bool) (waiting : List Text) (rules : List BlockerRule) :
    (ofRulesFrom merge waiting rules).generic =
      rules.filter fun r => r.trigger.ifDomains = [] ∧ r.trigger.unlessDomains ≠ [] := by
  induction rules generalizing waiting with
  | nil =>
    rw [ofRulesFrom]
    split <;> rfl
  | cons r rs ih =>
    rcases ofRulesFrom_cons merge waiting r rs with
      ⟨hi, h⟩ | ⟨hi, hu, h⟩ | ⟨hi, hu, h⟩ | ⟨hi, hu, -, -, left, joined, -, -, h⟩ <;>
    simp [*]

/-- A rule for all domains is one of the given ones, or joined if rules are joined.  What holds of
the selectors that wait and of those of hiding rules holds of those that are joined. -/
theorem mem_wide_ofRulesFrom {merge : Bool} {waiting : List Text}
    (hw : merge = false → waiting = []) {rules : List BlockerRule} {p : Text → Prop}
    (hp : ∀ t ∈ waiting, p t)
    (hr : ∀ r ∈ rules, r.action.type = .cssDisplayNone → ∀ t ∈ r.action.selector, p t)
    {s : BlockerRule} (hs : s ∈ (ofRulesFrom merge waiting rules).wide) :
    (s ∈ rules ∧ s.trigger.ifDomains = [] ∧ s.trigger.unlessDomains = []) ∨
      merge = true ∧ ∃ selectors, s = wideRule selectors ∧ ∀ t ∈ selectors, p t := by
  induction rules generalizing waiting with
  | nil =>
    rw [ofRulesFrom] at hs
    split at hs
    · cases hs
    · next h =>
      refine .inr ⟨?_, waiting, List.mem_singleton.1 hs, hp⟩
      by_contra hm
      simp [hw (Bool.eq_false_iff.2 hm)] at h
  | cons r rs ih =>
    obtain ⟨hfirst, hr⟩ := List.forall_mem_cons.1 hr
    -- in all cases but those where the first rule is wide, the rule comes from the others
    have hrest : ∀ {left : List Text}, (merge = false → left = []) → (∀ t ∈ left, p t) →
        s ∈ (ofRulesFrom merge left rs).wide →
        (s ∈ r :: rs ∧ s.trigger.ifDomains = [] ∧ s.trigger.unlessDomains = []) ∨
          merge = true ∧ ∃ selectors, s = wideRule selectors ∧ ∀ t ∈ selectors, p t :=
      fun hl hp hs => (ih hl hp hr hs).imp_left fun h => ⟨List.mem_cons_of_mem r h.1, h.2⟩
    rcases ofRulesFrom_cons merge waiting r rs with
      ⟨-, h⟩ | ⟨-, -, h⟩ | ⟨hi, hu, h⟩ | ⟨-, -, hm, htype, left, joined, hl, hj, h⟩ <;> rw [h] at hs
    · exact hrest hw hp hs
    · exact hrest hw hp hs
    · rcases List.mem_cons.1 hs with rfl | hs
      · exact .inl ⟨List.mem_cons_self, hi, hu⟩
      · exact hrest hw hp hs
    · have hp' : ∀ t ∈ waiting ++ r.action.selector.toList, p t := by
        rw [List.forall_mem_append]
        exact ⟨hp, fun t ht => hfirst htype t (Option.mem_toList.1 ht)⟩
      rcases List.mem_append.1 hs with hs | hs
      · obtain ⟨selectors, hsub, hjoined⟩ := hj s hs
        exact .inr ⟨hm, selectors, hjoined, fun t ht => hp' t (hsub ht)⟩
      · exact hrest (by simp [hm]) (fun t ht => hp' t (hl ht)) hs

/-- A rule for all domains is one of the given ones, or joined from selectors of hiding rules. -/
theorem mem_wide_ofRules {merge : Bool} {rules : List BlockerRule} {s : BlockerRule}
    (hs : s ∈ (ofRules merge rules).wide) :
    (s ∈ rules ∧ s.trigger.ifDomains = [] ∧ s.trigger.unlessDomains = []) ∨
      merge = true ∧ ∃ selectors, s = wideRule selectors ∧ ∀ t ∈ selectors,
        ∃ r ∈ rules, r.action.type = .cssDisplayNone ∧ r.action.selector = some t :=
  mem_wide_ofRulesFrom (fun _ => rfl) (by simp) (fun r hr ht _ hs => ⟨r, hr, ht, hs⟩) hs

/-! ### Sorted rules -/

/-- All rules are of the type and sorted by their lists of domains. -/
structure Sorted (type : ActionType) (c : CompactedCss) : Prop where
  wide : ∀ r ∈ c.wide, r.isWide type = true
  generic : ∀ r ∈ c.generic,
    r.action.type = type ∧ r.trigger.ifDomain = none ∧ r.trigger.unlessDomain ≠ none
  specific : ∀ r ∈ c.specific, r.action.type = type ∧ r.trigger.ifDomain ≠ none

theorem wideRule_isWide (selectors : List Text) :
    (wideRule selectors).isWide .cssDisplayNone = true := BlockerRule.isWide_iff.2 ⟨rfl, rfl, rfl⟩

/-- Compaction sorts rules of one type.  Joined rules hide elements, so rules are joined only if
this is what they do. -/
theorem ofRules_sorted {merge : Bool} {type : ActionType}
    (hm : merge = true → type = .cssDisplayNone) {rules : List BlockerRule}
    (ht : ∀ r ∈ rules, r.action.type = type) (hf : ∀ r ∈ rules, r.trigger.Filled) :
    (ofRules merge rules).Sorted type := by
  -- in a filled trigger, a list of domains that holds nothing is absent
  constructor
  · intro r hr
    rcases mem_wide_ofRules hr with ⟨hr, hi, hu⟩ | ⟨hmerge, selectors, rfl, -⟩
    · rw [BlockerRule.isWide_iff]
      exact ⟨ht r hr, Trigger.ifDomains_eq_nil (hf r hr) hi,
        Trigger.unlessDomains_eq_nil (hf r hr) hu⟩
    · rw [hm hmerge]
      exact wideRule_isWide selectors
  · intro r hr
    rw [ofRules, ofRulesFrom_generic, List.mem_filter, decide_eq_true_iff] at hr
    obtain ⟨hr, hi, hu⟩ := hr
    refine ⟨ht r hr, Trigger.ifDomains_eq_nil (hf r hr) hi, fun h => hu ?_⟩
    rw [Trigger.unlessDomains, h, Option.getD_none]
  · intro r hr
    rw [ofRules, ofRulesFrom_specific, List.mem_filter, decide_eq_true_iff] at hr
    obtain ⟨hr, hi⟩ := hr
    refine ⟨ht r hr, fun h => hi ?_⟩
    rw [Trigger.ifDomains, h, Option.getD_none]

theorem sorted_empty (type : ActionType) : Sorted type {} := by
  constructor <;> simp

end CompactedCss
end ContentBlocker
