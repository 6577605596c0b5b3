import ContentBlocker.Proofs.Filter.Origins

/-!
# Selectors of rules that were read

A cosmetic rule without a selector is refused when it is read, so a rule of any line either is no
cosmetic rule or has a selector.

* `Rule.HasSelector` is what is said of one rule;
* `Rule.read_hasSelector` follows the reader of rules in the common form, and
  `Rule.IsRead.hasSelector` says it of all rules that were read.
-/

namespace ContentBlocker

/-- The rule is no cosmetic rule, or has a selector. -/
def Rule.HasSelector : Rule → Prop
  | .css r => r.selector ≠ []
  | _ => True

variable [Externals]

theorem CssRule.read_selector {text before after : Text} {marker : Marker} {r : CssRule}
    (h : CssRule.read text before marker after = .ok r) : r.selector ≠ [] := by
  unfold CssRule.read at h
  dsimp only at h
  split_ifs at h with hempty
  cases h
  simpa using hempty

namespace Rule

theorem readScript_hasSelector {text before after : Text} {marker : Marker} {r : Rule}
    (h : readScript text before marker after = .ok r) : r.HasSelector := by
  unfold readScript at h
  dsimp only at h
  split at h
  · split at h
    · cases h
      trivial
    · cases h
  · cases h
    trivial

theorem read_hasSelector {text : Text} {r : Rule} (h : Rule.read text = .ok (some r)) :
    r.HasSelector := by
  unfold Rule.read at h
  split at h
  · cases h
  · split at h
    · split at h
      · obtain ⟨c, hc, hr⟩ := map_eq_ok_iff.1 h
        cases hr
        exact CssRule.read_selector hc
      · obtain ⟨s, hs, hr⟩ := map_eq_ok_iff.1 h
        cases hr
        exact readScript_hasSelector hs
    · obtain ⟨u, -, hr⟩ := map_eq_ok_iff.1 h
      cases hr
      trivial

omit [Externals] in
theorem withFilterId_hasSelector {r : Rule} (h : r.HasSelector) (id : Int) :
    (r.withFilterId id).HasSelector := by
  cases r with
  | css r => exact h
  | url | script | scriptlet => trivial

theorem IsRead.hasSelector {r : Rule} (h : r.IsRead) : r.HasSelector := by
  obtain ⟨text, r', hread, rfl | ⟨id, rfl⟩⟩ := h
  · exact read_hasSelector hread
  · exact withFilterId_hasSelector (read_hasSelector hread) id

end Rule
end ContentBlocker
