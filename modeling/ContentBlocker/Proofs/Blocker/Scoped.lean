import ContentBlocker.Proofs.Blocker.Emission
import Mathlib.Tactic

/-!
# Domains of converted rules

A content blocker refuses a rule that has both lists of domains, and one whose list is empty.

* `Trigger.Filled`: no list of domains is there and empty;
* `Trigger.Scoped`: moreover, at most one of the lists is there;
* `Trigger.WellScoped`: moreover, all domains stand for their subdomains too;
* `Rule.emit_scoped`: what a rule is converted to is scoped;
* `Trigger.withWildcards_wellScoped`: with wildcards, it is well scoped.

The domains of exceptions leave a trigger filled, but not scoped; `Trigger.Filled.scoped` says when
it is scoped again.
-/

namespace ContentBlocker

namespace Trigger

/-! ### Conditions on the lists of a trigger -/

/-- No list of domains is there and empty. -/
structure Filled (t : Trigger) : Prop where
  included : t.ifDomain ≠ some []
  excluded : t.unlessDomain ≠ some []

/-- At most one list of domains is there, and it is not empty. -/
structure Scoped (t : Trigger) : Prop extends Filled t where
  exclusive : t.ifDomain = none ∨ t.unlessDomain = none

/-- At most one list of domains is there, it is not empty, and all domains in it begin with the
wildcard. -/
structure WellScoped (t : Trigger) : Prop extends Scoped t where
  wildcards : ∀ d ∈ t.ifDomains ++ t.unlessDomains, d.head? = some wildcard

theorem ifDomains_eq_nil {t : Trigger} (h : t.Filled) (he : t.ifDomains = []) :
    t.ifDomain = none := by
  rcases hi : t.ifDomain with _ | l
  · rfl
  · refine absurd ?_ h.included
    rw [hi, ← he, ifDomains, hi, Option.getD_some]

theorem unlessDomains_eq_nil {t : Trigger} (h : t.Filled) (he : t.unlessDomains = []) :
    t.unlessDomain = none := by
  rcases hu : t.unlessDomain with _ | l
  · rfl
  · refine absurd ?_ h.excluded
    rw [hu, ← he, unlessDomains, hu, Option.getD_some]

/-- A filled trigger without a conflict is scoped. -/
theorem Filled.scoped {t : Trigger} (h : t.Filled) (hc : t.hasConflict = false) : t.Scoped := by
  refine ⟨h, ?_⟩
  rw [hasConflict, Bool.and_eq_false_iff] at hc
  rcases hc with hi | hu
  · exact .inl (ifDomains_eq_nil h (by simpa using hi))
  · exact .inr (unlessDomains_eq_nil h (by simpa using hu))

/-- A trigger without lists of domains is scoped. -/
theorem scoped_of_none {t : Trigger} (hi : t.ifDomain = none) (hu : t.unlessDomain = none) :
    t.Scoped :=
  ⟨⟨by simp [hi], by simp [hu]⟩, .inl hi⟩

/-! ### Wildcards -/

theorem head?_addWildcard (d : Text) : (addWildcard d).head? = some wildcard := by
  unfold addWildcard
  split
  · assumption
  · rfl

@[simp] theorem ifDomains_withWildcards (t : Trigger) :
    t.withWildcards.ifDomains = t.ifDomains.map addWildcard := by
  obtain ⟨_, _, _, _, i, u⟩ := t
  cases i <;> rfl

@[simp] theorem unlessDomains_withWildcards (t : Trigger) :
    t.withWildcards.unlessDomains = t.unlessDomains.map addWildcard := by
  obtain ⟨_, _, _, _, i, u⟩ := t
  cases u <;> rfl

/-- With wildcards, a scoped trigger is well scoped. -/
theorem withWildcards_wellScoped {t : Trigger} (h : t.Scoped) : t.withWildcards.WellScoped := by
  refine ⟨⟨⟨?_, ?_⟩, ?_⟩, ?_⟩
  · simpa [withWildcards] using h.included
  · simpa [withWildcards] using h.excluded
  · rcases h.exclusive with hi | hu
    · exact .inl (by simp [withWildcards, hi])
    · exact .inr (by simp [withWildcards, hu])
  · intro d hd
    rw [ifDomains_withWildcards, unlessDomains_withWildcards, ← List.map_append] at hd
    obtain ⟨c, -, rfl⟩ := List.mem_map.1 hd
    exact head?_addWildcard c

end Trigger

/-! ### Writing the lists -/

namespace DomainLists

theorem present_ne_some_nil (domains : List Text) : present domains ≠ some [] := by
  unfold present
  split
  · simp
  · simpa using ‹¬domains.isEmpty = true›

/-- The lists that are written to a trigger make it scoped, whatever it had before. -/
theorem write_scoped {l : DomainLists} {t t' : Trigger} (h : l.write t = .ok t') : t'.Scoped := by
  unfold write at h
  split at h
  · cases h
  · cases h
    refine ⟨⟨present_ne_some_nil _, present_ne_some_nil _⟩, ?_⟩
    have hm : l.included = [] ∨ l.excluded = [] := by
      by_contra! hc
      simp_all [isMixed]
    rcases hm with hi | he
    · exact .inl (by simp [present, hi])
    · exact .inr (by simp [present, he])

end DomainLists

/-! ### Converting a rule -/

theorem pageTrigger_scoped {s : Scope} {t : Trigger} (h : pageTrigger s = .ok t) : t.Scoped :=
  DomainLists.write_scoped h

theorem CssRule.emit_scoped {r : CssRule} {b : BlockerRule} (h : r.emit = .ok b) :
    b.trigger.Scoped := pageTrigger_scoped (CssRule.emit_ok h).1

theorem ScriptRule.emit_scoped {r : ScriptRule} {b : BlockerRule} (h : r.emit = .ok b) :
    b.trigger.Scoped := pageTrigger_scoped (ScriptRule.emit_ok h).1

theorem ScriptletRule.emit_scoped {r : ScriptletRule} {b : BlockerRule} (h : r.emit = .ok b) :
    b.trigger.Scoped := pageTrigger_scoped (ScriptletRule.emit_ok h).1

namespace UrlRule

/-- Both shapes of triggers, for the pages of a domain and for loads, are scoped. -/
theorem trigger_scoped {r : UrlRule} {domain : Option Text} {types : Option (List ResourceType)}
    {t : Trigger} (h : r.trigger domain types = .ok t) : t.Scoped := by
  cases domain with
  | none => exact DomainLists.write_scoped h
  | some d => exact DomainLists.write_scoped h

theorem emit_scoped [Externals] {r : UrlRule} {b : BlockerRule} (h : r.emit.2 = .ok b) :
    b.trigger.Scoped := by
  obtain ⟨types, -, ht, -, -⟩ := emit_ok h
  exact trigger_scoped ht

end UrlRule

/-- **What a rule of any kind is converted to is scoped.** -/
theorem Rule.emit_scoped [Externals] {r : Rule} {b : BlockerRule} (h : r.emit.2 = .ok b) :
    b.trigger.Scoped := by
  cases r with
  | css r => exact CssRule.emit_scoped h
  | url r => exact UrlRule.emit_scoped h
  | script r => exact ScriptRule.emit_scoped h
  | scriptlet r => exact ScriptletRule.emit_scoped h

end ContentBlocker
