import ContentBlocker.Blocker.Emit
import Mathlib.Tactic

/-!
# What converted rules are made of

A converted rule has the trigger and the action that its kind of rules gives it.

* `CssRule.emit_ok`, `ScriptRule.emit_ok`, `ScriptletRule.emit_ok` and `UrlRule.emit_ok` say what a
  rule of each kind is converted to;
* `UrlRule.checkedTypes_ok` says what a network rule has passed before that.
-/

namespace ContentBlocker

/-! ### Cosmetic rules and scripts -/

theorem CssRule.emit_ok {r : CssRule} {b : BlockerRule} (h : r.emit = .ok b) :
    pageTrigger r.scope = .ok b.trigger ∧
      b.action =
        if r.isExtended || r.isInjection then
          { type := actionType r.isException .css, css := some r.selector }
        else { type := actionType r.isException .cssDisplayNone, selector := some r.selector } := by
  unfold CssRule.emit at h
  rcases ht : pageTrigger r.scope with e | t
  · rw [ht] at h
    cases h
  · rw [ht] at h
    dsimp only at h
    split_ifs at h with hx hu
    · cases h
      rw [if_pos hx]
      exact ⟨rfl, rfl⟩
    · cases h
      rw [if_neg hx]
      exact ⟨rfl, rfl⟩

/-- A rule that only adds an action to the trigger of its pages. -/
theorem map_pageTrigger_ok {s : Scope} {a : Action} {b : BlockerRule}
    (h : ((pageTrigger s).map fun t => ⟨t, a⟩) = .ok b) :
    pageTrigger s = .ok b.trigger ∧ b.action = a := by
  rcases ht : pageTrigger s with e | t
  · rw [ht] at h
    cases h
  · rw [ht] at h
    cases h
    exact ⟨rfl, rfl⟩

theorem ScriptRule.emit_ok {r : ScriptRule} {b : BlockerRule} (h : r.emit = .ok b) :
    pageTrigger r.scope = .ok b.trigger ∧
      b.action = { type := actionType r.isException .script, script := some r.script } :=
  map_pageTrigger_ok h

theorem ScriptletRule.emit_ok {r : ScriptletRule} {b : BlockerRule} (h : r.emit = .ok b) :
    pageTrigger r.scope = .ok b.trigger ∧
      b.action =
        { type := actionType r.isException .scriptlet
          scriptlet := some r.name, scriptletParam := some r.param } :=
  map_pageTrigger_ok h

/-! ### Network rules -/

namespace UrlRule

theorem checkedTypes_ok {r : UrlRule} {types : Option (List ResourceType)}
    (h : r.checkedTypes = .ok types) :
    r.isCsp = false ∧ UrlFilter.checkSafe r.urlFilter = .ok () ∧ r.resourceTypes = .ok types ∧
      (DomainLists.ofScope r.scope).isMixed = false := by
  simp only [checkedTypes, bind, Except.bind, pure, Except.pure, throw, throwThe,
    MonadExceptOf.throw] at h
  rcases hs : UrlFilter.checkSafe r.urlFilter with e | ⟨⟩
  · rw [hs] at h
    split_ifs at h
  rcases ht : r.resourceTypes with e | types'
  · rw [hs, ht] at h
    split_ifs at h
  rw [hs, ht] at h
  split_ifs at h with hc hm
  cases h
  exact ⟨by simpa using hc, rfl, rfl, by simpa using hm⟩

theorem emit_ok [Externals] {r : UrlRule} {b : BlockerRule} (h : r.emit.2 = .ok b) :
    ∃ types, r.checkedTypes = .ok types ∧ r.trigger r.pageDomain.2 types = .ok b.trigger ∧
      b.action = { type := actionType r.isException .block } ∧ r.blocksTooMuch b = false := by
  unfold emit at h
  rcases hc : r.checkedTypes with e | types
  · rw [hc] at h
    cases h
  · rw [hc] at h
    dsimp only at h
    rcases ht : r.trigger r.pageDomain.2 types with e | t
    · rw [ht] at h
      cases h
    · rw [ht] at h
      dsimp only at h
      split_ifs at h with hb
      cases h
      exact ⟨types, rfl, ht, rfl, by simpa using hb⟩

end UrlRule
end ContentBlocker
