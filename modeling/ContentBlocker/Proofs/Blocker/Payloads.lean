import ContentBlocker.Proofs.Blocker.Emission

/-!
# Payloads of converted rules

An action hides elements, applies a style, runs a script or a scriptlet, each with its payload, or
it blocks loads or undoes other rules, which needs none.

* `Action.IsExact` says that an action has exactly the payload of its type;
* `Rule.emit_isException`: exceptions, and no other rules, are converted to rules that undo others;
* `Rule.emit_isExact`: what a rule is converted to is exact, unless it is an exception that is no
  network rule.
-/

namespace ContentBlocker

/-- The action has the payload of its type and no other, and a style loads nothing. -/
inductive Action.IsExact : Action → Prop
  | block : IsExact { type := .block }
  | hide (selector : Text) : IsExact { type := .cssDisplayNone, selector := some selector }
  | style (css : Text) (h : ¬"url(".toList <:+: css) : IsExact { type := .css, css := some css }
  | script (script : Text) : IsExact { type := .script, script := some script }
  | scriptlet (name param : Text) :
    IsExact { type := .scriptlet, scriptlet := some name, scriptletParam := some param }
  | ignore : IsExact { type := .ignorePreviousRules }

/-- An action that hides elements is told by its selector. -/
theorem Action.IsExact.eq_of_selector {a : Action} (h : a.IsExact)
    (ht : a.type = .cssDisplayNone) {s : Text} (hs : a.selector = some s) :
    a = { type := .cssDisplayNone, selector := some s } := by
  cases h with
  | hide t =>
    cases hs
    rfl
  | block | style | script | scriptlet | ignore => cases ht

/-- A style that is no exception loads nothing. -/
theorem CssRule.emit_loads_nothing {r : CssRule} {b : BlockerRule} (h : r.emit = .ok b)
    (hx : r.isException = false) (hs : (r.isExtended || r.isInjection) = true) :
    ¬"url(".toList <:+: r.selector := by
  rw [← Text.has_iff_infix]
  intro hurl
  unfold CssRule.emit at h
  rcases ht : pageTrigger r.scope with e | t
  · rw [ht] at h
    cases h
  · rw [ht] at h
    simp only [hx, hs, hurl, Bool.not_false, Bool.true_and, if_true] at h
    cases h

namespace Rule

theorem isException_eq_false {r : Rule} (hx : r.head.isException = true → ∃ u, r = .url u)
    (hr : ∀ u, r ≠ .url u) : r.head.isException = false := by
  rw [Bool.eq_false_iff]
  intro h
  obtain ⟨u, hu⟩ := hx h
  exact hr u hu

variable [Externals]

variable {r : Rule} {b : BlockerRule} (h : r.emit.2 = .ok b)
include h

/-- An exception is converted to a rule that undoes others, and only an exception is. -/
theorem emit_isException :
    r.head.isException = true ↔ b.action.type = .ignorePreviousRules := by
  cases r with
  | css r =>
    rw [(CssRule.emit_ok h).2]
    show r.isException = true ↔ _
    cases r.isException <;> cases (r.isExtended || r.isInjection) <;> simp [actionType]
  | url r =>
    obtain ⟨-, -, -, ha, -⟩ := UrlRule.emit_ok h
    rw [ha]
    show r.isException = true ↔ _
    cases r.isException <;> simp [actionType]
  | script r =>
    rw [(ScriptRule.emit_ok h).2]
    show r.isException = true ↔ _
    cases r.isException <;> simp [actionType]
  | scriptlet r =>
    rw [(ScriptletRule.emit_ok h).2]
    show r.isException = true ↔ _
    cases r.isException <;> simp [actionType]

/-- What a rule is converted to has exactly the payload of its type.  Exceptions that are no network
rules keep theirs, since it tells which rules they undo. -/
theorem emit_isExact (hx : r.head.isException = true → ∃ u, r = .url u) : b.action.IsExact := by
  cases r with
  | css r =>
    have hr : r.isException = false := isException_eq_false hx (by simp)
    rw [(CssRule.emit_ok h).2, hr]
    split_ifs with hs
    · exact .style r.selector (CssRule.emit_loads_nothing h hr hs)
    · exact .hide r.selector
  | url r =>
    obtain ⟨-, -, -, ha, -⟩ := UrlRule.emit_ok h
    rw [ha]
    cases r.isException with
    | false => exact .block
    | true => exact .ignore
  | script r =>
    have hr : r.isException = false := isException_eq_false hx (by simp)
    rw [(ScriptRule.emit_ok h).2, hr]
    exact .script r.script
  | scriptlet r =>
    have hr : r.isException = false := isException_eq_false hx (by simp)
    rw [(ScriptletRule.emit_ok h).2, hr]
    exact .scriptlet r.name r.param

end Rule
end ContentBlocker
