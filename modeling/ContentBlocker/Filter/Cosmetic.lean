import ContentBlocker.Filter.Error
import ContentBlocker.Filter.Marker
import ContentBlocker.Filter.Rule

/-!
# Cosmetic rules

Reading the rules that hide elements or apply styles.
-/

namespace ContentBlocker.CssRule

variable [Externals]

/-- What only an engine for extended selectors understands. -/
def extendedSigns : List Text :=
  ["[-ext-", ":has(", ":has-text(", ":contains(", ":matches-css(", ":matches-css-before(",
    ":matches-css-after(", ":-abp-has(", ":-abp-contains(", ":-abp-properties(", ":properties(",
    ":if(", ":if-not("]

/-- The selector needs an engine for extended selectors. -/
def isExtendedSelector (selector : Text) : Bool := extendedSigns.any (Text.has · selector)

/-- A style has something before its first brace and ends with a brace. -/
def isStyle (style : Text) : Bool :=
  match style with
  | [] => false
  | c :: rest => c ≠ '\x7b' && rest.contains '\x7b' && rest.getLast? = some '\x7d'

/-- Read the rule `text` that a marker splits into `before` and `after`. -/
def read (text before : Text) (marker : Marker) (after : Text) : Except RuleError CssRule :=
  let selector := Text.trim after
  if selector.isEmpty then .error .emptySelector
  else if marker.isInjection && !isStyle selector then .error (.invalidCssInjection selector)
  else .ok
    { text, scope := Scope.read before, isException := marker.isException, selector
      isExtended := marker.isExtended || isExtendedSelector selector
      isInjection := marker.isInjection }

end ContentBlocker.CssRule
