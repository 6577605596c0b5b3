import ContentBlocker.Filter.ContentType
import ContentBlocker.Filter.Scope

/-!
# Filter rules

The rules of a filter list as values.

* `CssRule`, `ScriptRule`, `ScriptletRule` and `UrlRule` are the four kinds;
* `Rule` is a rule of one of these kinds;
* `FilterRule` is what one line of a filter list holds: a rule, or several.
-/

namespace ContentBlocker

/-- What all kinds of rules have. -/
structure RuleHead where
  /-- The rule as it is written. -/
  text : Text
  /-- The number of the filter list. -/
  filterId : Option Int := none
  /-- The domains of the rule. -/
  scope : Scope := {}
  /-- The rule undoes others. -/
  isException : Bool
  deriving DecidableEq, Repr

/-- A rule that hides elements or applies a style. -/
structure CssRule extends RuleHead where
  /-- The selector, or the style. -/
  selector : Text
  /-- The selector needs an engine for extended selectors. -/
  isExtended : Bool
  /-- The rule applies a style. -/
  isInjection : Bool
  deriving DecidableEq, Repr

/-- A rule that runs a script. -/
structure ScriptRule extends RuleHead where
  /-- The script. -/
  script : Text
  deriving DecidableEq, Repr

/-- A rule that calls a scriptlet. -/
structure ScriptletRule extends RuleHead where
  /-- The name of the scriptlet. -/
  name : Text
  /-- The name and the arguments as JSON. -/
  param : Text
  deriving DecidableEq, Repr

/-- A rule that blocks loads by their address. -/
structure UrlRule extends RuleHead where
  /-- The pattern without options, with its host in ASCII. -/
  pattern : Text
  /-- The content types that the rule is for. -/
  permittedTypes : TypeSet := TypeSet.all
  /-- The content types that the rule is not for. -/
  restrictedTypes : TypeSet := TypeSet.empty
  /-- The options that are set. -/
  enabled : OptionSet := OptionSet.empty
  /-- The options that are cleared. -/
  disabled : OptionSet := OptionSet.empty
  /-- The rule goes before others. -/
  isImportant : Bool := false
  /-- The pattern is a regular expression. -/
  isRegex : Bool := false
  /-- The pattern as a regular expression. -/
  regex : Text := []
  /-- The text of the rule that this one cancels. -/
  badfilter : Option Text := none
  /-- The policy that the rule sets. -/
  csp : Option Text := none
  deriving DecidableEq, Repr

namespace UrlRule

/-- The rule is an exception for whole documents. -/
def isDocumentException (r : UrlRule) : Bool := r.enabled.contains OptionSet.documentException

/-- The option is the only one that is set. -/
def hasOnly (r : UrlRule) (o : RuleOption) : Bool := r.enabled = o.single

/-- The rule is for the content type only. -/
def isOnlyFor (r : UrlRule) (t : ContentType) : Bool := r.permittedTypes = t.single

/-- The rule is for the content type. -/
def admits (r : UrlRule) (t : ContentType) : Bool :=
  r.permittedTypes.has t && !r.restrictedTypes.has t

/-- Whether the rule is for loads from other sites only, or from the same site only. -/
def thirdParty? (r : UrlRule) : Option Bool :=
  if r.enabled.has .thirdParty then some true
  else if r.disabled.has .thirdParty then some false
  else none

/-- Upper and lower case differ. -/
def matchesCase (r : UrlRule) : Bool := r.enabled.has .matchCase

/-- The rule closes windows that pop up. -/
def blocksPopups (r : UrlRule) : Bool := r.enabled.has .popup

/-- The rule sets a policy. -/
def isCsp (r : UrlRule) : Bool := r.enabled.has .csp

/-- The rule cancels another. -/
def isBadfilter (r : UrlRule) : Bool := r.badfilter.isSome

end UrlRule

/-- A rule of one kind. -/
inductive Rule where
  | css (r : CssRule)
  | url (r : UrlRule)
  | script (r : ScriptRule)
  | scriptlet (r : ScriptletRule)
  deriving DecidableEq, Repr

namespace Rule

/-- What all kinds of rules have. -/
def head : Rule → RuleHead
  | css r => r.toRuleHead
  | url r => r.toRuleHead
  | script r => r.toRuleHead
  | scriptlet r => r.toRuleHead

/-- The rule as it is written. -/
def text (r : Rule) : Text := r.head.text

/-- The rule goes before others. -/
def isImportant : Rule → Bool
  | url r => r.isImportant
  | _ => false

/-- The text of the rule that this one cancels. -/
def badfilter? : Rule → Option Text
  | url r => r.badfilter
  | _ => none

/-- The rule with the number of its filter list. -/
def withFilterId (id : Int) : Rule → Rule
  | css r => css { r with filterId := some id }
  | url r => url { r with filterId := some id }
  | script r => script { r with filterId := some id }
  | scriptlet r => scriptlet { r with filterId := some id }

end Rule

/-- What one line of a filter list holds.  No reader puts a line that stands for several rules into
another one, so the parts of such a line are single rules.  They are converted one by one, and the
error `RuleError.compositeRule` for such a line as a whole is never met in a conversion. -/
inductive FilterRule where
  /-- A single rule. -/
  | single (r : Rule)
  /-- A line that stands for several rules. -/
  | composite (text : Text) (parts : List Rule)
  deriving DecidableEq, Repr

namespace FilterRule

/-- The rules that the line stands for. -/
def parts : FilterRule → List Rule
  | single r => [r]
  | composite _ rs => rs

/-- The line as it is written. -/
def text : FilterRule → Text
  | single r => r.text
  | composite t _ => t

/-- The line with the number of its filter list. -/
def withFilterId (id : Int) : FilterRule → FilterRule
  | single r => single (r.withFilterId id)
  | composite t rs => composite t (rs.map (Rule.withFilterId id))

end FilterRule
end ContentBlocker
