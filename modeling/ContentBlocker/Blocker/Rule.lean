import ContentBlocker.Text.Basic

/-!
# Rules of a content blocker

A content blocker is a list of rules, each with a trigger and an action.

* `Trigger` says which loads a rule applies to;
* `Action` says what it does to them;
* `BlockerRule.withWildcards` lets a rule apply to the subdomains of its domains too.
-/

namespace ContentBlocker

/-- The kinds of resources that a trigger can name. -/
inductive ResourceType where
  | image
  | styleSheet
  | script
  | media
  | raw
  | font
  | document
  | popup
  deriving DecidableEq, Repr

/-- The parties that a trigger can name. -/
inductive LoadType where
  | firstParty
  | thirdParty
  deriving DecidableEq, Repr

/-- The condition of a rule. -/
structure Trigger where
  /-- A regular expression on the address. -/
  urlFilter : Text
  /-- The kinds of resources, all of them if absent. -/
  resourceType : Option (List ResourceType) := none
  /-- The parties, all of them if absent. -/
  loadType : Option (List LoadType) := none
  /-- Whether upper and lower case differ in the address. -/
  isCaseSensitive : Option Bool := none
  /-- The domains of the pages that the rule is limited to. -/
  ifDomain : Option (List Text) := none
  /-- The domains of the pages that the rule does not apply to. -/
  unlessDomain : Option (List Text) := none
  deriving DecidableEq, Repr

namespace Trigger

/-- The domains that the rule is limited to, none if it is not limited. -/
def ifDomains (t : Trigger) : List Text := t.ifDomain.getD []

/-- The domains that the rule does not apply to. -/
def unlessDomains (t : Trigger) : List Text := t.unlessDomain.getD []

/-- Both lists of domains hold something, which a content blocker must not have. -/
def hasConflict (t : Trigger) : Bool := !t.ifDomains.isEmpty && !t.unlessDomains.isEmpty

/-- The sign before a domain that stands for its subdomains too. -/
def wildcard : Char := '*'

/-- A domain with the wildcard in front. -/
def addWildcard (domain : Text) : Text :=
  if domain.head? = some wildcard then domain else wildcard :: domain

/-- A trigger with the wildcard in front of all of its domains. -/
def withWildcards (t : Trigger) : Trigger :=
  { t with
    ifDomain := t.ifDomain.map (·.map addWildcard)
    unlessDomain := t.unlessDomain.map (·.map addWildcard) }

end Trigger

/-- What a rule does. -/
inductive ActionType where
  | block
  /-- Hide elements. -/
  | cssDisplayNone
  /-- Apply a style, or hide elements by an extended selector. -/
  | css
  /-- Run a script. -/
  | script
  /-- Run a scriptlet. -/
  | scriptlet
  /-- Undo the rules before. -/
  | ignorePreviousRules
  deriving DecidableEq, Repr

/-- What a rule does, and with what. -/
structure Action where
  /-- What the rule does. -/
  type : ActionType
  /-- The selector of the elements to hide. -/
  selector : Option Text := none
  /-- The style or the extended selector. -/
  css : Option Text := none
  /-- The script. -/
  script : Option Text := none
  /-- The name of the scriptlet. -/
  scriptlet : Option Text := none
  /-- The name and the arguments of the scriptlet as JSON. -/
  scriptletParam : Option Text := none
  deriving DecidableEq, Repr

/-- A rule of a content blocker. -/
structure BlockerRule where
  /-- When the rule applies. -/
  trigger : Trigger
  /-- What it does then. -/
  action : Action
  deriving DecidableEq, Repr

namespace BlockerRule

/-- A rule that applies to the subdomains of its domains too. -/
def withWildcards (r : BlockerRule) : BlockerRule := { r with trigger := r.trigger.withWildcards }

end BlockerRule
end ContentBlocker
