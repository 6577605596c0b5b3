import ContentBlocker.Blocker.Rule
import ContentBlocker.Blocker.UrlFilter
import ContentBlocker.Conversion.Diagnostics
import ContentBlocker.Domain.Host
import ContentBlocker.Domain.TopLevel

/-!
# From filter rules to blocker rules

Every filter rule is converted to one rule of a content blocker, or refused.

* `DomainLists` are the domains of a rule as a trigger writes them;
* `CssRule.emit`, `ScriptRule.emit`, `ScriptletRule.emit` and `UrlRule.emit` convert the four kinds;
* `Rule.emit` converts a rule of any kind.
-/

namespace ContentBlocker

variable [Externals]

/-! ### Domains -/

/-- The domains of a rule as a trigger writes them. -/
structure DomainLists where
  /-- The domains that the rule is limited to. -/
  included : List Text
  /-- The domains that the rule does not apply to. -/
  excluded : List Text
  deriving DecidableEq, Repr

namespace DomainLists

/-- The lists are written from the last domain to the first, and wildcard domains expanded. -/
def ofScope (s : Scope) : DomainLists :=
  ⟨Domain.expandAll s.permitted.reverse, Domain.expandAll s.restricted.reverse⟩

/-- Both lists hold something. -/
def isMixed (l : DomainLists) : Bool := !l.included.isEmpty && !l.excluded.isEmpty

/-- A list that is absent if it is empty. -/
def present (domains : List Text) : Option (List Text) :=
  if domains.isEmpty then none else some domains

/-- Write the lists to a trigger, which can only have one of them. -/
def write (l : DomainLists) (t : Trigger) : Except RuleError Trigger :=
  if l.isMixed then .error .mixedDomains
  else .ok { t with ifDomain := present l.included, unlessDomain := present l.excluded }

end DomainLists

/-- The type of the action: an exception undoes other rules. -/
def actionType (isException : Bool) (type : ActionType) : ActionType :=
  if isException then .ignorePreviousRules else type

/-- The trigger of rules that do not look at the address. -/
def pageTrigger (s : Scope) : Except RuleError Trigger :=
  (DomainLists.ofScope s).write { urlFilter := Pattern.anything }

/-! ### Cosmetic rules and scripts -/

/-- Convert a cosmetic rule.  A style must not load anything. -/
def CssRule.emit (r : CssRule) : Except RuleError BlockerRule :=
  match pageTrigger r.scope with
  | .error e => .error e
  | .ok trigger =>
    if r.isExtended || r.isInjection then
      if !r.isException && Text.has "url(" r.selector then .error .urlInCss
      else .ok ⟨trigger, { type := actionType r.isException .css, css := some r.selector }⟩
    else
      .ok ⟨trigger,
        { type := actionType r.isException .cssDisplayNone, selector := some r.selector }⟩

/-- Convert a rule that runs a script. -/
def ScriptRule.emit (r : ScriptRule) : Except RuleError BlockerRule :=
  (pageTrigger r.scope).map fun trigger =>
    ⟨trigger, { type := actionType r.isException .script, script := some r.script }⟩

/-- Convert a rule that calls a scriptlet. -/
def ScriptletRule.emit (r : ScriptletRule) : Except RuleError BlockerRule :=
  (pageTrigger r.scope).map fun trigger =>
    ⟨trigger,
      { type := actionType r.isException .scriptlet
        scriptlet := some r.name, scriptletParam := some r.param }⟩

/-! ### Network rules -/

namespace UrlRule

/-- The content types that each resource type stands for. -/
def resourceGroups : List (List ContentType × ResourceType) :=
  [([.image], .image), ([.stylesheet], .styleSheet), ([.script], .script), ([.media], .media),
    ([.xmlHttpRequest, .other, .webSocket], .raw), ([.font], .font),
    ([.subdocument, .document], .document)]

/-- The content types that no resource type stands for, with their names in messages. -/
def unsupportedTypes : List (ContentType × Text) :=
  [(.object, "object"), (.objectSubrequest, "object_subrequest"), (.webRtc, "webrtc")]

/-- The resource types that the trigger of a rule names; none of them means all. -/
def resourceTypes (r : UrlRule) : Except RuleError (Option (List ResourceType)) :=
  if r.permittedTypes = TypeSet.all ∧ r.restrictedTypes = TypeSet.empty then .ok none
  else match unsupportedTypes.find? fun t => r.isOnlyFor t.1 with
    | some (_, name) => .error (.unsupportedContentType name)
    | none =>
      if r.blocksPopups then .ok (some [.popup])
      else
        let types := (resourceGroups.filter fun g => g.1.any r.admits).map (·.2)
        .ok (if types.isEmpty then none else some types)

/-- The rule is an exception that must apply to whole pages and not to single loads. -/
def isPageException (r : UrlRule) : Bool :=
  r.isException &&
    (r.isDocumentException || r.hasOnly .urlblock || r.hasOnly .genericblock ||
      r.hasOnly .generichide || r.hasOnly .elemhide)

/-- The domain that a page exception is bound to, if it is bound to one, and what is to be said
otherwise. -/
def pageDomain (r : UrlRule) : Diagnostics × Option Text :=
  if !r.isPageException then ([], none)
  else match HostPattern.hostOf? r.pattern with
    | none => ([.debug ("Error parse domain from rule: ".toList ++ r.text)], none)
    | some (domain, path) =>
      if path = none ∨ path = some ['^'] ∨ path = some ['/'] then ([], some domain)
      else ([.debug ("Whitelist special warning for rule: ".toList ++ r.text)], none)

/-- The trigger for the loads that a rule matches. -/
def requestTrigger (r : UrlRule) (types : Option (List ResourceType)) : Trigger :=
  { urlFilter := r.urlFilter
    resourceType := if r.isException && r.isDocumentException then none else types
    loadType := r.thirdParty?.map fun b => [if b then .thirdParty else .firstParty]
    isCaseSensitive := if r.matchesCase then some true else none }

/-- The trigger of a rule: one for the pages of a domain, or one for loads. -/
def trigger (r : UrlRule) (domain : Option Text) (types : Option (List ResourceType)) :
    Except RuleError Trigger :=
  let lists := DomainLists.ofScope r.scope
  match domain with
  | some d =>
    (DomainLists.mk (Domain.expandAll [d]) lists.excluded).write { urlFilter := Pattern.anything }
  | none => lists.write (r.requestTrigger types)

/-- The rule blocks documents although it is limited neither to domains nor to loads from other
sites, and does not ask for it. -/
def blocksTooMuch (r : UrlRule) (b : BlockerRule) : Bool :=
  b.action.type = .block && (b.trigger.resourceType.any (·.contains .document)) &&
    !(b.trigger.ifDomain.isSome || b.trigger.loadType.any (·.contains .thirdParty)) &&
    !r.isDocumentException

/-- What a rule can be refused for before its trigger is made, or else its resource types. -/
def checkedTypes (r : UrlRule) : Except RuleError (Option (List ResourceType)) := do
  if r.isCsp then throw .cspNotSupported
  UrlFilter.checkSafe r.urlFilter
  let types ← r.resourceTypes
  if (DomainLists.ofScope r.scope).isMixed then throw .mixedDomains
  return types

/-- Convert a network rule. -/
def emit (r : UrlRule) : Diagnostics × Except RuleError BlockerRule :=
  match r.checkedTypes with
  | .error e => ([], .error e)
  | .ok types =>
    let (notes, domain) := r.pageDomain
    (notes,
      match r.trigger domain types with
      | .error e => .error e
      | .ok trigger =>
        let b : BlockerRule := ⟨trigger, { type := actionType r.isException .block }⟩
        if r.blocksTooMuch b then .error .unrestrictedDocumentBlocking else .ok b)

end UrlRule

/-! ### All rules -/

/-- Convert a rule. -/
def Rule.emit : Rule → Diagnostics × Except RuleError BlockerRule
  | css r => ([], r.emit)
  | url r => r.emit
  | script r => ([], r.emit)
  | scriptlet r => ([], r.emit)

/-- Convert what one line holds.  A composite rule is converted part by part instead. -/
def FilterRule.emit : FilterRule → Diagnostics × Except RuleError BlockerRule
  | single r => r.emit
  | composite _ _ => ([], .error .compositeRule)

end ContentBlocker
