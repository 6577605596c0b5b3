import ContentBlocker.Domain.Host
import ContentBlocker.Externals
import ContentBlocker.Filter.Error
import ContentBlocker.Filter.Rule
import ContentBlocker.Pattern.Compile
import ContentBlocker.Text.Escaped

/-!
# Network rules

Reading the rules that block loads by their address.

* `splitOptions` splits a rule into its pattern and its options;
* `applyOption` applies one option to a rule, and `applyOptions` a list of them;
* `badfilterTarget` is the rule that a badfilter rule cancels;
* `read` reads a whole rule.
-/

namespace ContentBlocker.UrlRule

variable [Externals]

/-! ### Pattern and options -/

/-- The sign in front of an exception. -/
def exceptionSign : Text := "@@"

/-- The start of the option that replaces the text of a page. -/
def replaceOption : Text := "replace="

/-- A rule without the sign in front of an exception. -/
def body (rule : Text) : Text := (Text.stripStart? exceptionSign rule).getD rule

/-- The text starts and ends with a slash. -/
def betweenSlashes (t : Text) : Bool := t.head? = some '/' && t.getLast? = some '/'

/-- The pattern of a rule and its options.  The last unescaped dollar sign separates them, but in a
regular expression a dollar sign is an anchor, unless the rule replaces something. -/
def splitOptions (rule : Text) : Text × Option Text :=
  let pattern := body rule
  if betweenSlashes pattern && !Text.has replaceOption pattern then (pattern, none)
  else match Text.cutLastUnescaped? '$' '\\' pattern with
    | some (before, options) => (before, some (Text.replaceAll "\\$" "$" options))
    | none => (pattern, none)

/-! ### Options -/

/-- The text of the rule that a badfilter rule cancels: the first badfilter option of each form is
taken out. -/
def badfilterTarget (rule : Text) : Text :=
  Text.replaceFirst "$badfilter" []
    (Text.replaceFirst ",badfilter" [] (Text.replaceFirst "$badfilter," "$" rule))

/-- Set options, if the rule may have them. -/
def enable (r : UrlRule) (name : Text) (options : OptionSet) : Except RuleError UrlRule :=
  let refused := if r.isException then OptionSet.blockingOnly else OptionSet.exceptionOnly
  if refused.contains options then .error (.optionNotApplicable ('$' :: name))
  else .ok { r with enabled := r.enabled ||| options }

/-- Clear options. -/
def disable (r : UrlRule) (options : OptionSet) : UrlRule :=
  { r with disabled := r.disabled ||| options }

/-- The modifiers that a content blocker has no use for. -/
def ignoredOptions : List Text := ["background", "extension", "collapse"]

/-- Apply a modifier for a content type, which a tilde negates. -/
def applyType (r : UrlRule) (name : Text) : Except RuleError UrlRule :=
  let typeName := (Text.stripStart? ['~'] name).getD name
  match ContentType.ofName? typeName with
  | some t =>
    if name.head? = some '~' then .ok { r with restrictedTypes := r.restrictedTypes ||| t.single }
    else if r.permittedTypes = TypeSet.all then .ok { r with permittedTypes := t.single }
    else .ok { r with permittedTypes := r.permittedTypes ||| t.single }
  | none =>
    if ignoredOptions.contains typeName then .ok r else .error (.unknownOption name.upper)

/-- The modifiers that are known by name. -/
inductive Modifier where
  | domain
  /-- Set options. -/
  | enable (options : OptionSet)
  /-- Clear options. -/
  | disable (options : OptionSet)
  | important (value : Bool)
  | csp
  | replace
  | badfilter

/-- The names of the modifiers. -/
def modifiers : List (Text × Modifier) :=
  [("domain", .domain),
    ("third-party", .enable (.ofList [.thirdParty])), ("3p", .enable (.ofList [.thirdParty])),
    ("~third-party", .disable (.ofList [.thirdParty])), ("~3p", .disable (.ofList [.thirdParty])),
    ("first-party", .disable (.ofList [.thirdParty])), ("1p", .disable (.ofList [.thirdParty])),
    ("match-case", .enable (.ofList [.matchCase])),
    ("important", .important true), ("~important", .important false),
    ("elemhide", .enable (.ofList [.elemhide])),
    ("generichide", .enable (.ofList [.generichide])),
    ("jsinject", .enable (.ofList [.jsinject])),
    ("content", .enable (.ofList [.content])),
    ("urlblock", .enable (.ofList [.urlblock])),
    ("genericblock", .enable (.ofList [.genericblock])),
    ("document", .enable OptionSet.documentException),
    ("popup", .enable (.ofList [.popup])),
    ("empty", .enable (.ofList [.emptyResponse])),
    ("csp", .csp), ("replace", .replace), ("badfilter", .badfilter)]

/-- Apply one option, which may have a value behind an equals sign.  Names are compared in lower
case; one that is no modifier is a content type. -/
def applyOption (r : UrlRule) (option : Text) : Except RuleError UrlRule :=
  let (written, value) : Text × Option Text := match Text.cut? ['='] option with
    | some (name, value) => (name, some value)
    | none => (option, none)
  let name := written.lower
  match modifiers.lookup name with
  | none => r.applyType name
  | some .domain =>
    match value with
    | some v => .ok { r with scope := r.scope.append (Scope.read v) }
    | none => .ok r
  | some (.enable options) => r.enable name options
  | some (.disable options) => .ok (r.disable options)
  | some (.important b) => .ok { r with isImportant := b }
  | some .csp =>
    match r.enable name (.ofList [.csp]) with
    | .ok r => .ok { r with csp := value }
    | .error e => .error e
  | some .replace => .error .replaceNotSupported
  | some .badfilter => .ok { r with badfilter := some (badfilterTarget r.text) }

/-- Apply options in turn. -/
def applyAll (r : UrlRule) : List Text → Except RuleError UrlRule
  | [] => .ok r
  | o :: os =>
    match r.applyOption o with
    | .ok r => r.applyAll os
    | .error e => .error e

/-- Apply a written list of options, which unescaped commas separate. -/
def applyOptions (r : UrlRule) (options : Text) : Except RuleError UrlRule :=
  r.applyAll (Text.splitEscaped ',' '\\' false options)

/-! ### Rules -/

/-- The rule that the text of a rule describes before its options are applied. -/
def fresh (text pattern : Text) : UrlRule :=
  { text, isException := exceptionSign.isPrefixOf text
    pattern := HostPattern.asciiPattern pattern }

/-- A rule with an option for documents is for documents only. -/
def forDocuments (r : UrlRule) : UrlRule :=
  if r.enabled.intersects OptionSet.documentLevel then
    { r with permittedTypes := ContentType.document.single }
  else r

/-- The regular expression between the slashes of the pattern, if it is well formed and does not
match everything everywhere. -/
def slashedRegex (r : UrlRule) : Except RuleError Text :=
  let source := (r.pattern.drop 1).dropLast
  if !Externals.isRegex (!r.matchesCase) source then .error (.illegalRegexp r.text)
  else if (source = [] ∨ source = Pattern.anything) ∧ r.scope.permitted = [] then
    .error (.tooWideRule r.pattern)
  else .ok source

/-- A rule with the regular expression of its pattern. -/
def withRegex (r : UrlRule) : Except RuleError UrlRule :=
  if 2 ≤ r.pattern.length ∧ betweenSlashes r.pattern then
    match r.slashedRegex with
    | .ok source => .ok { r with isRegex := true, regex := source }
    | .error e => .error e
  else .ok { r with isRegex := false, regex := Pattern.compile r.pattern }

/-- What a policy must not hold, because it would report to somebody. -/
def reports : List Text := ["report-uri", "report-to"]

/-- The policy of a rule is one that may be set; an exception may have none. -/
def checkCsp (r : UrlRule) : Except RuleError UrlRule :=
  if !r.isCsp then .ok r
  else
    let directive := r.csp.getD []
    if !r.isException && directive.isEmpty then .error .emptyCspDirective
    else if reports.any (Text.has · directive.lower) then
      .error (.forbiddenCspDirective directive.lower)
    else .ok r

/-- Read a network rule. -/
def read (text : Text) : Except RuleError UrlRule := do
  let (pattern, options) := splitOptions text
  let r ← match options with
    | some o => (fresh text pattern).applyOptions o
    | none => .ok (fresh text pattern)
  let r ← r.forDocuments.withRegex
  r.checkCsp

end ContentBlocker.UrlRule
