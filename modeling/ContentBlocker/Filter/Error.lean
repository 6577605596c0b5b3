import ContentBlocker.Text.Basic

/-!
# Faults of rules

Why a rule cannot be read or cannot be converted.

* `RuleError` lists the causes;
* `RuleError.stage` says whether reading or conversion finds them;
* `RuleError.message` is their wording.
-/

namespace ContentBlocker

/-- Where a fault is found. -/
inductive ErrorStage where
  /-- The rule is malformed or of a kind that is not supported. -/
  | parse
  /-- The rule says what a content blocker cannot do. -/
  | validation
  deriving DecidableEq, Repr

/-- Constructs of regular expressions that a content blocker does not understand. -/
inductive UnsafeConstruct where
  | digitQuantifier
  | pipe
  | nonAscii
  | negativeLookahead
  | metacharacter
  deriving DecidableEq, Repr

namespace UnsafeConstruct

/-- What the construct is called. -/
def name : UnsafeConstruct → Text
  | .digitQuantifier => "'\x7bdigit\x7d'"
  | .pipe => "'|'"
  | .nonAscii => "non-ASCII characters"
  | .negativeLookahead => "negative lookahead"
  | .metacharacter => "metacharacters"

end UnsafeConstruct

/-- The faults of a rule. -/
inductive RuleError where
  /-- The line looks like a rule but is of no supported kind. -/
  | unsupported (text : Text)
  /-- The modifier is not known. -/
  | unknownOption (name : Text)
  /-- The modifier is for exceptions only, or for other rules only. -/
  | optionNotApplicable (name : Text)
  /-- Replacement rules are not supported. -/
  | replaceNotSupported
  /-- The rule sets no policy. -/
  | emptyCspDirective
  /-- The policy would report to somebody. -/
  | forbiddenCspDirective (directive : Text)
  /-- The regular expression is malformed. -/
  | illegalRegexp (text : Text)
  /-- The rule matches everything. -/
  | tooWideRule (text : Text)
  /-- The rule has no selector. -/
  | emptySelector
  /-- The style has no selector or no braces. -/
  | invalidCssInjection (style : Text)
  /-- The call of a scriptlet is malformed. -/
  | invalidScriptlet (call : Text)
  /-- Policies cannot be converted. -/
  | cspNotSupported
  /-- The content type cannot be converted. -/
  | unsupportedContentType (name : Text)
  /-- The regular expression cannot be converted. -/
  | unsafeRegexp (construct : UnsafeConstruct)
  /-- The rule has permitted and restricted domains. -/
  | mixedDomains
  /-- The rule would block all documents. -/
  | unrestrictedDocumentBlocking
  /-- The style loads something. -/
  | urlInCss
  /-- A composite rule is not converted as a whole. -/
  | compositeRule
  deriving DecidableEq, Repr

namespace RuleError

/-- The stage at which a fault is found. -/
def stage : RuleError → ErrorStage
  | .unsupported _ | .unknownOption _ | .optionNotApplicable _ | .replaceNotSupported
  | .emptyCspDirective | .forbiddenCspDirective _ | .illegalRegexp _ | .tooWideRule _
  | .emptySelector | .invalidCssInjection _ | .invalidScriptlet _ => .parse
  | .cspNotSupported | .unsupportedContentType _ | .unsafeRegexp _ | .mixedDomains
  | .unrestrictedDocumentBlocking | .urlInCss | .compositeRule => .validation

/-- The wording of a fault. -/
def message : RuleError → Text
  | .unsupported text => "Unsupported rule: ".toList ++ text
  | .unknownOption name => "Unknown option: ".toList ++ name
  | .optionNotApplicable name => name ++ " cannot be applied to this type of rule".toList
  | .replaceNotSupported => "$replace rules are ignored"
  | .emptyCspDirective => "Invalid $CSP rule: CSP directive must not be empty"
  | .forbiddenCspDirective directive => "Forbidden CSP directive: ".toList ++ directive
  | .illegalRegexp text => "Illegal regexp rule: ".toList ++ text
  | .tooWideRule text => "Too wide basic rule: ".toList ++ text
  | .emptySelector => "Empty CSS selector"
  | .invalidCssInjection style => "Invalid CSS injection: ".toList ++ style
  | .invalidScriptlet call => "Invalid scriptlet: ".toList ++ call
  | .cspNotSupported => "CSP rules are not supported"
  | .unsupportedContentType name => '$' :: (name ++ " content type is not yet supported".toList)
  | .unsafeRegexp construct =>
    "Safari doesn't support ".toList ++ construct.name ++ " in regular expressions".toList
  | .mixedDomains => "Safari does not support both permitted and restricted domains"
  | .unrestrictedDocumentBlocking =>
    "Document blocking rules are allowed only along with third-party or if-domain modifiers"
  | .urlInCss => "Urls are not allowed in css styles"
  | .compositeRule => "Composite rules are converted through their parts"

end RuleError
end ContentBlocker
