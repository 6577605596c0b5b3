import ContentBlocker.Blocker.Rule
import ContentBlocker.Filter.Rule

/-!
# Categories of converted rules

A content blocker applies its rules in order, and later rules undo earlier ones, so the converted
rules are sorted by category.

* `Bucket` lists the categories;
* `Bucket.of` is the category of a converted rule;
* `inBucket` are the converted rules of one category, in order.
-/

namespace ContentBlocker

/-- The categories of converted rules. -/
inductive Bucket where
  | cssBlocking
  | cssExceptions
  | extendedCssBlocking
  | cosmeticCssExceptions
  | script
  | scriptExceptions
  | scriptlets
  | scriptletExceptions
  | generichideExceptions
  | elemhideExceptions
  | jsinjectExceptions
  | urlBlocking
  | important
  | importantExceptions
  | documentExceptions
  | other
  deriving DecidableEq, Repr

/-- A converted rule with its category. -/
structure Emitted where
  /-- The category. -/
  bucket : Bucket
  /-- The converted rule. -/
  rule : BlockerRule
  deriving DecidableEq, Repr

namespace Bucket

/-- The text is there and not empty. -/
def isFilled (t : Option Text) : Bool := !(t.getD []).isEmpty

/-- The option is the only one that the rule sets. -/
def hasOnly (r : Rule) (o : RuleOption) : Bool :=
  match r with
  | .url u => u.hasOnly o
  | _ => false

/-- The rule is an exception for whole documents. -/
def isDocumentException : Rule → Bool
  | .url u => u.isDocumentException
  | _ => false

/-- The category of an exception. -/
def ofException (r : Rule) (a : Action) : Bucket :=
  match r with
  | .script _ => scriptExceptions
  | .scriptlet _ => scriptletExceptions
  | r =>
    if isFilled a.selector then cssExceptions
    else if isFilled a.css then cosmeticCssExceptions
    else if hasOnly r .generichide then generichideExceptions
    else if hasOnly r .elemhide then elemhideExceptions
    else if hasOnly r .jsinject then jsinjectExceptions
    else if r.isImportant then importantExceptions
    else if isDocumentException r then documentExceptions
    else other

/-- The category of what a rule was converted to. -/
def of (r : Rule) (b : BlockerRule) : Bucket :=
  match b.action.type with
  | .block => if r.isImportant then important else urlBlocking
  | .cssDisplayNone => cssBlocking
  | .css => extendedCssBlocking
  | .script => script
  | .scriptlet => scriptlets
  | .ignorePreviousRules => ofException r b.action

end Bucket

/-- The converted rules of one category, in order. -/
def inBucket (bucket : Bucket) (emitted : List Emitted) : List BlockerRule :=
  (emitted.filter (·.bucket = bucket)).map Emitted.rule

end ContentBlocker
