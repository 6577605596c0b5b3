import ContentBlocker.Blocker.Rule
import ContentBlocker.Conversion.Diagnostics
import ContentBlocker.Pattern.Compile

/-!
# Compaction of hiding rules

Hiding rules are sorted by the domains they are for, and the selectors of those that are for all
domains are joined to fewer rules.

* `CompactedCss` are hiding rules by the domains they are for;
* `CompactedCss.ofRules` sorts rules and joins selectors.
-/

namespace ContentBlocker

/-- Hiding rules by the domains they are for. -/
structure CompactedCss where
  /-- For all domains. -/
  wide : List BlockerRule := []
  /-- For all domains but some. -/
  generic : List BlockerRule := []
  /-- For some domains. -/
  specific : List BlockerRule := []
  deriving DecidableEq, Repr

namespace CompactedCss

/-- The most selectors that one rule holds. -/
def maxSelectors : Nat := 250

/-- The rule for some selectors. -/
def wideRule (selectors : List Text) : BlockerRule :=
  ⟨{ urlFilter := Pattern.anything },
    { type := .cssDisplayNone, selector := some ([',', ' '].intercalate selectors) }⟩

/-- Sort rules, and join the selectors of wide ones if `merge` is set.  The selectors `waiting` were
read before and are not yet in a rule. -/
def ofRulesFrom (merge : Bool) (waiting : List Text) : List BlockerRule → CompactedCss
  | [] => if waiting.isEmpty then {} else { wide := [wideRule waiting] }
  | r :: rs =>
    if !r.trigger.ifDomains.isEmpty then
      let c := ofRulesFrom merge waiting rs
      { c with specific := r :: c.specific }
    else if !r.trigger.unlessDomains.isEmpty then
      let c := ofRulesFrom merge waiting rs
      { c with generic := r :: c.generic }
    else if !merge || r.action.type ≠ .cssDisplayNone then
      let c := ofRulesFrom merge waiting rs
      { c with wide := r :: c.wide }
    else match r.action.selector with
      | none => ofRulesFrom merge waiting rs
      | some s =>
        if maxSelectors ≤ waiting.length + 1 then
          let c := ofRulesFrom merge [] rs
          { c with wide := wideRule (waiting ++ [s]) :: c.wide }
        else ofRulesFrom merge (waiting ++ [s]) rs

/-- Sort rules, and join the selectors of wide ones if `merge` is set. -/
def ofRules (merge : Bool) (rules : List BlockerRule) : CompactedCss :=
  ofRulesFrom merge [] rules

/-- What is said of a compaction. -/
def notes (rules : List BlockerRule) (c : CompactedCss) : Diagnostics :=
  [.info ("Trying to compact ".toList ++ Text.decimal rules.length ++ " elemhide rules".toList),
    .info ("Compacted result: wide=".toList ++ Text.decimal c.wide.length ++
      " domainSensitive=".toList ++ Text.decimal c.specific.length)]

end CompactedCss
end ContentBlocker
