import ContentBlocker.Text.Basic

/-!
# Markers

The signs that separate the domains of a cosmetic or script rule from its body.

* `Marker.all` are the known ones;
* `Marker.split?` finds the marker of a rule.
-/

namespace ContentBlocker

/-- The kind of rules that a marker introduces. -/
inductive MarkerKind where
  | css
  | script
  deriving DecidableEq, Repr

/-- The sign between the domains and the body of a rule. -/
structure Marker where
  /-- The sign itself. -/
  text : Text
  /-- What the body is. -/
  kind : MarkerKind
  /-- The rule is an exception. -/
  isException : Bool
  /-- The body is an extended selector. -/
  isExtended : Bool
  /-- The body is a style to apply. -/
  isInjection : Bool
  deriving DecidableEq, Repr

namespace Marker

/-- The known markers, the longer ones first, so that none hides a longer one. -/
def all : List Marker :=
  [⟨"#@$?#", .css, true, true, true⟩,
    ⟨"#@$#", .css, true, false, true⟩,
    ⟨"#@?#", .css, true, true, false⟩,
    ⟨"#$?#", .css, false, true, true⟩,
    ⟨"#@%#", .script, true, false, false⟩,
    ⟨"#@#", .css, true, false, false⟩,
    ⟨"#?#", .css, false, true, false⟩,
    ⟨"#$#", .css, false, false, true⟩,
    ⟨"#%#", .script, false, false, false⟩,
    ⟨"##", .css, false, false, false⟩]

/-- The marker at the start of a text. -/
def atStart? (t : Text) : Option Marker := all.find? (·.text.isPrefixOf t)

/-- The marker of a rule, with the texts before and behind it.  It can only stand at the first `#`
of the rule. -/
def split? (rule : Text) : Option (Text × Marker × Text) :=
  let before := rule.takeWhile (· ≠ '#')
  let rest := rule.dropWhile (· ≠ '#')
  (atStart? rest).map fun m => (before, m, rest.drop m.text.length)

end Marker
end ContentBlocker
