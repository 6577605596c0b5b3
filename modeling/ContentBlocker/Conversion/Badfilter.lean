import ContentBlocker.Filter.Rule

/-!
# Badfilter rules

A badfilter rule cancels the rules whose text is its target, wherever they stand.

* `Badfilters` is the set of targets;
* `Badfilters.collect` takes the badfilter rules out of a list and adds their targets.
-/

namespace ContentBlocker

/-- The targets of badfilter rules, each once. -/
abbrev Badfilters := List Text

namespace Badfilters

/-- Add a target. -/
def insert (bs : Badfilters) (target : Text) : Badfilters :=
  if bs.contains target then bs else bs ++ [target]

/-- Take the badfilter rules out of a list of rules: the rules that stay, and the targets with those
of the badfilter rules. -/
def collectRules (bs : Badfilters) : List Rule → List Rule × Badfilters
  | [] => ([], bs)
  | r :: rs =>
    match r.badfilter? with
    | some target => collectRules (bs.insert target) rs
    | none =>
      let (kept, targets) := collectRules bs rs
      (r :: kept, targets)

/-- Take the badfilter rules out of the rules that some lines stand for. -/
def collect (bs : Badfilters) (lines : List FilterRule) : List Rule × Badfilters :=
  bs.collectRules (lines.flatMap FilterRule.parts)

end Badfilters
end ContentBlocker
