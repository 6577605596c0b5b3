import ContentBlocker.Filter.Cosmetic
import ContentBlocker.Filter.Dialect
import ContentBlocker.Filter.Network
import ContentBlocker.Filter.Scriptlet

/-!
# Lines of filter lists

Reading whole lines.

* `Rule.read` reads one rule in the common form;
* `FilterRule.read` reads a rule of any dialect, which may stand for several;
* `FilterRule.readLine` reads a line as it stands in a filter list.

Nothing is read from a comment and from rules that content blockers have no counterpart for.
-/

namespace ContentBlocker

variable [Externals]

/-- The sign of a comment. -/
def commentSign : Char := '!'

/-- Signs of rules without a counterpart in content blockers. -/
def unsupportedSigns : List Text := ["adg_start_style_inject", "$$", "$@$", "%%"]

/-- Read one rule in the common form. -/
def Rule.read (text : Text) : Except RuleError (Option Rule) :=
  if text.head? = some commentSign || unsupportedSigns.any (Text.has · text) then .ok none
  else match Marker.split? text with
    | some (before, marker, after) =>
      match marker.kind with
      | .css => (CssRule.read text before marker after).map fun r => some (.css r)
      | .script => (Rule.readScript text before marker after).map some
    | none => (UrlRule.read text).map fun r => some (.url r)

/-- Read rules in the common form in turn. -/
def Rule.readAll : List Text → Except RuleError (List Rule)
  | [] => .ok []
  | t :: ts => do
    let r ← Rule.read t
    let rs ← Rule.readAll ts
    return r.toList ++ rs

namespace FilterRule

/-- Several rules that the text of one stands for. -/
def ofParts (text : Text) : List Rule → Option FilterRule
  | [] => none
  | [r] => some (.single r)
  | rs => some (.composite text rs)

/-- Read a rule of any dialect. -/
def read (line : Text) : Except RuleError (Option FilterRule) :=
  let text := Text.trim line
  if text.isEmpty || text.head? = some commentSign then .ok none
  else (Rule.readAll (Dialect.normalize text)).map (ofParts text)

/-- The line holds no rule: it is empty, indented or a comment, or it describes the list. -/
def isNoRule (line : Text) : Bool :=
  line.isEmpty || line.head? = some commentSign || line.head? = some ' ' || Text.has " - " line

/-- Read a line of a filter list.  A line that looks like a rule but holds none is a fault. -/
def readLine (line : Text) : Except RuleError (Option FilterRule) :=
  if isNoRule line then .ok none
  else match read line with
    | .ok none => .error (.unsupported line)
    | r => r

end FilterRule
end ContentBlocker
