import ContentBlocker.Filter.Error
import ContentBlocker.Filter.Marker
import ContentBlocker.Filter.Rule
import ContentBlocker.Json.Printer
import ContentBlocker.Text.Quoted

/-!
# Scripts and scriptlets

Reading the rules that run a script or call a scriptlet.

* `ScriptletCall.read` reads a call with its arguments in quotation marks;
* `ScriptletCall.toJson` is the call as the device receives it;
* `Rule.readScript` reads a whole rule.
-/

namespace ContentBlocker

variable [Externals]

/-- A call of a scriptlet. -/
structure ScriptletCall where
  /-- The name of the scriptlet. -/
  name : Text
  /-- The arguments. -/
  args : List Text
  deriving DecidableEq, Repr

namespace ScriptletCall

/-- The start of a call. -/
def start : Text := "//scriptlet("

/-- Read the tokens of a call up to its end, with commas between and perhaps one behind. -/
def readTokens? (t : Text) : Option (List Text) :=
  if t = [] then some []
  else match _h : Text.readQuoted? t with
    | none => none
    | some (body, rest) =>
      match _hr : Text.trimStart rest with
      | [] => some [body]
      | c :: more =>
        if c = ',' then (readTokens? (Text.trimStart more)).map (body :: ·) else none
termination_by t.length
decreasing_by
  have h₁ := Text.readQuoted?_length _h
  have h₂ := Text.trimStart_length rest
  have h₃ := Text.trimStart_length more
  rw [_hr, List.length_cons] at h₂
  omega

/-- What stands between the parentheses of a call. -/
def inner? (t : Text) : Option Text :=
  (Text.stripStart? start t).bind fun rest => Text.stripEnd? [')'] (Text.trimEnd rest)

/-- Read a call.  The first token is the name and must not be empty. -/
def read (t : Text) : Except RuleError ScriptletCall :=
  match (inner? t).bind fun inner => readTokens? (Text.trimStart inner) with
  | some ((c :: name) :: args) => .ok ⟨c :: name, args⟩
  | _ => .error (.invalidScriptlet t)

/-- A call as a value. -/
def toJson (call : ScriptletCall) : Json :=
  .obj [("name", .str call.name), ("args", Json.ofTexts call.args)]

end ScriptletCall

/-- Read the rule `text` that a marker splits into `before` and `after`: a call of a scriptlet or a
script. -/
def Rule.readScript (text before : Text) (marker : Marker) (after : Text) :
    Except RuleError Rule :=
  let head : RuleHead :=
    { text, scope := Scope.read before, isException := marker.isException }
  if ScriptletCall.start.isPrefixOf after then
    match ScriptletCall.read after with
    | .ok call => .ok (.scriptlet { head with name := call.name, param := call.toJson.compact })
    | .error e => .error e
  else .ok (.script { head with script := after })

end ContentBlocker
