import ContentBlocker.Blocker.Rule
import ContentBlocker.Json.Printer
import ContentBlocker.Json.Reader

/-!
# Content blockers as JSON

The written form of the rules of a content blocker.

* `BlockerRule.toJson` and `BlockerRule.ofJson?` turn a rule into a value and back;
* `BlockerRule.writeAll` writes a list of rules on lines;
* `BlockerRule.readAll?` reads a written list.

An absent field is left out when writing; when reading, null is absent too.
-/

namespace ContentBlocker

/-! ### Names of choices -/

/-- The names of resource types. -/
def ResourceType.names : List (Text × ResourceType) :=
  [("image", .image), ("style-sheet", .styleSheet), ("script", .script), ("media", .media),
    ("raw", .raw), ("font", .font), ("document", .document), ("popup", .popup)]

/-- The name of a resource type. -/
def ResourceType.name : ResourceType → Text
  | .image => "image"
  | .styleSheet => "style-sheet"
  | .script => "script"
  | .media => "media"
  | .raw => "raw"
  | .font => "font"
  | .document => "document"
  | .popup => "popup"

/-- The names of load types. -/
def LoadType.names : List (Text × LoadType) :=
  [("first-party", .firstParty), ("third-party", .thirdParty)]

/-- The name of a load type. -/
def LoadType.name : LoadType → Text
  | .firstParty => "first-party"
  | .thirdParty => "third-party"

/-- The names of action types. -/
def ActionType.names : List (Text × ActionType) :=
  [("block", .block), ("css-display-none", .cssDisplayNone), ("css", .css), ("script", .script),
    ("scriptlet", .scriptlet), ("ignore-previous-rules", .ignorePreviousRules)]

/-- The name of an action type. -/
def ActionType.name : ActionType → Text
  | .block => "block"
  | .cssDisplayNone => "css-display-none"
  | .css => "css"
  | .script => "script"
  | .scriptlet => "scriptlet"
  | .ignorePreviousRules => "ignore-previous-rules"

namespace Json

/-- A field of a record, left out if its value is absent. -/
def fieldOf {α : Type} (name : Text) (f : α → Json) : Option α → List (Text × Json)
  | some a => [(name, f a)]
  | none => []

/-- The value of an optional field. -/
def optional? {α : Type} (f : Json → Option α) : Option Json → Option (Option α)
  | none => some none
  | some j => nullable? f j

end Json

open Json

/-! ### Triggers -/

namespace Trigger

/-- The names of the fields. -/
def fieldNames : List Text :=
  ["url-filter", "resource-type", "load-type", "url-filter-is-case-sensitive", "if-domain",
    "unless-domain"]

/-- A trigger as a value. -/
def toJson (t : Trigger) : Json :=
  .obj (("url-filter", .str t.urlFilter) ::
    (fieldOf "resource-type" (fun ts => .arr (ts.map (.str ·.name))) t.resourceType ++
      fieldOf "load-type" (fun ts => .arr (ts.map (.str ·.name))) t.loadType ++
      fieldOf "url-filter-is-case-sensitive" .bool t.isCaseSensitive ++
      fieldOf "if-domain" ofTexts t.ifDomain ++
      fieldOf "unless-domain" ofTexts t.unlessDomain))

/-- The trigger of a value. -/
def ofJson? (j : Json) : Option Trigger := do
  let fields ← record? fieldNames j
  match fields with
  | [some filter, types, loads, sensitive, included, excluded] => do
    let filter ← filter.text?
    let types ← optional? (list? (choice? ResourceType.names)) types
    let loads ← optional? (list? (choice? LoadType.names)) loads
    let sensitive ← optional? bool? sensitive
    let included ← optional? (list? text?) included
    let excluded ← optional? (list? text?) excluded
    some ⟨filter, types, loads, sensitive, included, excluded⟩
  | _ => none

end Trigger

/-! ### Actions -/

namespace Action

/-- The names of the fields. -/
def fieldNames : List Text := ["type", "selector", "css", "script", "scriptlet", "scriptletParam"]

/-- An action as a value. -/
def toJson (a : Action) : Json :=
  .obj (("type", .str a.type.name) ::
    (fieldOf "selector" .str a.selector ++
      fieldOf "css" .str a.css ++
      fieldOf "script" .str a.script ++
      fieldOf "scriptlet" .str a.scriptlet ++
      fieldOf "scriptletParam" .str a.scriptletParam))

/-- The action of a value. -/
def ofJson? (j : Json) : Option Action := do
  let fields ← record? fieldNames j
  match fields with
  | [some type, selector, css, script, scriptlet, param] => do
    let type ← choice? ActionType.names type
    let selector ← optional? text? selector
    let css ← optional? text? css
    let script ← optional? text? script
    let scriptlet ← optional? text? scriptlet
    let param ← optional? text? param
    some ⟨type, selector, css, script, scriptlet, param⟩
  | _ => none

end Action

/-! ### Rules -/

namespace BlockerRule

/-- The names of the fields. -/
def fieldNames : List Text := ["trigger", "action"]

/-- A rule as a value. -/
def toJson (r : BlockerRule) : Json :=
  .obj [("trigger", r.trigger.toJson), ("action", r.action.toJson)]

/-- The rule of a value. -/
def ofJson? (j : Json) : Option BlockerRule := do
  let fields ← record? fieldNames j
  match fields with
  | [some trigger, some action] => do
    let trigger ← Trigger.ofJson? trigger
    let action ← Action.ofJson? action
    some ⟨trigger, action⟩
  | _ => none

/-- The rules of a value. -/
def allOfJson? (j : Json) : Option (List BlockerRule) := list? ofJson? j

/-- A list of rules on lines. -/
def writeAll (rules : List BlockerRule) : Text := (Json.arr (rules.map toJson)).pretty

/-- The rules of a written list. -/
def readAll? (t : Text) : Option (List BlockerRule) := (Json.parse? t).bind allOfJson?

end BlockerRule
end ContentBlocker
