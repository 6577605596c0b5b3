import ContentBlocker.Json.Basic

/-!
# Settings of a conversion
-/

namespace ContentBlocker

/-- The settings of a conversion. -/
structure ConvertOptions where
  /-- The most rules in the basic output, zero for no limit. -/
  limit : Nat := 0
  /-- Leave out the hiding rules for all domains. -/
  optimize : Bool := false
  /-- Make the advanced output too. -/
  advancedBlocking : Bool := false
  /-- The most rules in one slice, zero for all of them. -/
  chunkSize : Nat := 1000
  deriving DecidableEq, Repr

namespace ConvertOptions

/-- The names of the fields. -/
def fieldNames : List Text := ["limit", "optimize", "advancedBlocking", "chunkSize"]

/-- The value of a field, or the given one if the field is absent. -/
def fieldOr? {α : Type} (f : Json → Option α) (absent : α) : Option Json → Option α
  | none => some absent
  | some j => f j

/-- The settings of a value. -/
def ofJson? (j : Json) : Option ConvertOptions := do
  let fields ← j.record? fieldNames
  let plain : ConvertOptions := {}
  match fields with
  | [limit, optimize, advanced, chunk] => do
    let limit ← fieldOr? Json.nat? plain.limit limit
    let optimize ← fieldOr? Json.bool? plain.optimize optimize
    let advanced ← fieldOr? Json.bool? plain.advancedBlocking advanced
    let chunk ← fieldOr? Json.nat? plain.chunkSize chunk
    some ⟨limit, optimize, advanced, chunk⟩
  | _ => none

end ConvertOptions
end ContentBlocker
