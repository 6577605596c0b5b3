import ContentBlocker.Text.Basic

/-!
# JSON values

The values of the JSON format.  Numbers keep their written form, and objects keep their fields in
order, repeated names included.

The accessors at the end read a value as a record, a list or a name.
-/

namespace ContentBlocker

/-- A JSON value. -/
inductive Json where
  | null
  | bool (b : Bool)
  /-- A number in its written form. -/
  | num (digits : Text)
  | str (t : Text)
  | arr (items : List Json)
  | obj (fields : List (Text × Json))
  /-- A string, or an object with a name, that holds half of a pair of surrogates.  It may be
  written, but no text is the same. -/
  | broken
  deriving Repr

namespace Json

/-- A natural number. -/
def ofNat (n : Nat) : Json := .num (Text.decimal n)

/-- A list of texts. -/
def ofTexts (ts : List Text) : Json := .arr (ts.map .str)

/-- A value, or null where there is none. -/
def ofOption {α : Type} (f : α → Json) : Option α → Json
  | some a => f a
  | none => .null

/-! ### Reading values -/

/-- A text. -/
def text? : Json → Option Text
  | .str t => some t
  | _ => none

/-- A truth value. -/
def bool? : Json → Option Bool
  | .bool b => some b
  | _ => none

/-- A natural number of at most 64 bits, written with digits only. -/
def nat? : Json → Option Nat
  | .num digits =>
    if digits.all Char.isDigit then
      let n := digits.foldl (fun n c => 10 * n + (c.toNat - '0'.toNat)) 0
      if n < 0x10000000000000000 then some n else none
    else none
  | _ => none

/-- A list of values that `f` reads. -/
def list? {α : Type} (f : Json → Option α) : Json → Option (List α)
  | .arr items => items.mapM f
  | _ => none

/-- A value that `f` reads, or none if it is null. -/
def nullable? {α : Type} (f : Json → Option α) : Json → Option (Option α)
  | .null => some none
  | j => (f j).map some

/-- The value of the first field with a name. -/
def field? (j : Json) (name : Text) : Option Json :=
  match j with
  | .obj fields => fields.lookup name
  | _ => none

/-- The value of the field with a name, if the name is not repeated. -/
def uniqueField? (fields : List (Text × Json)) (name : Text) : Option (Option Json) :=
  match fields.filter (·.1 = name) with
  | [] => some none
  | [f] => some (some f.2)
  | _ => none

/-- The fields of a record with the given names, in their order.  A record is written as an
object, in which other fields do not count and no field of the record is repeated, or as the list
of the first of its fields. -/
def record? (names : List Text) : Json → Option (List (Option Json))
  | .obj fields => names.mapM (uniqueField? fields)
  | .arr items =>
    if items.length ≤ names.length then
      some (items.map some ++ List.replicate (names.length - items.length) none)
    else none
  | _ => none

/-- A name from a fixed choice: a text, or an object whose only field has that name and is null. -/
def choice? {α : Type} (choices : List (Text × α)) : Json → Option α
  | .str t => choices.lookup t
  | .obj [(t, .null)] => choices.lookup t
  | _ => none

end Json
end ContentBlocker
