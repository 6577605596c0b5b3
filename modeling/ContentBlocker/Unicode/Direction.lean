import ContentBlocker.Unicode.DirectionData
import ContentBlocker.Unicode.Table

/-!
# Direction and joining

The properties of characters that the labels of right-to-left scripts are checked by: the
bidirectional class and the joining type.
-/

namespace ContentBlocker.Unicode

/-- Bidirectional classes. -/
inductive Direction where
  /-- L. -/
  | left
  /-- R. -/
  | right
  /-- AL. -/
  | arabicLetter
  /-- AN. -/
  | arabicNumber
  /-- EN. -/
  | europeanNumber
  /-- ES, CS, ET, ON and BN. -/
  | neutral
  /-- NSM. -/
  | mark
  /-- Any other class. -/
  | other
  deriving DecidableEq, Repr

/-- Bidirectional classes other than L. -/
def directionTable : Table := Table.read directionData

/-- The bidirectional class of a character. -/
def direction (c : Char) : Direction :=
  match directionTable.find? c.toNat with
  | none => .left
  | some s =>
    match String.ofList s.value with
    | "R" => .right
    | "AL" => .arabicLetter
    | "AN" => .arabicNumber
    | "EN" => .europeanNumber
    | "NSM" => .mark
    | "OTHER" => .other
    | _ => .neutral

/-- Joining types of characters. -/
inductive Joining where
  | left
  | dual
  | right
  | transparent
  | none
  deriving DecidableEq, Repr

/-- Joining types other than none. -/
def joiningTable : Table := Table.read joiningData

/-- The joining type of a character. -/
def joining (c : Char) : Joining :=
  match joiningTable.find? c.toNat with
  | .none => .none
  | some s =>
    match s.value with
    | ['L'] => .left
    | ['D'] => .dual
    | ['R'] => .right
    | _ => .transparent

end ContentBlocker.Unicode
