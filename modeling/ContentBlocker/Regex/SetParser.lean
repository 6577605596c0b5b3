import ContentBlocker.Regex.Scanner

/-!
# Sets of characters between brackets

Reading what stands between brackets, with nested brackets and the operators between sets.

* `SetLevel` is a bracket that is still open, with what was read in it so far;
* `readSet?` reads a whole set behind its opening bracket.
-/

namespace ContentBlocker.Regex

/-- An open bracket. -/
structure SetLevel where
  /-- The set is complemented. -/
  negated : Bool
  /-- The operator that waits for its right side, with its left side. -/
  left : Option (SetOperator × CharSet)
  /-- The items read since, the latest first. -/
  items : List CharSet

namespace SetLevel

/-- The set read so far. -/
def toSet (l : SetLevel) : CharSet :=
  let right := CharSet.ofItems l.items.reverse
  match l.left with
  | some (op, left) => .operation op left right
  | none => right

/-- Add an item. -/
def add (l : SetLevel) (s : CharSet) : SetLevel := { l with items := s :: l.items }

/-- Read an operator. -/
def operate (l : SetLevel) (op : SetOperator) : SetLevel :=
  { l with left := some (op, l.toSet), items := [] }

end SetLevel

/-! ### Items -/

/-- Read one item: an escape, or any character for itself. -/
def readItem? (x : Bool) : Text → Option (CharSet × Text)
  | [] => none
  | '\\' :: t =>
    match readEscape? x t with
    | some (.literal l, rest) => some (.literal l, rest)
    | some (.letter negated which, rest) => some (.letter negated which, rest)
    | some (.property negated name, rest) => some (.property negated name, rest)
    | _ => none
  | c :: t => some (.literal ⟨c, false⟩, t)

/-- The character that decides whether a hyphen before `t` writes a range. -/
def afterHyphen (x : Bool) (t : Text) : Option Char :=
  if x then
    match t.dropWhile Text.isBlank with
    | '#' :: u => (u.dropWhile Text.isBlank).head?
    | u => u.head?
  else t.head?

/-- Read an item or a range of characters. -/
def readRange? (x : Bool) (t : Text) : Option (CharSet × Text) := do
  let (first, rest) ← readItem? x t
  match skip x rest with
  | [] => none
  | '-' :: u =>
    if afterHyphen x u = some ']' ∨ afterHyphen x u = some '-' then some (first, '-' :: u)
    else
      match first, ← readItem? x (skip x u) with
      | .literal a, (.literal b, rest) =>
        if a.char.toNat ≤ b.char.toNat then some (.range a b, rest) else none
      | _, _ => none
  | u => some (first, u)

/-- The names between `[:` and `:]`. -/
def classNames : List Text :=
  ["alnum", "alpha", "ascii", "blank", "cntrl", "digit", "graph", "lower", "print", "punct",
    "space", "upper", "word", "xdigit"]

/-- Read a named class behind its opening bracket. -/
def readNamed? (t : Text) : Option (CharSet × Text) := do
  let t ← Text.stripStart? [':'] t
  let (negated, t) := match t with
    | '^' :: u => (true, u)
    | _ => (false, t)
  let (name, rest) ← Text.cut? [':'] t
  let rest ← Text.stripStart? [']'] rest
  if classNames.contains name then some (.named negated, rest) else none

/-! ### Brackets -/

/-- Read the hyphens at the start of a set: their items and the rest. -/
def readHyphens (x : Bool) : Text → List CharSet × Text
  | '-' :: t =>
    let (items, rest) := readHyphens x (skip x t)
    (.literal ⟨'-', false⟩ :: items, rest)
  | t => ([], t)
termination_by t => t.length
decreasing_by
  have := skip_length x t
  simp only [List.length_cons]
  omega

/-- Read the start of a set behind its opening bracket: the complement sign, hyphens, and a closing
bracket that stands for itself because the set would be empty. -/
def openSet? (x : Bool) (t : Text) : Option (SetLevel × Text) :=
  let (negated, t) := match skip x t with
    | '^' :: u => (true, skip x u)
    | u => (false, u)
  match readHyphens x t with
  | ([], ']' :: u) => some (⟨negated, none, [.literal ⟨']', false⟩]⟩, skip x u)
  | (_, []) => none
  | (items, u) => some (⟨negated, none, items⟩, u)

/-- Read on inside of the open brackets `level` and `outer`, the innermost first.  Every turn reads
at least one character. -/
def readSetFrom? (x : Bool) (level : SetLevel) (outer : List SetLevel) (t : Text) :
    Option (Bool × CharSet × Text) :=
  match _h : skip x t with
  | [] => none
  | ']' :: u =>
    match outer with
    | [] => some (level.negated, level.toSet, u)
    | parent :: outer =>
      readSetFrom? x (parent.add (.bracketed level.negated level.toSet)) outer u
  | '&' :: '&' :: u => readSetFrom? x (level.operate .intersection) outer u
  | '-' :: '-' :: u => readSetFrom? x (level.operate .difference) outer u
  | '~' :: '~' :: u => readSetFrom? x (level.operate .symmetricDifference) outer u
  | '[' :: u =>
    match readNamed? u with
    | some (s, rest) =>
      if rest.length < t.length then readSetFrom? x (level.add s) outer rest else none
    | none =>
      match openSet? x u with
      | some (inner, rest) =>
        if rest.length < t.length then readSetFrom? x inner (level :: outer) rest else none
      | none => none
  | u =>
    match readRange? x u with
    | some (s, rest) =>
      if rest.length < t.length then readSetFrom? x (level.add s) outer rest else none
    | none => none
termination_by t.length
decreasing_by
  all_goals
    have := skip_length x t
    simp_all only [List.length_cons]
    try omega

/-- Read a set behind its opening bracket: whether it is complemented, the set and the rest. -/
def readSet? (x : Bool) (t : Text) : Option (Bool × CharSet × Text) := do
  let (level, rest) ← openSet? x t
  readSetFrom? x level [] rest

end ContentBlocker.Regex
