import ContentBlocker.Text.Basic

/-!
# Escaped delimiters

Rule texts escape their own delimiters.  This file holds the two readings of such texts:

* `splitEscaped` splits at the delimiters that no escape stands before;
* `lastUnescaped?` finds the last delimiter that no escape stands before.
-/

namespace ContentBlocker

namespace Text

/-! ### Splitting -/

/-- The state of splitting: the parts that are complete, the current part and the character
before, the current part in reverse. -/
structure Splitting where
  /-- The complete parts, the latest first. -/
  parts : List Text
  /-- The characters of the current part, the latest first. -/
  current : Text
  /-- The character read before, if any. -/
  before : Option Char

namespace Splitting

/-- Read one character.  An escaped delimiter takes the place of its escape; a delimiter at the
start of the text is dropped; an empty part is dropped unless `keepEmpty` is set. -/
def step (delimiter escape : Char) (keepEmpty : Bool) (s : Splitting) (c : Char) : Splitting :=
  if c = delimiter then
    if s.before = none then { s with before := some c }
    else if s.before = some escape then
      { s with current := c :: s.current.tail, before := some c }
    else if keepEmpty || !s.current.isEmpty then
      ⟨s.current.reverse :: s.parts, [], some c⟩
    else { s with before := some c }
  else { s with current := c :: s.current, before := some c }

/-- The parts, in order, when the text has ended.  An empty last part is dropped. -/
def finish (s : Splitting) : List Text :=
  if s.current.isEmpty then s.parts.reverse else (s.current.reverse :: s.parts).reverse

end Splitting

/-- The parts of a text between its unescaped delimiters. -/
def splitEscaped (delimiter escape : Char) (keepEmpty : Bool) (t : Text) : List Text :=
  (t.foldl (Splitting.step delimiter escape keepEmpty) ⟨[], [], none⟩).finish

end Text

/-! ### Searching from the end -/

section LastUnescaped

variable {α : Type} [DecidableEq α]

/-- The position `i` holds `needle` and no `escape` stands right before it. -/
def UnescapedAt (needle escape : α) (xs : List α) (i : Nat) : Prop :=
  xs[i]? = some needle ∧ (i = 0 ∨ xs[i - 1]? ≠ some escape)

instance (needle escape : α) (xs : List α) (i : Nat) :
    Decidable (UnescapedAt needle escape xs i) :=
  inferInstanceAs (Decidable (_ ∧ _))

/-- The greatest position below `n` and at least `start` that holds an unescaped `needle`. -/
def lastUnescapedBelow? (needle escape : α) (start : Nat) (xs : List α) : Nat → Option Nat
  | 0 => none
  | i + 1 =>
    if i < start then none
    else if UnescapedAt needle escape xs i then some i
    else lastUnescapedBelow? needle escape start xs i

/-- The greatest position, at least `start` and before the last element, that holds a `needle`
which no `escape` stands right before.  A delimiter at the very end separates nothing. -/
def lastUnescaped? (needle escape : α) (start : Nat) (xs : List α) : Option Nat :=
  lastUnescapedBelow? needle escape start xs (xs.length - 1)

end LastUnescaped

namespace Text

/-- What stands before and after the last unescaped `needle` of a text. -/
def cutLastUnescaped? (needle escape : Char) (t : Text) : Option (Text × Text) :=
  (lastUnescaped? needle escape 0 t).map fun i => (t.take i, t.drop (i + 1))

end Text
end ContentBlocker
