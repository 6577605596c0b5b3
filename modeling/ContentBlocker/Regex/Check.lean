import ContentBlocker.Regex.Parser
import ContentBlocker.Regex.Property

/-!
# Well-formed regular expressions

An expression that can be parsed may still have no meaning: it may name an unknown property, or
match bytes that are no text, or need too large an automaton.

* `check?` follows the switch `u` through an expression and finds faults of meaning;
* `storage` estimates the size of the automaton;
* `isWellFormed` says that a text writes an expression without any fault.
-/

namespace ContentBlocker

namespace CharSet

mutual

/-- Every property that a set names is known. -/
def propertiesKnown : CharSet → Bool
  | .property _ name => Regex.isProperty name
  | .bracketed _ s => s.propertiesKnown
  | .union items => allPropertiesKnown items
  | .operation _ l r => l.propertiesKnown && r.propertiesKnown
  | _ => true

/-- Every property that one of the sets names is known. -/
def allPropertiesKnown : List CharSet → Bool
  | [] => true
  | s :: items => s.propertiesKnown && allPropertiesKnown items

end

/-- An ASCII character. -/
def isAsciiLiteral (l : Literal) : Bool := l.char.toNat < 128

/-- The bytes above 127 of two sets under an operator: both sets hold all of them or none. -/
def combineHigh : SetOperator → Bool → Bool → Bool
  | .intersection, a, b => a && b
  | .difference, a, b => a && !b
  | .symmetricDifference, a, b => a != b

mutual

/-- Whether a set of bytes holds the bytes above 127; nothing if it has no meaning.  A set of bytes
may not match what is no text. -/
def high? : CharSet → Option Bool
  | .empty => some false
  | .literal l => if isAsciiLiteral l then some false else none
  | .range a b => if isAsciiLiteral a && isAsciiLiteral b then some false else none
  | .named negated => some negated
  | .letter negated _ => if negated then none else some false
  | .property _ _ => none
  | .bracketed negated s =>
    match s.high? with
    | some h => if h != negated then none else some false
    | none => none
  | .union items => anyHigh? items
  | .operation op l r =>
    match l.high?, r.high? with
    | some a, some b => some (combineHigh op a b)
    | _, _ => none

/-- Whether one of some sets of bytes holds the bytes above 127. -/
def anyHigh? : List CharSet → Option Bool
  | [] => some false
  | s :: items =>
    match s.high?, anyHigh? items with
    | some a, some b => some (a || b)
    | _, _ => none

end

end CharSet

namespace Regex

/-! ### Faults of meaning -/

mutual

/-- The switch `u` after an expression that starts with it set to `u`; nothing if the expression has
no meaning.  Without the switch an expression speaks of bytes. -/
def check? (u : Bool) : Regex → Option Bool
  | .empty => some u
  | .look => some u
  | .flags list => some ((list.get? 'u').getD u)
  | .literal l => if !u && l.isByte && 128 ≤ l.char.toNat then none else some u
  | .dot => if u then some u else none
  | .letter negated _ => if !u && negated then none else some u
  | .property _ name => if u && isProperty name then some u else none
  | .set negated s =>
    if u then if s.propertiesKnown then some u else none
    else ((CharSet.bracketed negated s).high?).map fun _ => u
  | .repeated _ _ r => r.check? u
  | .group list r => (r.check? ((list.get? 'u').getD u)).map fun _ => u
  | .alternation branches => checkAll? u branches
  | .concatenation parts => checkAll? u parts

/-- The switch `u` after some expressions in turn. -/
def checkAll? (u : Bool) : List Regex → Option Bool
  | [] => some u
  | r :: rs =>
    match r.check? u with
    | some v => checkAll? v rs
    | none => none

end

/-! ### The size of the automaton -/

mutual

/-- The expression matches nothing but the empty text. -/
def matchesOnlyEmpty : Regex → Bool
  | .empty => true
  | .flags _ => true
  | .look => true
  | .repeated _ high r => high = some 0 || r.matchesOnlyEmpty
  | .group _ r => r.matchesOnlyEmpty
  | .alternation branches => allMatchOnlyEmpty branches
  | .concatenation parts => allMatchOnlyEmpty parts
  | _ => false

/-- Every one of some expressions matches nothing but the empty text. -/
def allMatchOnlyEmpty : List Regex → Bool
  | [] => true
  | r :: rs => r.matchesOnlyEmpty && allMatchOnlyEmpty rs

end

/-- The storage of one state, in bytes. -/
def stateSize : Nat := 32

/-- The storage of a way out of a state, in bytes. -/
def wayOutSize : Nat := 8

/-- The storage of a class that a letter names, in bytes. -/
def letterStorage : Bool → LetterClass → Nat
  | false, .digit => 150 * stateSize
  | false, .space => 18 * stateSize
  | false, .word => 1500 * stateSize
  | true, .digit => 370 * stateSize
  | true, .space => 56 * stateSize
  | true, .word => 1400 * stateSize

/-- The storage of a property, in bytes.  Scripts are small, and most other properties are large. -/
def propertyStorage (name : Text) : Nat :=
  if isScript name then 100 * stateSize else 1300 * stateSize

/-- The storage of what is left of all characters, in bytes. -/
def complementStorage : Nat := 29 * stateSize

/-- The storage of a character, in bytes: a letter has several forms unless case counts. -/
def literalStorage (caseless : Bool) (c : Char) : Nat :=
  if caseless && c.isAlpha then 2 * stateSize + 2 * wayOutSize
  else if caseless && 128 ≤ c.toNat then 6 * stateSize
  else c.utf8Size * stateSize

mutual

/-- An estimate of the storage of a set, in bytes. -/
def setStorage : CharSet → Nat
  | .empty => stateSize
  | .literal _ => wayOutSize
  | .range a b =>
    if a.char.toNat < 128 && b.char.toNat < 128 then wayOutSize else 4 * stateSize
  | .named _ => stateSize
  | .letter negated which => letterStorage negated which
  | .property _ name => propertyStorage name
  | .bracketed negated s => setStorage s + (if negated then complementStorage else 0)
  | .union items => allSetStorage items
  | .operation _ l r => setStorage l + setStorage r

/-- An estimate of the storage of some sets, in bytes. -/
def allSetStorage : List CharSet → Nat
  | [] => 0
  | s :: items => setStorage s + allSetStorage items

end

/-- The storage of an expression of the given storage that is repeated, in bytes. -/
def repeatedStorage (low : Nat) (high : Option Nat) (body : Nat) : Nat :=
  match high with
  | none => max 1 low * body + 2 * stateSize
  | some n => low * body + (n - low) * (body + stateSize + wayOutSize)

mutual

/-- An estimate of the storage of the automaton of an expression, in bytes.  What matches only the
empty text need not be repeated. -/
def storage (caseless : Bool) : Regex → Nat
  | .empty => stateSize
  | .look => stateSize
  | .flags _ => 0
  | .literal l => literalStorage caseless l.char
  | .dot => 2 * stateSize + complementStorage
  | .letter negated which => letterStorage negated which
  | .property _ name => propertyStorage name
  | .set negated s => 2 * stateSize + setStorage (.bracketed negated s)
  | .repeated low high r =>
    if r.matchesOnlyEmpty then r.storage caseless
    else repeatedStorage low high (r.storage caseless)
  | .group _ r => r.storage caseless + 2 * stateSize
  | .alternation branches => allStorage caseless branches + 2 * stateSize
  | .concatenation parts => allStorage caseless parts

/-- An estimate of the storage of the automata of some expressions, in bytes. -/
def allStorage (caseless : Bool) : List Regex → Nat
  | [] => 0
  | r :: rs => r.storage caseless + allStorage caseless rs

end

/-- The largest automaton that is built, in bytes: ten mebibytes. -/
def maxStorage : Nat := 10 * 1048576

/-! ### Well-formed texts -/

/-- The text writes a regular expression without faults. -/
def isWellFormed (caseless : Bool) (t : Text) : Bool :=
  match parse? t with
  | some r => (r.check? true).isSome && r.storage caseless ≤ maxStorage
  | none => false

end Regex
end ContentBlocker
