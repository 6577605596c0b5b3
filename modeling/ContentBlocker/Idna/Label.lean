import ContentBlocker.Idna.Mapping
import ContentBlocker.Idna.Punycode
import ContentBlocker.Unicode.Direction
import ContentBlocker.Unicode.Normal

/-!
# Labels of domain names

What the labels of an internationalized domain name must satisfy:

* `joinersFit`: a joiner stands behind a virama or, if it is the non-joiner, between characters
  that would join;
* `directionsFit`: in a domain with right-to-left characters each label runs in one direction.
-/

namespace ContentBlocker.Idna

open Unicode

/-! ### Joiners -/

/-- The nearest character that is not transparent has one of the two joining types. -/
def joinsWith (a b : Joining) (t : Text) : Bool :=
  match t.dropWhile fun c => joining c = .transparent with
  | [] => false
  | c :: _ => joining c = a || joining c = b

/-- Every joiner of the text fits, where `before` is what precedes it, the nearest first. -/
def joinersFit (before : Text) : Text → Bool
  | [] => true
  | c :: t =>
    (if c = '\u200C' ∨ c = '\u200D' then
      match before with
      | [] => false
      | d :: _ =>
        combiningClass d = 9 ||
          (c = '\u200C' && joinsWith .left .dual before && joinsWith .right .dual t)
    else true) && joinersFit (c :: before) t

/-! ### Direction -/

/-- The character belongs to a right-to-left script. -/
def isRightToLeft (c : Char) : Bool :=
  match direction c with
  | .right | .arabicLetter | .arabicNumber => true
  | _ => false

/-- The classes that a label of the given direction may hold behind its first character. -/
def fitsInside (leftToRight : Bool) : Direction → Bool
  | .europeanNumber | .neutral | .mark => true
  | .left => leftToRight
  | .right | .arabicLetter | .arabicNumber => !leftToRight
  | .other => false

/-- The classes that a label of the given direction may end with, marks aside. -/
def fitsEnd (leftToRight : Bool) : Direction → Bool
  | .europeanNumber => true
  | .left => leftToRight
  | .right | .arabicLetter | .arabicNumber => !leftToRight
  | _ => false

/-- A label runs in the direction of its first character. -/
def directionsFit (label : Text) : Bool :=
  match label.map direction with
  | [] => true
  | first :: rest =>
    let leftToRight := first = .left
    (first = .left || first = .right || first = .arabicLetter) &&
      match rest.reverse.dropWhile (· = .mark) with
      | [] => true
      | last :: inner =>
        fitsEnd leftToRight last && inner.all (fitsInside leftToRight) &&
          (leftToRight ||
            !((last :: inner).contains .europeanNumber && (last :: inner).contains .arabicNumber))

/-! ### Labels -/

/-- The start of a label in punycode. -/
def aceStart : Text := "xn--"

/-- The longest punycode that is read. -/
def maxCodeLength : Nat := 2000

/-- The longest label that is written in punycode. -/
def maxLabelLength : Nat := 1000

/-- The characters of a label: of one in punycode those that it stands for. -/
def expand? (label : Text) : Option Text :=
  match Text.stripStart? aceStart label with
  | none => some label
  | some code =>
    if code.getLast? = none ∨ code.getLast? = some '-' ∨ maxCodeLength < code.length then none
    else match Punycode.decode? code with
      | none => none
      | some t => if t.all (fun c => isValid c && c ≠ '.') && normalize t = t then some t else none

/-- The characters of a label obey the rules for a single label. -/
def labelFits (t : Text) : Bool :=
  (match t with
    | [] => true
    | c :: _ => !isMark c) &&
    joinersFit [] t && (Text.isAscii t || t.length ≤ maxLabelLength)

/-- The ASCII form of a label with the given characters. -/
def asciiLabel (label : Text) : Text :=
  if Text.isAscii label then label else aceStart ++ Punycode.encode label

end ContentBlocker.Idna
