import ContentBlocker.Regex.PropertyData
import ContentBlocker.Text.Basic

/-!
# Names of Unicode properties

`isProperty` says whether a name in a regular expression names a set of characters.  Names are
compared without case, blanks, hyphens and underscores.
-/

namespace ContentBlocker.Regex

/-- The characters of a name that count, in lower case. -/
def nameLetters (t : Text) : Text :=
  (t.filter fun c => c.toNat < 128 && c ≠ ' ' && c ≠ '_' && c ≠ '-').map Char.toLower

/-- A name as it is compared.  An `is` at the start does not count, but `isc` is no name of a
category. -/
def normalizeName (t : Text) : Text :=
  match t with
  | i :: s :: rest =>
    if i.toLower = 'i' ∧ s.toLower = 's' then
      if nameLetters rest = ['c'] then "isc" else nameLetters rest
    else nameLetters t
  | _ => nameLetters t

/-- The written names as they are compared. -/
def readNames (names : String) : List Text :=
  (Text.entries names).map nameLetters

/-- Names of properties that hold or do not hold. -/
def binaryProperties : List Text := readNames binaryNames

/-- Names of general categories. -/
def categories : List Text := readNames categoryNames

/-- Names of scripts. -/
def scripts : List Text := readNames scriptNames

/-- Names of versions. -/
def ages : List Text := readNames ageNames

/-- Names of values of Grapheme_Cluster_Break. -/
def graphemeBreaks : List Text := readNames graphemeBreakNames

/-- Names of values of Sentence_Break. -/
def sentenceBreaks : List Text := readNames sentenceBreakNames

/-- Names of values of Word_Break. -/
def wordBreaks : List Text := readNames wordBreakNames

/-- The values of the property with a name, the name as it is compared. -/
def valuesOf (name : Text) : List Text :=
  match String.ofList name with
  | "gc" | "generalcategory" => categories
  | "sc" | "script" | "scx" | "scriptextensions" => scripts
  | "age" => ages
  | "gcb" | "graphemeclusterbreak" => graphemeBreaks
  | "sb" | "sentencebreak" => sentenceBreaks
  | "wb" | "wordbreak" => wordBreaks
  | _ => []

/-- The name of a property and of its value, if both are written. -/
def splitProperty? (t : Text) : Option (Text × Text) :=
  (Text.cut? "!=" t).or ((Text.cut? [':'] t).or (Text.cut? ['='] t))

/-- A name in a regular expression names a script. -/
def isScript (t : Text) : Bool :=
  match splitProperty? t with
  | some (_, value) => scripts.contains (normalizeName value)
  | none => scripts.contains (normalizeName t)

/-- A name in a regular expression names a set of characters. -/
def isProperty (t : Text) : Bool :=
  match splitProperty? t with
  | some (name, value) => (valuesOf (normalizeName name)).contains (normalizeName value)
  | none =>
    let name := normalizeName t
    binaryProperties.contains name || categories.contains name || scripts.contains name

end ContentBlocker.Regex
