import ContentBlocker.Idna.MappingData
import ContentBlocker.Unicode.Table

/-!
# The mapping of domain names

The first step of the conversion of an internationalized domain name: every character stays as it
is, is dropped, is mapped to others, or may not occur.
-/

namespace ContentBlocker.Idna

open Unicode

/-- The characters that stay as they are. -/
def validTable : Table := Table.read validData

/-- The characters that are dropped. -/
def ignoredTable : Table := Table.read ignoredData

/-- The characters that are mapped to others. -/
def mappedTable : Table := Table.read mappedData

/-- The character may stand in a converted label. -/
def isValid (c : Char) : Bool := validTable.holds c.toNat

/-- The image of one character, if it may occur. -/
def mapChar? (c : Char) : Option Text :=
  if isValid c then some [c]
  else match mappedTable.image? c.toNat with
    | some ns => some (chars ns)
    | none => if ignoredTable.holds c.toNat then some [] else none

/-- The image of a text, if all of its characters may occur. -/
def map? : Text → Option Text
  | [] => some []
  | c :: t =>
    match mapChar? c, map? t with
    | some image, some rest => some (image ++ rest)
    | _, _ => none

end ContentBlocker.Idna
