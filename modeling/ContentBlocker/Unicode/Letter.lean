import ContentBlocker.Unicode.LetterData
import ContentBlocker.Unicode.Table

/-!
# Letters and numbers
-/

namespace ContentBlocker.Unicode

/-- The characters with the property Alphabetic. -/
def alphabeticTable : Table := Table.read alphabeticData

/-- The characters of the general category Number. -/
def numericTable : Table := Table.read numericData

/-- The character has the property Alphabetic. -/
def isAlphabetic (c : Char) : Bool :=
  if c.toNat < 128 then c.isAlpha else alphabeticTable.holds c.toNat

/-- The character is alphabetic or a number. -/
def isAlphanumeric (c : Char) : Bool :=
  if c.toNat < 128 then c.isAlphanum else isAlphabetic c || numericTable.holds c.toNat

end ContentBlocker.Unicode
