import ContentBlocker.Idna.ToAscii
import ContentBlocker.Regex.Check

/-!
# What is decided elsewhere

Two decisions about the texts of a rule are not made by the conversion itself: which texts are
regular expressions, and what a domain is in ASCII.

* `Externals` is the parameter that makes these decisions; what is proved of rules and of their
  conversion holds for any decisions;
* `Externals.standard` makes the decisions that the library is run with.
-/

namespace ContentBlocker

/-- The decisions that are made elsewhere. -/
class Externals where
  /-- Whether a text is a regular expression, in which upper and lower case may be the same. -/
  isRegex (caseless : Bool) (source : Text) : Bool
  /-- The ASCII form of a domain name, if it has one. -/
  toAscii? (domain : Text) : Option Text

/-- The decisions by the grammar of regular expressions and by the tables of domain names.  Another
engine may decide otherwise, if only because the size of an automaton is estimated here. -/
instance (priority := low) Externals.standard : Externals where
  isRegex := Regex.isWellFormed
  toAscii? := Idna.toAscii?

end ContentBlocker
