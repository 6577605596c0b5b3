import ContentBlocker.Domain.Ascii

/-!
# The host of a pattern

A pattern of a network rule may begin with a scheme or a host anchor.

* `HostPattern` is a pattern taken apart into its anchor, its host and its path;
* `isHostName` says whether a host is an ordinary host name;
* `hostOf?` is the host name that a pattern is bound to;
* `asciiPattern` is the pattern with its host in ASCII.
-/

namespace ContentBlocker

/-- A pattern taken apart. -/
structure HostPattern where
  /-- The scheme or anchor at the start. -/
  anchor : Text
  /-- What stands before the first `/` or, where there is none, before the first `^`. -/
  host : Text
  /-- What follows the host. -/
  path : Option Text
  deriving DecidableEq, Repr

namespace HostPattern

/-- What may stand before a host, the longer ones of a kind first. -/
def anchors : List Text :=
  ["http://www.", "https://www.", "http://", "https://", "||", "//"]

/-- Split a text before the first `c`, if there is one. -/
def splitBefore? (c : Char) (t : Text) : Option (Text × Text) :=
  if c ∈ t then some (t.takeWhile (· ≠ c), t.dropWhile (· ≠ c)) else none

/-- Take a pattern apart. -/
def ofPattern (pattern : Text) : HostPattern :=
  let anchor := (anchors.find? (·.isPrefixOf pattern)).getD []
  let rest := pattern.drop anchor.length
  match (splitBefore? '/' rest).or (splitBefore? '^' rest) with
  | some (host, path) => ⟨anchor, host, some path⟩
  | none => ⟨anchor, rest, none⟩

end HostPattern

namespace Domain

/-- A character of a label: an ASCII letter, a digit or a hyphen. -/
def isLabelChar (c : Char) : Bool := c.isAlphanum || c = '-'

/-- The text before the last dot has at least two characters, starts and ends with a letter or a
digit and holds letters, digits, hyphens and dots; the text behind it has at least two characters
and holds letters and hyphens. -/
def isHostName (domain : Text) : Bool :=
  match Text.cutLast? '.' domain with
  | none => false
  | some (front, top) =>
    2 ≤ top.length && top.all (fun c => c.isAlpha || c = '-') &&
      2 ≤ front.length && front.head?.any Char.isAlphanum && front.getLast?.any Char.isAlphanum &&
      front.all (fun c => isLabelChar c || c = '.')

end Domain

namespace HostPattern

variable [Externals]

/-- The host name, in ASCII and lower case, and the path of a pattern that is bound to an ordinary
host name. -/
def hostOf? (pattern : Text) : Option (Text × Option Text) :=
  let parts := ofPattern pattern
  if Domain.isHostName parts.host then some ((Domain.ascii parts.host).lower, parts.path)
  else none

/-- A pattern with every occurrence of its host in the ASCII form. -/
def asciiPattern (pattern : Text) : Text :=
  let host := (ofPattern pattern).host
  if Text.isAscii pattern || host.isEmpty || Text.isAscii host then pattern
  else Text.replaceAll host (Domain.ascii host) pattern

end HostPattern
end ContentBlocker
