import ContentBlocker.Idna.Label

/-!
# ASCII forms of domain names

`toAscii?` converts a domain name to its ASCII form: the text is mapped and normalized, and each
label with other characters is written in punycode.
-/

namespace ContentBlocker.Idna

open Unicode

/-- The ASCII form of a domain name, if it has one. -/
def toAscii? (domain : Text) : Option Text := do
  let mapped ← map? domain
  let labels := (normalize mapped).splitOn '.'
  let expanded ← labels.mapM expand?
  if expanded.all labelFits &&
      (!expanded.any (·.any isRightToLeft) || expanded.all directionsFit) then
    some (['.'].intercalate (labels.map asciiLabel))
  else none

end ContentBlocker.Idna
