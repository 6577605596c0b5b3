import ContentBlocker.Externals
import ContentBlocker.Unicode.Case

/-!
# Domains in ASCII

Content blockers compare domains in their ASCII form and in lower case.
-/

namespace ContentBlocker.Domain

variable [Externals]

/-- The ASCII form of a domain; a domain that has none stays as it is. -/
def ascii (domain : Text) : Text :=
  if Text.isAscii domain then domain else (Externals.toAscii? domain).getD domain

/-- The form in which the domains of rules are kept: lower case, then ASCII. -/
def normalize (domain : Text) : Text := ascii domain.lower

/-- An ASCII domain is its own ASCII form. -/
theorem ascii_of_isAscii {d : Text} (h : Text.isAscii d) : ascii d = d := by
  simp [ascii, h]

end ContentBlocker.Domain
