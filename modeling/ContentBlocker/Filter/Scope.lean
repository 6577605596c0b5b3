import ContentBlocker.Domain.Ascii
import ContentBlocker.Text.Blank

/-!
# Domains of rules

The domains that a rule is limited to and those that it does not apply to.
-/

namespace ContentBlocker

/-- The domains of a rule, in the order they are written. -/
structure Scope where
  /-- The domains that the rule is limited to. -/
  permitted : List Text := []
  /-- The domains that the rule does not apply to. -/
  restricted : List Text := []
  deriving DecidableEq, Repr

namespace Scope

variable [Externals]

/-- The domains of two scopes. -/
def append (s t : Scope) : Scope :=
  ⟨s.permitted ++ t.permitted, s.restricted ++ t.restricted⟩

/-- The scope of one domain: one with a tilde in front is restricted. -/
def ofToken : Text → Scope
  | [] => {}
  | '~' :: [] => {}
  | '~' :: domain => { restricted := [Domain.normalize domain] }
  | domain => { permitted := [Domain.normalize domain] }

/-- The parts of a list of domains, which commas or bars separate. -/
def tokens (t : Text) : List Text :=
  ((t.splitOnP fun c => c = ',' || c = '|').map Text.trim).filter (!·.isEmpty)

/-- Read a list of domains. -/
def read (t : Text) : Scope := ((tokens t).map ofToken).foldl append {}

end Scope
end ContentBlocker
