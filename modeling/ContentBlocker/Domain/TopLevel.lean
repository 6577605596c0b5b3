import ContentBlocker.Text.Basic

/-!
# Wildcard top-level domains

A trigger knows no `example.*`, so such a domain stands for one domain per popular top-level
domain.
-/

namespace ContentBlocker.Domain

/-- The top-level domains that a wildcard stands for, in the order of its expansion. -/
def topLevels : List String :=
  ["com", "org", "ru", "net", "de", "uk", "info", "fr", "jp", "br",
   "it", "pl", "in", "nl", "au", "es", "cn", "ca", "ch", "eu",
   "ir", "kr", "se", "be", "tr", "cz", "us", "mx", "vn", "gr",
   "ua", "tw", "ro", "dk", "za", "no", "ar", "at", "hu", "co",
   "me", "fi", "sk", "cl", "pt", "io", "biz", "id", "nz", "il",
   "ie", "kz", "tv", "pk", "my", "sg", "lt", "hk", "ph", "by",
   "rs", "bg", "si", "hr", "lv", "ee", "ae", "sa", "pe", "ng",
   "eg", "th", "ve", "az", "ge", "uz", "lk", "am", "ma", "ke",
   "is", "lu", "cc", "cy", "ba", "md", "mk", "al", "to", "ws",
   "ec", "do", "uy", "bd", "np", "tk", "ly", "la", "gg", "sh"]

/-- The end of a domain with a wildcard. -/
def wildcardEnd : Text := ".*"

/-- The domains that one domain of a rule stands for. -/
def expand (domain : Text) : List Text :=
  match Text.stripEnd? wildcardEnd domain with
  | some name => topLevels.map fun level => name ++ '.' :: level.toList
  | none => [domain]

/-- Every wildcard domain of a list replaced by what it stands for. -/
def expandAll (domains : List Text) : List Text := domains.flatMap expand

end ContentBlocker.Domain
