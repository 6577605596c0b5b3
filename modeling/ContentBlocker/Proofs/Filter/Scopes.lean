import ContentBlocker.Filter.Scope
import ContentBlocker.Proofs.Domain.AsciiHosts
import ContentBlocker.Proofs.Text.Words

/-!
# Written lists of domains

A list of domains is written with commas or bars between the domains, and with blanks around them;
nothing between two separators is no domain.

* `DomainToken` is one domain of such a list, and `WritesDomains` says which texts write a list;
* `Scope.readBy` reads a list, with any conversion of domains to ASCII;
* `WritesDomains.readBy_eq` finds the domains again, in the order they are written.
-/

namespace ContentBlocker

/-! ### Lists and what writes them -/

namespace Scope

/-- A domain as it is written, a restricted one behind a tilde. -/
def signed (isRestricted : Bool) (domain : Text) : Text :=
  if isRestricted then '~' :: domain else domain

/-- The characters between domains. -/
def isSeparator (c : Char) : Bool := c = ',' || c = '|'

end Scope

/-- One domain of a list. -/
structure DomainToken where
  /-- The rule does not apply to the domain. -/
  isRestricted : Bool
  /-- The domain as it is written, without the tilde. -/
  domain : Text
  ne_nil : domain ≠ []
  trimmed : Text.trim (Scope.signed isRestricted domain) = Scope.signed isRestricted domain
  unseparated : ∀ c ∈ domain, Scope.isSeparator c = false
  unsigned : isRestricted = false → domain.head? ≠ some '~'

/-- What is written for the domain. -/
def DomainToken.text (d : DomainToken) : Text := Scope.signed d.isRestricted d.domain

/-- The text writes one domain, perhaps with blanks around it, or none. -/
inductive WritesDomain : List DomainToken → Text → Prop
  | none {gap : Text} (blank : Text.IsGap gap) : WritesDomain [] gap
  | one (d : DomainToken) {before after : Text} (blankBefore : Text.IsGap before)
      (blankAfter : Text.IsGap after) : WritesDomain [d] (before ++ (d.text ++ after))

/-- The text writes some domains with separators between them. -/
inductive WritesDomains : List DomainToken → Text → Prop
  | last {ds : List DomainToken} {t : Text} (writes : WritesDomain ds t) : WritesDomains ds t
  | cons {ds more : List DomainToken} {t u : Text} {c : Char} (writes : WritesDomain ds t)
      (separates : Scope.isSeparator c = true) (writesMore : WritesDomains more u) :
      WritesDomains (ds ++ more) (t ++ c :: u)

/-! ### Reading -/

namespace Scope

/-- The scope of one domain, by any conversion to ASCII. -/
def ofTokenBy (convert : Text → Option Text) : Text → Scope
  | [] => {}
  | '~' :: [] => {}
  | '~' :: domain => { restricted := [Domain.normalizeBy convert domain] }
  | domain => { permitted := [Domain.normalizeBy convert domain] }

/-- Read a list of domains, by any conversion to ASCII. -/
def readBy (convert : Text → Option Text) (t : Text) : Scope :=
  ((tokens t).map (ofTokenBy convert)).foldl append {}

theorem readBy_toAscii? [Externals] : readBy Externals.toAscii? = read := rfl

/-- The domains of a list in lower case and ASCII, the restricted ones apart. -/
def ofTokens (convert : Text → Option Text) (ds : List DomainToken) : Scope :=
  ⟨(ds.filter (!·.isRestricted)).map fun d => Domain.normalizeBy convert d.domain,
    (ds.filter (·.isRestricted)).map fun d => Domain.normalizeBy convert d.domain⟩

variable {convert : Text → Option Text}

theorem ofTokens_append (ds es : List DomainToken) :
    ofTokens convert (ds ++ es) = (ofTokens convert ds).append (ofTokens convert es) := by
  simp [ofTokens, append]

theorem foldl_append (scopes : List Scope) (s : Scope) :
    scopes.foldl append s = s.append (scopes.foldl append {}) := by
  induction scopes generalizing s with
  | nil => simp [append]
  | cons t scopes ih =>
    rw [List.foldl_cons, List.foldl_cons, ih, ih (append {} t)]
    simp [append]

/-- Lists are split at a separator. -/
theorem tokens_append {c : Char} (hc : isSeparator c = true) (s t : Text) :
    tokens (s ++ c :: t) = tokens s ++ tokens t := by
  have hsplit := List.splitOnP_append_cons s t hc
  unfold isSeparator at hsplit
  rw [tokens, hsplit, List.map_append, List.filter_append]
  rfl

theorem readBy_append {c : Char} (hc : isSeparator c = true) (s t : Text) :
    readBy convert (s ++ c :: t) = (readBy convert s).append (readBy convert t) := by
  rw [readBy, tokens_append hc, List.map_append, List.foldl_append, foldl_append]
  rfl

/-- A text without separators is one domain, or none if it is blank. -/
theorem tokens_of_unseparated {t : Text} (h : ∀ c ∈ t, isSeparator c = false) :
    tokens t = if Text.trim t = [] then [] else [Text.trim t] := by
  have hsplit := List.splitOnP_eq_singleton h
  unfold isSeparator at hsplit
  rw [tokens, hsplit, List.map_singleton]
  rcases Text.trim t with _ | ⟨c, u⟩
  · rfl
  · rfl

theorem isSeparator_of_isBlank {c : Char} (h : Text.isBlank c = true) : isSeparator c = false := by
  have hcomma : c ≠ ',' := by
    rintro rfl
    cases h
  have hbar : c ≠ '|' := by
    rintro rfl
    cases h
  simp [isSeparator, hcomma, hbar]

end Scope

namespace DomainToken

theorem text_ne_nil (d : DomainToken) : d.text ≠ [] := by
  unfold text Scope.signed
  split
  · exact List.cons_ne_nil _ _
  · exact d.ne_nil

theorem isSeparator_of_mem_text (d : DomainToken) {c : Char} (hc : c ∈ d.text) :
    Scope.isSeparator c = false := by
  unfold text Scope.signed at hc
  split at hc
  · rcases List.mem_cons.1 hc with rfl | hc
    · rfl
    · exact d.unseparated c hc
  · exact d.unseparated c hc

/-- The tilde alone tells restricted domains from others. -/
theorem ofTokenBy_text (convert : Text → Option Text) (d : DomainToken) :
    Scope.ofTokenBy convert d.text = Scope.ofTokens convert [d] := by
  obtain ⟨isRestricted, domain, hne, -, -, hunsigned⟩ := d
  obtain ⟨c, rest, rfl⟩ := List.exists_cons_of_ne_nil hne
  cases isRestricted with
  | true => rfl
  | false =>
    have hc : c ≠ '~' := fun hc => hunsigned rfl (congrArg some hc)
    simp [text, Scope.signed, Scope.ofTokenBy, Scope.ofTokens, hc]

end DomainToken

theorem WritesDomain.readBy_eq {ds : List DomainToken} {t : Text} (h : WritesDomain ds t)
    (convert : Text → Option Text) : Scope.readBy convert t = Scope.ofTokens convert ds := by
  cases h with
  | none blank =>
    have hunseparated : ∀ c ∈ t, Scope.isSeparator c = false :=
      fun c hc => Scope.isSeparator_of_isBlank (blank c hc)
    rw [Scope.readBy, Scope.tokens_of_unseparated hunseparated,
      if_pos (Text.trim_eq_nil_iff.2 blank)]
    rfl
  | @one d before after blankBefore blankAfter =>
    have hunseparated : ∀ c ∈ before ++ (d.text ++ after), Scope.isSeparator c = false := by
      intro c hc
      rcases List.mem_append.1 hc with hc | hc
      · exact Scope.isSeparator_of_isBlank (blankBefore c hc)
      · rcases List.mem_append.1 hc with hc | hc
        · exact d.isSeparator_of_mem_text hc
        · exact Scope.isSeparator_of_isBlank (blankAfter c hc)
    have htrim : Text.trim (before ++ (d.text ++ after)) = d.text :=
      (Text.trim_between_gaps blankBefore blankAfter d.text).trans d.trimmed
    rw [Scope.readBy, Scope.tokens_of_unseparated hunseparated, htrim, if_neg d.text_ne_nil,
      ← d.ofTokenBy_text]
    simp [Scope.append]

/-- The domains of a list are read in the order they are written. -/
theorem WritesDomains.readBy_eq {ds : List DomainToken} {t : Text} (h : WritesDomains ds t)
    (convert : Text → Option Text) : Scope.readBy convert t = Scope.ofTokens convert ds := by
  induction h with
  | last writes => exact writes.readBy_eq convert
  | cons writes separates _ ih =>
    rw [Scope.readBy_append separates, writes.readBy_eq, ih, Scope.ofTokens_append]

end ContentBlocker
