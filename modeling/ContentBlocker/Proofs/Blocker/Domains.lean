import ContentBlocker.Proofs.Blocker.Emission
import ContentBlocker.Proofs.Filter.Scopes
import ContentBlocker.Proofs.Text.Searching

/-!
# The domains in the triggers of rules

Rules of all kinds write their domains in the same way.

* `Domain.written` is what one domain is written as, and `Domain.triggerList` what a list of them;
* `DomainLists.write_ofScope` says this of the lists of a scope;
* `Rule.emit_write` finds these lists in the trigger of a rule of any kind;
* `WritesDomains.emit_domains` starts from the written list of domains.
-/

namespace ContentBlocker

/-! ### Lists of domains -/

namespace Domain

/-- What one domain is written as: a wildcard at its end stands for the popular top-level domains,
in the order of their table, and a wildcard stands in front. -/
def written (domain : Text) : List Text :=
  if wildcardEnd <:+ domain then
    topLevels.map fun level => Trigger.addWildcard (domain.dropLast ++ level.toList)
  else [Trigger.addWildcard domain]

/-- What a list of domains is written as: from the last domain to the first, or not at all if there
is none. -/
def triggerList (domains : List Text) : Option (List Text) :=
  if domains = [] then none else some (domains.reverse.flatMap written)

theorem length_topLevels : topLevels.length = 100 := rfl

theorem map_addWildcard_expand (domain : Text) :
    (expand domain).map Trigger.addWildcard = written domain := by
  unfold expand written
  rcases hstrip : Text.stripEnd? wildcardEnd domain with _ | name
  · rw [if_neg]
    · rfl
    · rintro ⟨name, rfl⟩
      simp at hstrip
  · have hname := Text.eq_append_of_stripEnd? hstrip
    have hdrop : domain.dropLast = name ++ ['.'] := by
      rw [hname]
      exact List.dropLast_append_of_ne_nil (List.cons_ne_nil _ _)
    rw [if_pos ⟨name, hname.symm⟩, List.map_map, hdrop]
    simp

theorem expand_ne_nil (domain : Text) : expand domain ≠ [] := by
  unfold expand
  split
  · exact List.cons_ne_nil _ _
  · exact List.cons_ne_nil _ _

theorem expandAll_eq_nil_iff {domains : List Text} : expandAll domains = [] ↔ domains = [] := by
  cases domains with
  | nil => simp [expandAll]
  | cons domain domains => simp [expandAll, expand_ne_nil]

end Domain

/-! ### Writing a scope -/

namespace DomainLists

theorem isMixed_ofScope {s : Scope} :
    (ofScope s).isMixed = true ↔ s.permitted ≠ [] ∧ s.restricted ≠ [] := by
  simp [isMixed, ofScope, Domain.expandAll_eq_nil_iff]

/-- A list is written from its end, every domain in its turn. -/
theorem present_expandAll (domains : List Text) :
    (present (Domain.expandAll domains.reverse)).map (·.map Trigger.addWildcard) =
      Domain.triggerList domains := by
  unfold present Domain.triggerList
  by_cases h : domains = []
  · rw [h]
    rfl
  · rw [if_neg h, if_neg (by simpa [Domain.expandAll_eq_nil_iff] using h), Option.map_some,
      Domain.expandAll, List.map_flatMap]
    simp only [Domain.map_addWildcard_expand]

/-- Whatever trigger the lists of a scope are written to, these are its domains then. -/
theorem write_ofScope {s : Scope} {t t' : Trigger} (h : (ofScope s).write t = .ok t') :
    (ofScope s).isMixed = false ∧
      t'.withWildcards.ifDomain = Domain.triggerList s.permitted ∧
      t'.withWildcards.unlessDomain = Domain.triggerList s.restricted := by
  unfold write at h
  split_ifs at h with hmixed
  cases h
  exact ⟨by simpa using hmixed, present_expandAll s.permitted, present_expandAll s.restricted⟩

end DomainLists

/-! ### Rules of all kinds -/

theorem UrlRule.pageDomain_of_not_isPageException [Externals] {r : UrlRule}
    (h : r.isPageException = false) : r.pageDomain.2 = none := by
  rw [pageDomain, if_pos (by simp [h])]

/-- The trigger of a rule has the lists of its scope, if it is no exception for pages, which takes
the domain of its pattern instead. -/
theorem Rule.emit_write [Externals] {r : Rule} {b : BlockerRule} (h : r.emit.2 = .ok b)
    (hpage : ∀ u, r = .url u → u.isPageException = false) :
    ∃ t, (DomainLists.ofScope r.head.scope).write t = .ok b.trigger := by
  cases r with
  | css r => exact ⟨_, (CssRule.emit_ok h).1⟩
  | script r => exact ⟨_, (ScriptRule.emit_ok h).1⟩
  | scriptlet r => exact ⟨_, (ScriptletRule.emit_ok h).1⟩
  | url r =>
    obtain ⟨types, -, htrigger, -, -⟩ := UrlRule.emit_ok h
    rw [UrlRule.pageDomain_of_not_isPageException (hpage r rfl)] at htrigger
    exact ⟨_, htrigger⟩

/-- No rule is converted that is limited to domains and not for others, not even an exception for
pages. -/
theorem Rule.isMixed_of_emit_ok [Externals] {r : Rule} {b : BlockerRule} (h : r.emit.2 = .ok b) :
    (DomainLists.ofScope r.head.scope).isMixed = false := by
  cases r with
  | css r => exact (DomainLists.write_ofScope (CssRule.emit_ok h).1).1
  | script r => exact (DomainLists.write_ofScope (ScriptRule.emit_ok h).1).1
  | scriptlet r => exact (DomainLists.write_ofScope (ScriptletRule.emit_ok h).1).1
  | url r =>
    obtain ⟨types, hchecked, -⟩ := UrlRule.emit_ok h
    exact (UrlRule.checkedTypes_ok hchecked).2.2.2

/-- **The domains of a written list are those of the trigger** of every rule with this list, in lower
case and ASCII, in the opposite order and with their wildcards. -/
theorem WritesDomains.emit_domains [Externals] {ds : List DomainToken} {t : Text}
    (h : WritesDomains ds t) (convert : Text → Option Text) :
    Scope.readBy Externals.toAscii? t = Scope.read t ∧
      Scope.readBy convert t = Scope.ofTokens convert ds ∧
      Domain.topLevels.length = 100 ∧
      ∀ r : Rule, r.head.scope = Scope.readBy convert t →
        (∀ b, r.emit.2 = .ok b → (∀ u, r = .url u → u.isPageException = false) →
          b.withWildcards.trigger.ifDomain =
              Domain.triggerList (Scope.ofTokens convert ds).permitted ∧
            b.withWildcards.trigger.unlessDomain =
              Domain.triggerList (Scope.ofTokens convert ds).restricted) ∧
        ((∃ d ∈ ds, d.isRestricted = false) → (∃ d ∈ ds, d.isRestricted = true) →
          ∀ b, r.emit.2 ≠ .ok b) := by
  have hread := h.readBy_eq convert
  refine ⟨by rw [Scope.readBy_toAscii?], hread, Domain.length_topLevels, fun r hscope => ⟨?_, ?_⟩⟩
  · intro b hb hpage
    obtain ⟨trigger, hwrite⟩ := Rule.emit_write hb hpage
    have hlists := (DomainLists.write_ofScope hwrite).2
    rwa [hscope, hread] at hlists
  · rintro ⟨d, hd, hpermitted⟩ ⟨e, he, hrestricted⟩ b hb
    have hmixed := Rule.isMixed_of_emit_ok hb
    rw [Bool.eq_false_iff, Ne, DomainLists.isMixed_ofScope, hscope, hread] at hmixed
    refine hmixed ⟨?_, ?_⟩
    · refine List.ne_nil_of_mem (List.mem_map_of_mem (List.mem_filter.2 ⟨hd, ?_⟩))
      rw [hpermitted]
      rfl
    · exact List.ne_nil_of_mem (List.mem_map_of_mem (List.mem_filter.2 ⟨he, hrestricted⟩))

section Example

/-- A domain for all popular top-level domains. -/
def wildcardToken : DomainToken where
  isRestricted := false
  domain := ['a', '.', '*']
  ne_nil := List.cons_ne_nil _ _
  trimmed := by decide
  unseparated := by simp [Scope.isSeparator]
  unsigned := by decide

/-- A domain with a capital letter. -/
def permittedToken : DomainToken where
  isRestricted := false
  domain := ['B', '.', 'e', 'x']
  ne_nil := List.cons_ne_nil _ _
  trimmed := by decide
  unseparated := by simp [Scope.isSeparator]
  unsigned := by decide

/-- A domain that a rule does not apply to. -/
def restrictedToken : DomainToken where
  isRestricted := true
  domain := ['c', '.', 'e', 'x']
  ne_nil := List.cons_ne_nil _ _
  trimmed := by decide
  unseparated := by simp [Scope.isSeparator]
  unsigned := nofun

theorem isGap_nil : Text.IsGap [] := nofun

theorem isGap_space : Text.IsGap [' '] := by
  intro c hc
  obtain rfl := List.mem_singleton.1 hc
  rfl

theorem writesDomains_cons_cons {ds : List DomainToken} {t : Text} (h : WritesDomains ds t) :
    WritesDomains (wildcardToken :: permittedToken :: ds) (" a.*,B.ex |".toList ++ t) :=
  .cons (.one wildcardToken isGap_space isGap_nil) (by decide +kernel)
    (.cons (.one permittedToken isGap_nil isGap_space) (by decide +kernel) h)

/-- A script for the domains of a list. -/
def scriptFor (domains : Text) : Rule :=
  .script ⟨{ text := [], scope := Scope.read domains, isException := false }, "log()"⟩

theorem WritesDomains.emit_domains_script :
    (∃ b, (scriptFor " a.*,B.ex |,").emit.2 = .ok b ∧
      b.withWildcards.trigger.ifDomain =
        some ("*b.ex".toList :: Domain.topLevels.map fun level => "*a.".toList ++ level.toList) ∧
      b.withWildcards.trigger.unlessDomain = none) ∧
    ∀ b, (scriptFor " a.*,B.ex | ~c.ex").emit.2 ≠ .ok b := by
  constructor
  · have hwrites : WritesDomains [wildcardToken, permittedToken] " a.*,B.ex |,".toList :=
      writesDomains_cons_cons (t := [','])
        (.cons (.none isGap_nil) (by decide +kernel) (.last (.none isGap_nil)))
    have hok : (scriptFor " a.*,B.ex |,").emit.2.isOk = true := by decide +kernel
    rcases hb : (scriptFor " a.*,B.ex |,").emit.2 with e | b
    · rw [hb] at hok
      cases hok
    · refine ⟨b, rfl, ?_⟩
      have hlists := ((WritesDomains.emit_domains hwrites Externals.toAscii?).2.2.2
        (scriptFor " a.*,B.ex |,") rfl).1 b hb fun u hu => by cases hu
      rw [hlists.1, hlists.2]
      decide +kernel
  · have hwrites : WritesDomains [wildcardToken, permittedToken, restrictedToken]
        " a.*,B.ex | ~c.ex".toList :=
      writesDomains_cons_cons (.last (.one restrictedToken isGap_space isGap_nil))
    exact ((WritesDomains.emit_domains hwrites Externals.toAscii?).2.2.2
      (scriptFor " a.*,B.ex | ~c.ex") rfl).2
      ⟨wildcardToken, by simp, rfl⟩ ⟨restrictedToken, by simp, rfl⟩

end Example

end ContentBlocker
