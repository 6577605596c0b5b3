import ContentBlocker.Proofs.Blocker.Emission
import ContentBlocker.Proofs.Filter.Origins

/-!
# Resource types of converted rules

A network rule is for content types, and its trigger names the resource types that stand for them.
A trigger that names no resource type is for all of them.

* `Trigger.admits`: the resource types that a trigger is for;
* `UrlRule.isForLoads`: the rules whose trigger depends on their content types;
* `UrlRule.OnlyUnsupported`: the rules for content types that no resource type stands for;
* `UrlRule.emit_admits_iff`: the trigger of a rule for loads admits the resource types of its content
  types; it admits all of them if the rule is only for content types without a resource type.
-/

namespace ContentBlocker

/-- The trigger is for a resource type: it names this one, or none at all. -/
def Trigger.admits (t : Trigger) (type : ResourceType) : Bool :=
  t.resourceType.all (·.contains type)

namespace UrlRule

/-! ### Content types and resource types -/

/-- The rule is only for content types that no resource type stands for. -/
def OnlyUnsupported (r : UrlRule) : Prop :=
  ∀ t, r.admits t = true → t ∈ unsupportedTypes.map Prod.fst

/-- Every content type that is not unsupported belongs to a resource type, and no other does. -/
theorem mem_group_iff (t : ContentType) :
    (∃ g ∈ resourceGroups, t ∈ g.1) ↔ t ∉ unsupportedTypes.map Prod.fst := by
  cases t <;> decide

/-- Two groups of content types have different resource types. -/
theorem group_inj : ∀ g ∈ resourceGroups, ∀ g' ∈ resourceGroups, g.2 = g'.2 → g = g' := by decide

theorem group_ne_nil : ∀ g ∈ resourceGroups, g.1 ≠ [] := by decide

theorem onlyUnsupported_iff {r : UrlRule} :
    r.OnlyUnsupported ↔ ∀ g ∈ resourceGroups, ¬∃ t ∈ g.1, r.admits t = true := by
  constructor
  · rintro h g hg ⟨t, ht, hr⟩
    exact (mem_group_iff t).1 ⟨g, hg, ht⟩ (h t hr)
  · intro h t hr
    by_contra hu
    obtain ⟨g, hg, ht⟩ := (mem_group_iff t).2 hu
    exact h g hg ⟨t, ht, hr⟩

/-- A rule that names no content type is for all of them. -/
theorem admits_of_all {r : UrlRule} (hp : r.permittedTypes = TypeSet.all)
    (hr : r.restrictedTypes = TypeSet.empty) (t : ContentType) : r.admits t = true := by
  rw [admits, hp, hr]
  cases t <;> rfl

/-! ### Resource types of a rule -/

/-- The resource types that stand for some content type that the rule is for. -/
def namedTypes (r : UrlRule) : List ResourceType :=
  (resourceGroups.filter fun g => g.1.any r.admits).map (·.2)

theorem mem_namedTypes {r : UrlRule} {g : List ContentType × ResourceType}
    (hg : g ∈ resourceGroups) : g.2 ∈ r.namedTypes ↔ ∃ t ∈ g.1, r.admits t = true := by
  simp only [namedTypes, List.mem_map, List.mem_filter, List.any_eq_true]
  constructor
  · rintro ⟨g', ⟨hg', ht⟩, he⟩
    rwa [← group_inj g' hg' g hg he]
  · intro ht
    exact ⟨g, ⟨hg, ht⟩, rfl⟩

theorem namedTypes_eq_nil_iff {r : UrlRule} : r.namedTypes = [] ↔ r.OnlyUnsupported := by
  simp [namedTypes, onlyUnsupported_iff]

/-- The resource types of a rule that does not close windows.  The list is absent in two cases: the
rule names no content type, and no resource type stands for those that it is for. -/
theorem resourceTypes_ok {r : UrlRule} {types : Option (List ResourceType)}
    (h : r.resourceTypes = .ok types) (hp : r.blocksPopups = false) :
    (r.permittedTypes = TypeSet.all ∧ r.restrictedTypes = TypeSet.empty) ∧ types = none ∨
      r.namedTypes = [] ∧ types = none ∨ r.namedTypes ≠ [] ∧ types = some r.namedTypes := by
  unfold resourceTypes at h
  split at h
  · next ha =>
    cases h
    exact .inl ⟨ha, rfl⟩
  · split at h
    · cases h
    · rw [hp] at h
      change Except.ok (if r.namedTypes.isEmpty then none else some r.namedTypes) = _ at h
      cases h
      right
      by_cases hn : r.namedTypes = []
      · exact .inl ⟨hn, by simp [hn]⟩
      · exact .inr ⟨hn, by simp [hn]⟩

/-! ### The trigger of a rule for loads -/

/-- The rule is not bound to the pages of a domain, does not close windows, and is no exception for
whole documents. -/
def isForLoads [Externals] (r : UrlRule) : Bool :=
  r.pageDomain.2.isNone && !r.blocksPopups && !(r.isException && r.isDocumentException)

/-- The trigger of a rule for loads names the resource types of the rule. -/
theorem emit_resourceTypes [Externals] {r : UrlRule} {b : BlockerRule} (h : r.emit.2 = .ok b)
    (hl : r.isForLoads = true) : r.resourceTypes = .ok b.trigger.resourceType := by
  simp only [isForLoads, Bool.and_eq_true, Bool.not_eq_true', Option.isNone_iff_eq_none] at hl
  obtain ⟨⟨hd, -⟩, hx⟩ := hl
  obtain ⟨types, hc, ht, -, -⟩ := emit_ok h
  obtain ⟨-, -, hr, -⟩ := checkedTypes_ok hc
  rw [hr]
  rw [hd] at ht
  simp only [trigger, DomainLists.write] at ht
  split at ht
  · cases ht
  · injection ht with ht
    rw [← ht]
    simp [requestTrigger, hx]

/-- **The trigger of a rule for loads admits a resource type exactly if the rule is for some content
type that it stands for, unless the rule is only for content types that no resource type stands
for: then it admits all of them.**  So the resource types are absent only if each of them is
admitted, or if none should be. -/
theorem emit_admits_iff [Externals] {r : UrlRule} {b : BlockerRule} (h : r.emit.2 = .ok b)
    (hl : r.isForLoads = true) :
    (∀ g ∈ resourceGroups,
      b.trigger.admits g.2 = true ↔ (∃ t ∈ g.1, r.admits t = true) ∨ r.OnlyUnsupported) ∧
    (b.trigger.resourceType = none →
      (∀ g ∈ resourceGroups, ∃ t ∈ g.1, r.admits t = true) ∨ r.OnlyUnsupported) := by
  have hp : r.blocksPopups = false := by
    simp only [isForLoads, Bool.and_eq_true, Bool.not_eq_true'] at hl
    exact hl.1.2
  have hadmits : ∀ g ∈ resourceGroups,
      b.trigger.admits g.2 = true ↔ (∃ t ∈ g.1, r.admits t = true) ∨ r.OnlyUnsupported := by
    intro g hg
    rcases resourceTypes_ok (emit_resourceTypes h hl) hp with ⟨⟨ha, hr⟩, ht⟩ | ⟨hn, ht⟩ | ⟨hn, ht⟩
    · -- no content type is named: all are admitted, and every group has one
      obtain ⟨t, htg⟩ := List.exists_mem_of_ne_nil g.1 (group_ne_nil g hg)
      simp only [Trigger.admits, ht, Option.all_none, true_iff]
      exact .inl ⟨t, htg, admits_of_all ha hr t⟩
    · simp only [Trigger.admits, ht, Option.all_none, true_iff]
      exact .inr (namedTypes_eq_nil_iff.1 hn)
    · have hu : ¬r.OnlyUnsupported := fun hu => hn (namedTypes_eq_nil_iff.2 hu)
      rw [or_iff_left hu, ← mem_namedTypes hg]
      simp [Trigger.admits, ht]
  refine ⟨hadmits, fun ht => ?_⟩
  by_cases hu : r.OnlyUnsupported
  · exact .inr hu
  · exact .inl fun g hg => ((hadmits g hg).1 (by simp [Trigger.admits, ht])).resolve_right hu

/-- A list of content types without a script. -/
theorem emit_admits_iff_notScript :
    ∃ r b, UrlRule.read "||example.org^$~script,third-party" = .ok r ∧ r.emit.2 = .ok b ∧
      r.isForLoads = true ∧ ¬r.OnlyUnsupported ∧ b.trigger.admits .script = false ∧
      (b.trigger.admits .raw = true ↔
        (∃ t ∈ [ContentType.xmlHttpRequest, .other, .webSocket], r.admits t = true) ∨
          r.OnlyUnsupported) := by
  have hread : ∃ r ∈ (UrlRule.read "||example.org^$~script,third-party").toOption,
      ∃ b ∈ r.emit.2.toOption, r.isForLoads = true ∧ r.admits .image = true ∧
        b.trigger.admits .script = false := by decide +kernel
  obtain ⟨r, hr, b, hb, hl, hi, hs⟩ := hread
  have hr := eq_ok_of_mem_toOption hr
  have hb := eq_ok_of_mem_toOption hb
  have hu : ¬r.OnlyUnsupported := fun hu => absurd (hu _ hi) (by decide)
  exact ⟨r, b, hr, hb, hl, hu, hs, (emit_admits_iff hb hl).1 (_, .raw) (by decide)⟩

/-- Two content types that each alone would be refused make a rule for all resource types: its
trigger admits images, which it is not for. -/
theorem emit_admits_image_of_unsupported :
    ∃ r b, UrlRule.read "||example.org^$object,webrtc" = .ok r ∧ r.emit.2 = .ok b ∧
      r.isForLoads = true ∧ ([.image], .image) ∈ resourceGroups ∧
      b.trigger.resourceType = none ∧ b.trigger.admits .image = true ∧
      ¬∃ t ∈ [ContentType.image], r.admits t = true := by
  have hread : ∃ r ∈ (UrlRule.read "||example.org^$object,webrtc").toOption,
      ∃ b ∈ r.emit.2.toOption, r.isForLoads = true ∧ ([.image], .image) ∈ resourceGroups ∧
        b.trigger.resourceType = none ∧ b.trigger.admits .image = true ∧
        ¬∃ t ∈ [ContentType.image], r.admits t = true := by decide +kernel
  obtain ⟨r, hr, b, hb, h⟩ := hread
  exact ⟨r, b, eq_ok_of_mem_toOption hr, eq_ok_of_mem_toOption hb, h⟩

end UrlRule
end ContentBlocker
