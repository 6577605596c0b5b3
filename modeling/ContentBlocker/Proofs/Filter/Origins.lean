import ContentBlocker.Filter.Line
import Mathlib.Tactic

/-!
# Where the rules of lines come from

Whatever a line stands for, its rules were read one by one from texts in the common form.

* `map_eq_ok_iff` and `bind_eq_ok_iff` take chains of readers apart;
* `Rule.IsRead` says that a rule was read, and perhaps got the number of its filter list then;
* `Rule.readAll_isRead`, `FilterRule.read_isRead` and `FilterRule.readLine_isRead` say it of the
  rules of a line.
-/

namespace ContentBlocker

/-! ### Chains of readers -/

theorem eq_ok_of_mem_toOption {ε α : Type} {x : Except ε α} {a : α} (h : a ∈ x.toOption) :
    x = .ok a := by
  cases x with
  | error e => cases h
  | ok a' =>
    cases h
    rfl

theorem map_eq_ok_iff {ε α β : Type} {f : α → β} {x : Except ε α} {b : β} :
    x.map f = .ok b ↔ ∃ a, x = .ok a ∧ f a = b := by
  cases x <;> simp [Except.map]

theorem bind_eq_ok_iff {ε α β : Type} {f : α → Except ε β} {x : Except ε α} {b : β} :
    x >>= f = .ok b ↔ ∃ a, x = .ok a ∧ f a = .ok b := by
  cases x <;> simp [bind, Except.bind]

/-! ### Rules in the common form -/

namespace Rule

variable [Externals]

/-- The rule is what reading some text in the common form gives, perhaps with the number of its
filter list. -/
def IsRead (r : Rule) : Prop :=
  ∃ (text : Text) (r' : Rule), Rule.read text = .ok (some r') ∧
    (r = r' ∨ ∃ id, r = r'.withFilterId id)

theorem isRead_of_read {text : Text} {r : Rule} (h : Rule.read text = .ok (some r)) : r.IsRead :=
  ⟨text, r, h, .inl rfl⟩

omit [Externals] in
theorem withFilterId_withFilterId (r : Rule) (id id' : Int) :
    (r.withFilterId id).withFilterId id' = r.withFilterId id' := by
  cases r <;> rfl

theorem IsRead.withFilterId {r : Rule} (h : r.IsRead) (id : Int) : (r.withFilterId id).IsRead := by
  obtain ⟨text, r', hread, rfl | ⟨id', rfl⟩⟩ := h
  · exact ⟨text, r, hread, .inr ⟨id, rfl⟩⟩
  · exact ⟨text, r', hread, .inr ⟨id, withFilterId_withFilterId r' id' id⟩⟩

theorem readAll_isRead {texts : List Text} {rs : List Rule} (h : readAll texts = .ok rs) :
    ∀ r ∈ rs, r.IsRead := by
  induction texts generalizing rs with
  | nil =>
    cases h
    simp
  | cons t ts ih =>
    rw [readAll, bind_eq_ok_iff] at h
    obtain ⟨first, ht, h⟩ := h
    obtain ⟨rest, hts, h⟩ := bind_eq_ok_iff.1 h
    cases h
    rw [List.forall_mem_append]
    refine ⟨fun r hr => ?_, ih hts⟩
    cases Option.mem_toList.1 hr
    exact isRead_of_read ht

end Rule

/-! ### Lines -/

namespace FilterRule

theorem parts_ofParts {text : Text} {rs : List Rule} {line : FilterRule}
    (h : ofParts text rs = some line) : line.parts = rs := by
  match rs, h with
  | [_], rfl => rfl
  | _ :: _ :: _, rfl => rfl

theorem parts_withFilterId (line : FilterRule) (id : Int) :
    (line.withFilterId id).parts = line.parts.map (Rule.withFilterId id) := by
  cases line <;> rfl

variable [Externals]

theorem read_isRead {text : Text} {line : FilterRule} (h : read text = .ok (some line)) :
    ∀ r ∈ line.parts, r.IsRead := by
  unfold FilterRule.read at h
  dsimp only at h
  split at h
  · cases h
  · obtain ⟨rs, hrs, hline⟩ := map_eq_ok_iff.1 h
    rw [parts_ofParts hline]
    exact Rule.readAll_isRead hrs

theorem readLine_isRead {text : Text} {line : FilterRule} (h : readLine text = .ok (some line)) :
    ∀ r ∈ line.parts, r.IsRead := by
  unfold readLine at h
  split at h
  · cases h
  · split at h
    · cases h
    · exact read_isRead h

end FilterRule
end ContentBlocker
