import ContentBlocker.Conversion.Exceptions
import Mathlib.Tactic

/-!
# What exceptions make of rules

Exceptions are applied in turn, each to all rules of a group in their places.  Seen from one rule,
the domains of the exceptions with its payload are excluded in turn, as far as they concern it.

* `PayloadGroups.places?_ofRules`: a group holds the places of the rules with a payload;
* `Exceptions.excepted`: what some exceptions make of one rule, told from this rule alone;
* `Exceptions.step_afterwards` and `Exceptions.foldl_step`: what one exception and what all of them
  make of a list of rules;
* `Exceptions.apply_excepted`: moving the domains of exceptions makes this of every rule, and
  drops the rules that are left with both lists.
-/

namespace ContentBlocker

/-! ### Groups -/

namespace PayloadGroups

/-- The rule has the payload. -/
def hasPayload (key : ExceptionKey) (payload : Text) (r : BlockerRule) : Bool :=
  key.payload? r.action = some payload

theorem hasPayload_iff {key : ExceptionKey} {payload : Text} {r : BlockerRule} :
    hasPayload key payload r = true ↔ key.payload? r.action = some payload := by
  simp [hasPayload]

theorem places?_cons (p q : Text) (places : List ℕ) (gs : PayloadGroups) :
    places? ((p, places) :: gs) q = if p = q then some places else gs.places? q := by
  rw [places?, List.lookup_cons]
  by_cases h : p = q
  · simp [h]
  · rw [beq_eq_false_iff_ne.2 (Ne.symm h), if_neg h]
    rfl

theorem places?_add (gs : PayloadGroups) (p q : Text) (i : ℕ) :
    (gs.add p i).places? q =
      if p = q then some ((gs.places? q).getD [] ++ [i]) else gs.places? q := by
  induction gs with
  | nil => exact places?_cons p q [i] []
  | cons g gs ih =>
    obtain ⟨p', places⟩ := g
    rw [add]
    split
    · next h =>
      subst h
      simp only [places?_cons]
      split <;> rfl
    · next h =>
      simp only [places?_cons, ih]
      split
      · next hq => simp [← hq, Ne.symm h]
      · rfl

/-- Some rules in turn add their places to the groups that are there. -/
theorem places?_foldl (key : ExceptionKey) (q : Text) (rules : List BlockerRule) (n : ℕ)
    (gs : PayloadGroups) :
    ((rules.zipIdx n).foldl (addRule key) gs).places? q =
      if rules.findIdxs (hasPayload key q) n = [] then gs.places? q
      else some ((gs.places? q).getD [] ++ rules.findIdxs (hasPayload key q) n) := by
  induction rules generalizing n gs with
  | nil => simp
  | cons r rs ih =>
    rw [List.zipIdx_cons, List.foldl_cons, ih, List.findIdxs_cons]
    cases hr : key.payload? r.action with
    | none =>
      have hq : hasPayload key q r = false := by simp [hasPayload, hr]
      simp [addRule, hr, hq]
    | some p =>
      by_cases h : p = q
      · subst h
        have hq : hasPayload key p r = true := hasPayload_iff.2 hr
        simp only [addRule, hr, places?_add, hq, if_true, List.cons_ne_nil, if_false]
        split
        · next hnil => rw [hnil]
        · simp
      · have hq : hasPayload key q r = false := by simp [hasPayload, hr, h]
        simp [addRule, hr, places?_add, hq, h]

/-- The group of a payload are the places of the rules that have it. -/
theorem places?_ofRules (key : ExceptionKey) (q : Text) (rules : List BlockerRule) :
    (ofRules key rules).places? q =
      if rules.findIdxs (hasPayload key q) = [] then none
      else some (rules.findIdxs (hasPayload key q)) := by
  rw [ofRules, places?_foldl]
  rfl

end PayloadGroups

/-! ### Places -/

/-- A change made in some places in turn is made in each of them. -/
theorem toList_foldl_modify {α : Type} (f : α → α) {places : List ℕ} (h : places.Nodup)
    (xs : Array α) :
    (places.foldl (fun ys i => ys.modify i f) xs).toList =
      xs.toList.mapIdx fun i x => if i ∈ places then f x else x := by
  induction places generalizing xs with
  | nil =>
    apply List.ext_getElem?
    intro j
    rw [List.getElem?_mapIdx]
    cases hj : xs.toList[j]? <;> simpa using hj
  | cons i is ih =>
    obtain ⟨hi, his⟩ := List.nodup_cons.1 h
    rw [List.foldl_cons, ih his, Array.toList_modify]
    apply List.ext_getElem?
    intro j
    rw [List.getElem?_mapIdx, List.getElem?_mapIdx, List.getElem?_modify]
    cases xs.toList[j]? with
    | none => rfl
    | some x =>
      by_cases hj : i = j
      · subst hj
        simp [hi]
      · simp [hj, Ne.symm hj]

/-- A change made in the places of the members with a property is made of each of them. -/
theorem toList_foldl_modify_findIdxs {α : Type} (f : α → α) (p : α → Bool) (xs : Array α) :
    ((xs.toList.findIdxs p).foldl (fun ys i => ys.modify i f) xs).toList =
      xs.toList.map fun x => if p x then f x else x := by
  rw [toList_foldl_modify f List.nodup_findIdxs]
  apply List.ext_getElem
  · simp
  · intro i _ h
    have hi : i < xs.toList.length := by simpa using h
    simp only [List.getElem_mapIdx, List.getElem_map, List.mem_findIdxs_iff_pos_getElem hi]

/-! ### Domains -/

namespace Trigger

/-- A trigger with some more excluded domains.  Without any, its list stays absent. -/
def withExcluded (t : Trigger) (domains : List Text) : Trigger :=
  if domains = [] then t else { t with unlessDomain := some (t.unlessDomains ++ domains) }

@[simp] theorem withExcluded_nil (t : Trigger) : t.withExcluded [] = t := rfl

@[simp] theorem ifDomain_withExcluded (t : Trigger) (domains : List Text) :
    (t.withExcluded domains).ifDomain = t.ifDomain := by
  unfold withExcluded
  split <;> rfl

@[simp] theorem concerns_withExcluded (t : Trigger) (domains : List Text) :
    (t.withExcluded domains).concerns = t.concerns := by
  funext d
  simp [concerns, ifDomains]

theorem withExcluded_append (t : Trigger) (ds es : List Text) :
    t.withExcluded (ds ++ es) = (t.withExcluded ds).withExcluded es := by
  by_cases hd : ds = []
  · simp [hd]
  · by_cases he : es = []
    · simp [he]
    · simp [withExcluded, unlessDomains, hd, he]

theorem exclude_eq (t : Trigger) (d : Text) :
    t.exclude d = t.withExcluded ([d].filter t.concerns) := by
  unfold exclude
  split <;> simp [withExcluded, *]

/-- Domains are excluded in turn, as far as they concern the rule. -/
theorem foldl_exclude (t : Trigger) (domains : List Text) :
    domains.foldl exclude t = t.withExcluded (domains.filter t.concerns) := by
  induction domains generalizing t with
  | nil => rfl
  | cons d ds ih =>
    rw [List.foldl_cons, ih, exclude_eq, concerns_withExcluded, ← withExcluded_append,
      ← List.filter_append, List.singleton_append]

theorem concerns_iff {t : Trigger} {d : Text} :
    t.concerns d = true ↔ t.ifDomains = [] ∨ ∃ p ∈ t.ifDomains, p <:+: d := by
  simp [concerns, Text.has_iff_infix]

theorem hasConflict_eq_false_iff {t : Trigger} :
    t.hasConflict = false ↔ t.ifDomains = [] ∨ t.unlessDomains = [] := by
  simp [hasConflict, or_iff_not_imp_left]

end Trigger

namespace Exceptions

open PayloadGroups

/-! ### One rule -/

/-- The exception undoes the rule: both have a payload, and the same. -/
def Undoes (key : ExceptionKey) (e r : BlockerRule) : Prop :=
  ∃ payload ∈ key.payload? e.action, key.payload? r.action = some payload

instance (key : ExceptionKey) (e r : BlockerRule) : Decidable (Undoes key e r) :=
  inferInstanceAs (Decidable (∃ payload ∈ key.payload? e.action, _))

/-- The domains that some exceptions add to a rule.  A rule for all domains gets all of them, a rule
for some domains those that contain one of its own. -/
def added (key : ExceptionKey) (es : List BlockerRule) (r : BlockerRule) : List Text :=
  (es.filter (Undoes key · r)).flatMap fun e =>
    e.trigger.ifDomains.filter fun d =>
      r.trigger.ifDomains = [] ∨ ∃ p ∈ r.trigger.ifDomains, p <:+: d

/-- What some exceptions make of one rule. -/
def excepted (key : ExceptionKey) (es : List BlockerRule) (r : BlockerRule) : BlockerRule :=
  { r with trigger := r.trigger.withExcluded (added key es r) }

@[simp] theorem excepted_action (key : ExceptionKey) (es : List BlockerRule) (r : BlockerRule) :
    (excepted key es r).action = r.action := rfl

@[simp] theorem urlFilter_excepted (key : ExceptionKey) (es : List BlockerRule) (r : BlockerRule) :
    (excepted key es r).trigger.urlFilter = r.trigger.urlFilter := by
  unfold excepted Trigger.withExcluded
  split <;> rfl

@[simp] theorem hasPayload_excepted (key : ExceptionKey) (p : Text) (es : List BlockerRule) :
    hasPayload key p ∘ excepted key es = hasPayload key p := rfl

/-- One more exception changes a rule that it undoes, and no other. -/
theorem excepted_concat (key : ExceptionKey) (es : List BlockerRule) (e r : BlockerRule) :
    excepted key (es ++ [e]) r =
      if Undoes key e r then (excepted key es r).exclude e.trigger.ifDomains
      else excepted key es r := by
  have hc : (r.trigger.concerns ·) =
      fun d => decide (r.trigger.ifDomains = [] ∨ ∃ p ∈ r.trigger.ifDomains, p <:+: d) := by
    funext d
    rw [Bool.eq_iff_iff, Trigger.concerns_iff, decide_eq_true_iff]
  have ha : added key (es ++ [e]) r = added key es r ++
      if Undoes key e r then e.trigger.ifDomains.filter r.trigger.concerns else [] := by
    rw [added, List.filter_append, List.flatMap_append, ← added]
    split <;> simp [*]
  rw [excepted, ha, Trigger.withExcluded_append]
  split
  · rw [BlockerRule.exclude, Trigger.foldl_exclude]
    simp only [excepted, Trigger.concerns_withExcluded]
  · rfl

/-! ### All rules -/

/-- The rules and the number of exceptions applied after some exceptions. -/
def afterwards (key : ExceptionKey) (rules es : List BlockerRule) : Array BlockerRule × ℕ :=
  ((rules.map (excepted key es)).toArray, es.countP fun e => ∃ r ∈ rules, Undoes key e r)

/-- An exception that undoes no rule changes nothing. -/
theorem afterwards_of_forall_not {key : ExceptionKey} {rules : List BlockerRule} {e : BlockerRule}
    (h : ∀ r ∈ rules, ¬Undoes key e r) (es : List BlockerRule) :
    afterwards key rules (es ++ [e]) = afterwards key rules es := by
  have hmap : rules.map (excepted key (es ++ [e])) = rules.map (excepted key es) :=
    List.map_congr_left fun r hr => by rw [excepted_concat, if_neg (h r hr)]
  have hcount : ¬∃ r ∈ rules, Undoes key e r := fun ⟨r, hr, hu⟩ => h r hr hu
  simp only [afterwards, hmap, List.countP_append, List.countP_singleton, hcount, decide_false,
    Bool.false_eq_true, if_false, Nat.add_zero]

/-- To change the rules of a group in their places is to change the rules that have the payload.
Exceptions do not change payloads, so these places stay those of the changed rules. -/
theorem modify_afterwards (key : ExceptionKey) (rules es : List BlockerRule) {e : BlockerRule}
    {p : Text} (hu : ∀ r, Undoes key e r ↔ hasPayload key p r = true) :
    (rules.findIdxs (hasPayload key p)).foldl
        (fun changed i => changed.modify i (.exclude e.trigger.ifDomains))
        (rules.map (excepted key es)).toArray =
      (rules.map (excepted key (es ++ [e]))).toArray := by
  have hplaces : rules.findIdxs (hasPayload key p) =
      (rules.map (excepted key es)).toArray.toList.findIdxs (hasPayload key p) := by
    rw [List.findIdxs_map, hasPayload_excepted]
  apply Array.toList_inj.1
  rw [hplaces, toList_foldl_modify_findIdxs, List.map_map]
  apply List.map_congr_left
  intro r _
  simp only [Function.comp_apply, excepted_concat, hu]
  rfl

theorem step_afterwards (key : ExceptionKey) (rules es : List BlockerRule) (e : BlockerRule) :
    step key (ofRules key rules) (afterwards key rules es) e =
      afterwards key rules (es ++ [e]) := by
  unfold step
  cases he : key.payload? e.action with
  | none =>
    have hu : ∀ r ∈ rules, ¬Undoes key e r := by simp [Undoes, he]
    rw [afterwards_of_forall_not hu]
    rfl
  | some p =>
    have hu : ∀ r, Undoes key e r ↔ hasPayload key p r = true := by
      simp [Undoes, he, hasPayload_iff]
    rw [Option.bind_some, places?_ofRules]
    by_cases hnil : rules.findIdxs (hasPayload key p) = []
    · have hnone : ∀ r ∈ rules, ¬Undoes key e r := by
        simpa [hu] using List.findIdxs_eq_nil_iff.1 hnil
      rw [if_pos hnil, afterwards_of_forall_not hnone]
    · have hcount : ∃ r ∈ rules, Undoes key e r := by
        simpa [List.findIdxs_eq_nil_iff, hu] using hnil
      simp only [hnil, if_false, afterwards, modify_afterwards key rules es hu,
        List.countP_append, List.countP_singleton, hcount, decide_true, if_true]

theorem foldl_step (key : ExceptionKey) (rules es fs : List BlockerRule) :
    fs.foldl (step key (ofRules key rules)) (afterwards key rules es) =
      afterwards key rules (es ++ fs) := by
  induction fs generalizing es with
  | nil => simp
  | cons f fs ih => rw [List.foldl_cons, step_afterwards, ih, List.append_assoc,
      List.singleton_append]

theorem foldl_step_start (key : ExceptionKey) (rules es : List BlockerRule) :
    es.foldl (step key (ofRules key rules)) (rules.toArray, 0) = afterwards key rules es := by
  have h := foldl_step key rules [] es
  have hid : excepted key [] = id := rfl
  rwa [List.nil_append, afterwards, hid, List.map_id] at h

/-- The rules that stay, in order: every rule as the exceptions make it, but for those that are left
with both lists. -/
theorem apply_rules (key : ExceptionKey) (rules es : List BlockerRule) :
    (apply key rules es).1 =
      (rules.map (excepted key es)).filter (!·.trigger.hasConflict) := by
  simp only [apply, foldl_step_start, afterwards, List.partition_eq_filter_filter]
  rfl

/-- **Moving the domains of exceptions into rules is to exclude from every rule the domains of the
exceptions that undo it, in order, as far as they concern it.**  The rules stay in order and nothing
else of them changes; dropped are exactly those that are left with both lists of domains.  An
exception counts as applied if it undoes some rule. -/
theorem apply_excepted (key : ExceptionKey) (rules es : List BlockerRule) :
    let kept := (apply key rules es).1
    let stats := (apply key rules es).2.1
    kept = (rules.map (excepted key es)).filter
        (fun r => r.trigger.ifDomains = [] ∨ r.trigger.unlessDomains = []) ∧
      (∀ r ∈ rules, ∃ unlessDomain,
        excepted key es r = { r with trigger := { r.trigger with unlessDomain } }) ∧
      stats.applied = es.countP (fun e => ∃ r ∈ rules, Undoes key e r) ∧
      stats.conflicts + kept.length = rules.length := by
  intro kept stats
  refine ⟨?_, fun r _ => ?_, ?_, ?_⟩
  · rw [show kept = _ from apply_rules key rules es]
    congr 1
    funext r
    rw [Bool.eq_iff_iff, decide_eq_true_iff, Bool.not_eq_true', Trigger.hasConflict_eq_false_iff]
  · unfold excepted Trigger.withExcluded
    split
    · exact ⟨r.trigger.unlessDomain, rfl⟩
    · exact ⟨_, rfl⟩
  · simp only [stats, apply, foldl_step_start, afterwards]
  · have h := (rules.map (excepted key es)).length_eq_length_filter_add (·.trigger.hasConflict)
    rw [List.length_map] at h
    simp only [kept, stats, apply, foldl_step_start, afterwards, List.partition_eq_filter_filter]
    exact h.symm

end Exceptions
end ContentBlocker
