import ContentBlocker.Blocker.Json
import ContentBlocker.Proofs.Json.RoundTrip

/-!
# Reading written rules

The rules of a written content blocker are read again as the same rules.

* `Json.presentFields` are the fields of a record that are there, and `Json.record?_presentFields`
  finds all of them by their names;
* `Trigger.ofJson?_toJson`, `Action.ofJson?_toJson` and `BlockerRule.ofJson?_toJson` read one value;
* `BlockerRule.readAll?_writeAll` reads a whole text;
* `BlockerRule.writeAll_faithful`: no two lists of rules are written alike.
-/

namespace ContentBlocker

namespace Json

/-! ### Lists -/

theorem mapM_map_eq_some {α β γ : Type} {f : β → Option γ} {g : α → β} {k : α → γ} {xs : List α}
    (h : ∀ x ∈ xs, f (g x) = some (k x)) : (xs.map g).mapM f = some (xs.map k) := by
  induction xs with
  | nil => rfl
  | cons x xs ih =>
    rw [List.map_cons, List.mapM_cons, h x List.mem_cons_self,
      ih fun y hy => h y (List.mem_cons_of_mem x hy)]
    rfl

theorem list?_map {α : Type} {f : Json → Option α} {g : α → Json} (h : ∀ a, f (g a) = some a)
    (xs : List α) : list? f (.arr (xs.map g)) = some xs := by
  have hread : (xs.map g).mapM f = some (xs.map id) := mapM_map_eq_some fun x _ => h x
  rwa [List.map_id] at hread

theorem allPlain_iff {items : List Json} :
    allPlain items = true ↔ ∀ j ∈ items, j.isPlain = true := by
  induction items with
  | nil => simp [allPlain]
  | cons j items ih => simp [allPlain, ih]

theorem allPlainFields_iff {fields : List (Text × Json)} :
    allPlainFields fields = true ↔ ∀ f ∈ fields, f.2.isPlain = true := by
  induction fields with
  | nil => simp [allPlainFields]
  | cons f fields ih => simp [allPlainFields, ih]

theorem isPlain_str (t : Text) : (Json.str t).isPlain = true := rfl

theorem isPlain_arr_str {α : Type} (f : α → Text) (xs : List α) :
    (Json.arr (xs.map fun x => .str (f x))).isPlain = true := by
  simp [isPlain, allPlain_iff]

/-! ### Records -/

/-- The fields of a record that are there, in order. -/
def presentFields (fields : List (Text × Option Json)) : List (Text × Json) :=
  fields.flatMap fun f => fieldOf f.1 id f.2

theorem fieldOf_map {α : Type} (name : Text) (f : α → Json) (a : Option α) :
    fieldOf name id (a.map f) = fieldOf name f a := by
  cases a <;> rfl

theorem filter_presentFields (fields : List (Text × Option Json)) (name : Text) :
    (presentFields fields).filter (·.1 = name) =
      presentFields (fields.filter (·.1 = name)) := by
  induction fields with
  | nil => rfl
  | cons f fields ih =>
    obtain ⟨n, _ | j⟩ := f <;> by_cases hn : n = name <;>
      simp_all [presentFields, fieldOf]

theorem uniqueField?_presentFields {fields : List (Text × Option Json)}
    (hn : (fields.map Prod.fst).Nodup) {f : Text × Option Json} (hf : f ∈ fields) :
    uniqueField? (presentFields fields) f.1 = some f.2 := by
  have honly : fields.filter (·.1 = f.1) = [f] := by
    induction fields with
    | nil => cases hf
    | cons g fields ih =>
      obtain ⟨hg, hn⟩ := List.nodup_cons.1 hn
      rcases List.mem_cons.1 hf with rfl | hf
      · have hrest : fields.filter (·.1 = f.1) = [] := by
          rw [List.filter_eq_nil_iff]
          intro g hg' heq
          exact hg (List.mem_map.2 ⟨g, hg', of_decide_eq_true heq⟩)
        rw [List.filter_cons_of_pos (by simp), hrest]
      · have hne : g.1 ≠ f.1 := fun heq => hg (List.mem_map.2 ⟨f, hf, heq.symm⟩)
        rw [List.filter_cons_of_neg (by simpa using hne), ih hn hf]
  rw [uniqueField?, filter_presentFields, honly]
  obtain ⟨n, _ | j⟩ := f <;> rfl

/-- A record is read field by field from the fields that are there. -/
theorem record?_presentFields (fields : List (Text × Option Json))
    (hn : (fields.map Prod.fst).Nodup) :
    record? (fields.map Prod.fst) (.obj (presentFields fields)) = some (fields.map Prod.snd) :=
  mapM_map_eq_some fun _ hf => uniqueField?_presentFields hn hf

theorem isPlain_presentFields {fields : List (Text × Option Json)}
    (h : ∀ f ∈ fields, ∀ j ∈ f.2, j.isPlain = true) :
    (Json.obj (presentFields fields)).isPlain = true := by
  rw [isPlain, allPlainFields_iff]
  intro f hf
  obtain ⟨⟨n, j⟩, hmem, hj⟩ := List.mem_flatMap.1 hf
  cases j with
  | none => cases hj
  | some j =>
    obtain rfl : f = (n, j) := List.mem_singleton.1 hj
    exact h _ hmem j rfl

/-- An optional field that is never null when it is there is read as it was written. -/
theorem optional?_map {α : Type} {f : Json → Option α} {g : α → Json}
    (h : ∀ a, nullable? f (g a) = some (some a)) (a : Option α) :
    optional? f (a.map g) = some a := by
  cases a with
  | none => rfl
  | some a => exact h a

theorem nullable?_list {α : Type} {f : Json → Option α} {g : α → Json} (h : ∀ a, f (g a) = some a)
    (xs : List α) : nullable? (list? f) (.arr (xs.map g)) = some (some xs) := by
  rw [nullable?, list?_map h, Option.map_some]
  exact fun h => by cases h

end Json

open Json

theorem ResourceType.choice?_name (r : ResourceType) :
    choice? ResourceType.names (.str r.name) = some r := by
  cases r <;> rfl

theorem LoadType.choice?_name (l : LoadType) : choice? LoadType.names (.str l.name) = some l := by
  cases l <;> rfl

theorem ActionType.choice?_name (a : ActionType) :
    choice? ActionType.names (.str a.name) = some a := by
  cases a <;> rfl

/-! ### Triggers -/

namespace Trigger

/-- The fields of a trigger, those that are absent included. -/
def fields (t : Trigger) : List (Text × Option Json) :=
  [("url-filter", some (.str t.urlFilter)),
    ("resource-type", t.resourceType.map fun ts => .arr (ts.map (.str ·.name))),
    ("load-type", t.loadType.map fun ts => .arr (ts.map (.str ·.name))),
    ("url-filter-is-case-sensitive", t.isCaseSensitive.map .bool),
    ("if-domain", t.ifDomain.map ofTexts),
    ("unless-domain", t.unlessDomain.map ofTexts)]

theorem toJson_eq (t : Trigger) : t.toJson = .obj (presentFields t.fields) := by
  simp only [toJson, presentFields, fields, List.flatMap_cons, List.flatMap_nil, fieldOf_map,
    List.append_nil, List.append_assoc]
  rfl

theorem ofJson?_toJson (t : Trigger) : ofJson? t.toJson = some t := by
  have hfields : record? fieldNames t.toJson = some (t.fields.map Prod.snd) := by
    rw [toJson_eq]
    exact record?_presentFields t.fields (show fieldNames.Nodup by decide)
  rw [ofJson?, hfields]
  simp only [fields, List.map_cons, List.map_nil, Option.bind_eq_bind, Option.bind_some, text?,
    optional?_map (nullable?_list ResourceType.choice?_name),
    optional?_map (nullable?_list LoadType.choice?_name),
    optional?_map (f := bool?) (g := Json.bool) fun _ => rfl,
    optional?_map (f := list? text?) (g := ofTexts) (nullable?_list fun _ => rfl)]

theorem isPlain_toJson (t : Trigger) : t.toJson.isPlain = true := by
  rw [toJson_eq]
  apply isPlain_presentFields
  simp only [fields, List.forall_mem_cons, Option.mem_def, Option.some.injEq, forall_eq',
    Option.map_eq_some_iff, forall_exists_index, and_imp, forall_apply_eq_imp_iff₂]
  refine ⟨rfl, fun ts _ => isPlain_arr_str _ ts, fun ts _ => isPlain_arr_str _ ts, fun _ _ => rfl,
    fun ts _ => isPlain_arr_str _ ts, fun ts _ => isPlain_arr_str _ ts, by simp⟩

end Trigger

/-! ### Actions -/

namespace Action

/-- The fields of an action, those that are absent included. -/
def fields (a : Action) : List (Text × Option Json) :=
  [("type", some (.str a.type.name)), ("selector", a.selector.map .str), ("css", a.css.map .str),
    ("script", a.script.map .str), ("scriptlet", a.scriptlet.map .str),
    ("scriptletParam", a.scriptletParam.map .str)]

theorem toJson_eq (a : Action) : a.toJson = .obj (presentFields a.fields) := by
  simp only [toJson, presentFields, fields, List.flatMap_cons, List.flatMap_nil, fieldOf_map,
    List.append_nil, List.append_assoc]
  rfl

theorem ofJson?_toJson (a : Action) : ofJson? a.toJson = some a := by
  have hfields : record? fieldNames a.toJson = some (a.fields.map Prod.snd) := by
    rw [toJson_eq]
    exact record?_presentFields a.fields (show fieldNames.Nodup by decide)
  rw [ofJson?, hfields]
  simp only [fields, List.map_cons, List.map_nil, Option.bind_eq_bind, Option.bind_some,
    ActionType.choice?_name, optional?_map (f := text?) (g := Json.str) fun _ => rfl]

theorem isPlain_toJson (a : Action) : a.toJson.isPlain = true := by
  rw [toJson_eq]
  apply isPlain_presentFields
  simp only [fields, List.forall_mem_cons, Option.mem_def, Option.some.injEq, forall_eq',
    Option.map_eq_some_iff, forall_exists_index, and_imp, forall_apply_eq_imp_iff₂, isPlain_str]
  simp

end Action

/-! ### Rules -/

namespace BlockerRule

theorem ofJson?_toJson (r : BlockerRule) : ofJson? r.toJson = some r := by
  have hfields : record? fieldNames r.toJson =
      some [some r.trigger.toJson, some r.action.toJson] :=
    record?_presentFields [("trigger", some r.trigger.toJson), ("action", some r.action.toJson)]
      (show fieldNames.Nodup by decide)
  rw [ofJson?, hfields]
  simp only [Option.bind_eq_bind, Option.bind_some, Trigger.ofJson?_toJson, Action.ofJson?_toJson]

theorem isPlain_toJson (r : BlockerRule) : r.toJson.isPlain = true := by
  simp [toJson, isPlain, allPlainFields, Trigger.isPlain_toJson, Action.isPlain_toJson]

theorem parse?_writeAll (rules : List BlockerRule) :
    parse? (writeAll rules) = some (.arr (rules.map toJson)) := by
  apply parse?_pretty
  rw [isPlain, allPlain_iff, List.forall_mem_map]
  exact fun r _ => r.isPlain_toJson

/-- Written rules are read again. -/
theorem readAll?_writeAll (rules : List BlockerRule) : readAll? (writeAll rules) = some rules := by
  rw [readAll?, parse?_writeAll, Option.bind_some]
  exact list?_map ofJson?_toJson rules

theorem writeAll_injective : Function.Injective writeAll := by
  intro rules rules' h
  have hread := congrArg readAll? h
  rw [readAll?_writeAll, readAll?_writeAll] at hread
  exact Option.some.inj hread

/-- Lists that differ in one rule are written differently. -/
theorem writeAll_ne {r r' : BlockerRule} (h : r ≠ r') (before after : List BlockerRule) :
    writeAll (before ++ r :: after) ≠ writeAll (before ++ r' :: after) := by
  intro heq
  have hlists := List.append_cancel_left (writeAll_injective heq)
  exact h (List.cons.inj hlists).1

/-- **The written form of rules keeps all of them.**  Whatever their texts, lists and choices are,
and whichever of their fields are absent, written rules are read again as the same rules, so that no
two lists of rules are written alike.  In particular, wherever a rule stands, an absent list is not
written like an empty one, and an absent text not like an empty one. -/
theorem writeAll_faithful :
    (∀ rules, readAll? (writeAll rules) = some rules) ∧ Function.Injective writeAll ∧
      ∀ (before after : List BlockerRule) (t : Trigger) (a : Action),
        let write := fun r => writeAll (before ++ r :: after)
        (write ⟨{ t with resourceType := none }, a⟩ ≠
            write ⟨{ t with resourceType := some [] }, a⟩ ∧
          write ⟨{ t with loadType := none }, a⟩ ≠ write ⟨{ t with loadType := some [] }, a⟩ ∧
          write ⟨{ t with ifDomain := none }, a⟩ ≠ write ⟨{ t with ifDomain := some [] }, a⟩ ∧
          write ⟨{ t with unlessDomain := none }, a⟩ ≠
            write ⟨{ t with unlessDomain := some [] }, a⟩) ∧
          write ⟨t, { a with selector := none }⟩ ≠ write ⟨t, { a with selector := some [] }⟩ ∧
          write ⟨t, { a with css := none }⟩ ≠ write ⟨t, { a with css := some [] }⟩ ∧
          write ⟨t, { a with script := none }⟩ ≠ write ⟨t, { a with script := some [] }⟩ ∧
          write ⟨t, { a with scriptlet := none }⟩ ≠ write ⟨t, { a with scriptlet := some [] }⟩ ∧
          write ⟨t, { a with scriptletParam := none }⟩ ≠
            write ⟨t, { a with scriptletParam := some [] }⟩ := by
  refine ⟨readAll?_writeAll, writeAll_injective, fun before after t a => ?_⟩
  refine ⟨⟨?_, ?_, ?_, ?_⟩, ?_, ?_, ?_, ?_, ?_⟩ <;> exact writeAll_ne (by simp) before after

end BlockerRule
end ContentBlocker
