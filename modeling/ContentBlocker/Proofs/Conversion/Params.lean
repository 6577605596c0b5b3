import ContentBlocker.Proofs.Blocker.RoundTrip
import ContentBlocker.Proofs.Conversion.Provenance

/-!
# Parameters of scriptlets

The parameter of a scriptlet is a call written as JSON, and in the advanced output it is a string
that is written as JSON once more.

* `ScriptletRule.call?` is the call in the text of a rule; by `Rule.IsRead.scriptlet` the name and
  the parameter of a rule that was read are those of its call;
* `ScriptletCall.parse?_compact_toJson` reads a parameter, so that no two calls have the same one;
* `Json.actionField?` is a field of the action of a written rule;
* `MadeFrom.scriptlet`: a rule of an output that calls a scriptlet was converted from such a rule;
* `Job.params_survive` reads the parameters in the advanced output.
-/

namespace ContentBlocker

/-! ### Calls -/

/-- The call in the text of a rule. -/
def ScriptletRule.call? (r : ScriptletRule) : Option ScriptletCall :=
  (Marker.split? r.text).bind fun s => (ScriptletCall.read s.2.2).toOption

namespace Rule

/-- The call in the text of a rule that calls a scriptlet. -/
def call? : Rule → Option ScriptletCall
  | scriptlet r => r.call?
  | css _ | url _ | script _ => none

variable [Externals]

theorem readScript_scriptlet {text before after : Text} {marker : Marker} {u : ScriptletRule}
    (h : readScript text before marker after = .ok (.scriptlet u)) :
    u.text = text ∧
      ∃ call, ScriptletCall.read after = .ok call ∧ u.name = call.name ∧
        u.param = call.toJson.compact := by
  unfold readScript at h
  dsimp only at h
  split at h
  · split at h
    · next call hcall =>
      cases h
      exact ⟨rfl, call, hcall, rfl, rfl⟩
    · cases h
  · cases h

theorem read_scriptlet {text : Text} {u : ScriptletRule}
    (h : Rule.read text = .ok (some (.scriptlet u))) :
    ∃ call, u.call? = some call ∧ u.name = call.name ∧ u.param = call.toJson.compact := by
  unfold Rule.read at h
  split at h
  · cases h
  · split at h
    · next before marker after hsplit =>
      split at h
      · obtain ⟨c, -, hr⟩ := map_eq_ok_iff.1 h
        cases hr
      · obtain ⟨s, hs, hr⟩ := map_eq_ok_iff.1 h
        cases hr
        obtain ⟨rfl, call, hcall, hname, hparam⟩ := readScript_scriptlet hs
        refine ⟨call, ?_, hname, hparam⟩
        rw [ScriptletRule.call?, hsplit, Option.bind_some, hcall]
        rfl
    · obtain ⟨c, -, hr⟩ := map_eq_ok_iff.1 h
      cases hr

/-- The name and the parameter of a rule that was read are those of the call in its text. -/
theorem IsRead.scriptlet {u : ScriptletRule} (h : (Rule.scriptlet u).IsRead) :
    ∃ call, u.call? = some call ∧ u.name = call.name ∧ u.param = call.toJson.compact := by
  obtain ⟨text, r, hread, rfl | ⟨id, hr⟩⟩ := h
  · exact read_scriptlet hread
  · cases r with
    | scriptlet v =>
      cases hr
      exact read_scriptlet (u := v) hread
    | css | url | script => cases hr

end Rule

/-! ### Parameters -/

namespace ScriptletCall

theorem isPlain_toJson (call : ScriptletCall) : call.toJson.isPlain = true := by
  have hargs : (Json.ofTexts call.args).isPlain = true := Json.isPlain_arr_str id call.args
  simp [toJson, Json.isPlain, Json.allPlainFields, hargs]

/-- A parameter is read as an object with the name and the arguments of its call, whatever
characters these hold. -/
theorem parse?_compact_toJson (call : ScriptletCall) :
    Json.parse? call.toJson.compact =
      some (.obj [("name", .str call.name), ("args", .arr (call.args.map .str))]) :=
  Json.parse?_compact call.isPlain_toJson

theorem toJson_injective : Function.Injective toJson := by
  rintro ⟨name, args⟩ ⟨name', args'⟩ h
  have hstr : Function.Injective Json.str := fun _ _ => Json.str.inj
  simp only [toJson, Json.ofTexts, Json.obj.injEq, List.cons.injEq, Prod.mk.injEq, Json.str.injEq,
    Json.arr.injEq, true_and, and_true] at h
  obtain ⟨rfl, hargs⟩ := h
  rw [List.map_injective_iff.2 hstr hargs]

/-- No two calls have the same parameter. -/
theorem compact_toJson_injective :
    Function.Injective fun call : ScriptletCall => call.toJson.compact := by
  intro c d h
  have hparse := congrArg Json.parse? h
  dsimp only at hparse
  rw [Json.parse?_compact c.isPlain_toJson, Json.parse?_compact d.isPlain_toJson] at hparse
  exact toJson_injective (Option.some.inj hparse)

end ScriptletCall

/-- Rules that were read and have the same parameter have the same call. -/
theorem ScriptletRule.call?_eq_of_param [Externals] {u v : ScriptletRule}
    (hu : (Rule.scriptlet u).IsRead) (hv : (Rule.scriptlet v).IsRead) (h : u.param = v.param) :
    u.name = v.name ∧ ∃ call, u.call? = some call ∧ v.call? = some call := by
  obtain ⟨call, hcall, hname, hparam⟩ := hu.scriptlet
  obtain ⟨call', hcall', hname', hparam'⟩ := hv.scriptlet
  obtain rfl : call = call' :=
    ScriptletCall.compact_toJson_injective (hparam.symm.trans (h.trans hparam'))
  exact ⟨hname.trans hname'.symm, call, hcall, hcall'⟩

/-! ### Written rules -/

/-- A field of the action of a written rule. -/
def Json.actionField? (j : Json) (name : Text) : Option Json :=
  (j.field? "action").bind (·.field? name)

namespace BlockerRule

variable (b : BlockerRule)

/-- A written rule tells the type of its action. -/
theorem actionField?_type : b.toJson.actionField? "type" = some (.str b.action.type.name) := rfl

theorem actionField?_type_scriptlet (h : b.toJson.actionField? "type" = some (.str "scriptlet")) :
    b.action.type = .scriptlet := by
  have hchoice := ActionType.choice?_name b.action.type
  rw [actionField?_type] at h
  rw [Option.some.inj h] at hchoice
  exact (Option.some.inj hchoice).symm

/-- A written rule that calls a scriptlet holds its name and its parameter. -/
theorem actionField?_scriptlet {name param : Text}
    (h : b.action = { type := .scriptlet, scriptlet := some name, scriptletParam := some param }) :
    b.toJson.actionField? "scriptlet" = some (.str name) ∧
      b.toJson.actionField? "scriptletParam" = some (.str param) := by
  have hjson : b.toJson = .obj [("trigger", b.trigger.toJson), ("action", b.action.toJson)] := rfl
  rw [hjson, h]
  exact ⟨rfl, rfl⟩

end BlockerRule

/-! ### Outputs -/

/-- An action that calls a scriptlet is not that of an exception. -/
theorem of_actionType_eq_scriptlet {isException : Bool} {type : ActionType}
    (h : actionType isException type = .scriptlet) : type = .scriptlet ∧ isException = false := by
  cases isException with
  | true => cases h
  | false => exact ⟨h, rfl⟩

/-- A rule of an output that calls a scriptlet was converted from a rule that calls it. -/
theorem MadeFrom.scriptlet [Externals] {rs : List Rule} {b : BlockerRule} (h : MadeFrom rs b)
    (ht : b.action.type = .scriptlet) :
    ∃ u, Rule.scriptlet u ∈ rs ∧
      b.action =
        { type := .scriptlet, scriptlet := some u.name, scriptletParam := some u.param } := by
  rcases h with ⟨r, hr, c, hemit, ha, -⟩ | ⟨selectors, rfl, -⟩
  · rw [ha] at ht ⊢
    -- the type of the action tells the kind of the rule
    cases r with
    | css r =>
      rw [(CssRule.emit_ok hemit).2] at ht
      split_ifs at ht <;> cases (of_actionType_eq_scriptlet ht).1
    | url r =>
      obtain ⟨-, -, -, hb, -⟩ := UrlRule.emit_ok hemit
      rw [hb] at ht
      cases (of_actionType_eq_scriptlet ht).1
    | script r =>
      rw [(ScriptRule.emit_ok hemit).2] at ht
      cases (of_actionType_eq_scriptlet ht).1
    | scriptlet u =>
      have hu := (ScriptletRule.emit_ok hemit).2
      rw [hu] at ht
      rw [(of_actionType_eq_scriptlet ht).2] at hu
      exact ⟨u, hr, hu⟩
  · cases ht

namespace Job

open Badfilters

/-- **Parameters of scriptlets are read again as they were called.**  Whatever lines are converted,
after any number of slices, the advanced output is a JSON list.  Every item of the list that calls a
scriptlet comes from a rule that is not cancelled: the item holds the name in its call, and a string
which, read as JSON once more, is an object with this name and the arguments of the call, whatever
characters these hold.  Rules that were read have the same parameter only if they have the same
call. -/
theorem params_survive [Externals] {sources : List Source} (hs : ∀ s ∈ sources, s.IsRead)
    {options : ConvertOptions} (ha : options.advancedBlocking = true) (n : ℕ) :
    let rules := rulesIn sources
    let kept := rules.filter fun r => r.badfilter? = none ∧ r.text ∉ targets rules
    let j := ((start sources options).advance [] n).1
    j.finish.1.isSome = !sources.isEmpty ∧
      (∀ result ∈ j.finish.1, ∃ text count items,
        result.advancedBlocking = some (text, count) ∧ Json.parse? text = some (.arr items) ∧
          items.length = count ∧
          ∀ item ∈ items, item.actionField? "type" = some (.str "scriptlet") →
            ∃ u call param, .scriptlet u ∈ kept ∧ u.call? = some call ∧
              item.actionField? "scriptlet" = some (.str call.name) ∧
              item.actionField? "scriptletParam" = some (.str param) ∧
              Json.parse? param =
                some (.obj [("name", .str call.name), ("args", .arr (call.args.map .str))])) ∧
      ∀ u v : ScriptletRule, (Rule.scriptlet u).IsRead → (Rule.scriptlet v).IsRead →
        u.param = v.param →
          u.name = v.name ∧ ∃ call, u.call? = some call ∧ v.call? = some call := by
  intro rules kept j
  obtain ⟨hsome, houtputs⟩ := finish_outputs sources options n
  refine ⟨hsome, fun result hresult => ?_, fun u v hu hv => ScriptletRule.call?_eq_of_param hu hv⟩
  obtain ⟨advanced, hadvanced⟩ : ∃ advanced, j.run.1.advancedOutput = some advanced := by
    have hoptions : (final sources options).options = options := rfl
    rw [show j.run.1 = final sources options from (run_start sources options [] n).1,
      advancedOutput_eq, hoptions, ha]
    exact ⟨_, rfl⟩
  refine ⟨BlockerRule.writeAll advanced, advanced.length, advanced.map BlockerRule.toJson, ?_,
    BlockerRule.parse?_writeAll advanced, List.length_map _, ?_⟩
  · rw [(houtputs result hresult).2, show j.run.1.advancedOutput = _ from hadvanced]
    rfl
  · rw [List.forall_mem_map]
    intro b hb htype
    obtain ⟨hmade, -⟩ := (outputs_madeFrom hs options n).2 advanced hadvanced b hb
    obtain ⟨u, hu, haction⟩ := hmade.scriptlet (b.actionField?_type_scriptlet htype)
    have hread : (Rule.scriptlet u).IsRead := rulesIn_isRead hs _ (List.mem_of_mem_filter hu)
    obtain ⟨call, hcall, hname, hparam⟩ := hread.scriptlet
    obtain ⟨hnameField, hparamField⟩ := b.actionField?_scriptlet haction
    rw [hname] at hnameField
    refine ⟨u, call, u.param, hu, hcall, hnameField, hparamField, ?_⟩
    rw [hparam, call.parse?_compact_toJson]

/-- Backslashes, quotation marks and control characters in arguments are read again. -/
theorem params_survive_marks :
    let sources : List Source := [.text "example.org#%#//scriptlet('log', '\\d+\"', 'a\tb')"]
    let options : ConvertOptions := { advancedBlocking := true }
    let j := ((start sources options).advance [] 1).1
    (∀ s ∈ sources, s.IsRead) ∧ options.advancedBlocking = true ∧
      ∃ result ∈ j.finish.1, ∃ text item param,
        result.advancedBlocking = some (text, 1) ∧ Json.parse? text = some (.arr [item]) ∧
          item.actionField? "scriptlet" = some (.str "log") ∧
          item.actionField? "scriptletParam" = some (.str param) ∧
          Json.parse? param =
            some (.obj [("name", .str "log"), ("args", .arr [.str "\\d+\"", .str "a\tb"])]) := by
  intro sources options j
  have hs : ∀ s ∈ sources, s.IsRead := by simp [sources, Source.IsRead]
  obtain ⟨hsome, hread, -⟩ := params_survive hs (show options.advancedBlocking = true from rfl) 1
  obtain ⟨result, hresult⟩ := Option.isSome_iff_exists.1 hsome
  obtain ⟨text, count, items, houtput, hparse, hcount, hitems⟩ := hread result hresult
  have htypes : (final sources options).advancedOutput.map (List.map (·.action.type)) =
      some [.scriptlet] := by
    decide +kernel
  obtain ⟨advanced, hadvanced, htype⟩ := Option.map_eq_some_iff.1 htypes
  obtain ⟨b, rfl, hb⟩ := List.map_eq_singleton_iff.1 htype
  -- the only item is the only rule of the output
  have hrun : j.run.1 = final sources options := (run_start sources options [] 1).1
  have hwritten := ((finish_outputs sources options 1).2 result hresult).2
  rw [show j.run.1.advancedOutput = _ from hrun ▸ hadvanced, houtput] at hwritten
  cases hwritten
  rw [BlockerRule.parse?_writeAll] at hparse
  cases hparse
  obtain ⟨u, call, param, hu, hcall, hname, hparam, hagain⟩ :=
    hitems b.toJson (List.mem_singleton_self _) (by rw [b.actionField?_type, hb]; rfl)
  have hcalls : ∀ c ∈ (rulesIn sources).filterMap Rule.call?,
      c = ⟨"log", ["\\d+\"", "a\tb"]⟩ := by
    decide +kernel
  obtain rfl := hcalls call (List.mem_filterMap.2 ⟨_, List.mem_of_mem_filter hu, hcall⟩)
  exact ⟨hs, rfl, result, hresult, _, b.toJson, param, houtput, BlockerRule.parse?_writeAll [b],
    hname, hparam, hagain⟩

end Job
end ContentBlocker
