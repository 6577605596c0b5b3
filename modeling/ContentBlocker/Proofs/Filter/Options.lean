import ContentBlocker.Filter.Network
import ContentBlocker.Proofs.Text.Ends

/-!
# Options in any order

Options are applied to a rule one after the other.  What they say together can be told from the
whole list of them, and most of it does not depend on their order.

* `Effect` is what the name of an option says, and `isAcceptable` the names that a rule may have;
* `described` is the rule that a list of options describes;
* `applyOption_toOption` applies one option, and `described_affected` adds it to a description;
* `applyAll_described` applies any number of them;
* `options_described` says that options are applied if all of them are acceptable, that the rule is
  the described one then, and what stays when the options are reordered.
-/

namespace ContentBlocker

/-! ### Unions -/

/-- The union of some sets. -/
def unionOf {n : ℕ} (sets : List (BitVec n)) : BitVec n := sets.foldr (· ||| ·) 0

section Unions

variable {n : ℕ} (ss ts : List (BitVec n)) (s : BitVec n)

@[simp] theorem unionOf_nil : unionOf ([] : List (BitVec n)) = 0#n := rfl

@[simp] theorem unionOf_singleton : unionOf [s] = s := BitVec.or_zero

theorem unionOf_append : unionOf (ss ++ ts) = unionOf ss ||| unionOf ts := by
  induction ss with
  | nil => simp
  | cons r ss ih =>
    show r ||| unionOf (ss ++ ts) = r ||| unionOf ss ||| unionOf ts
    rw [ih, BitVec.or_assoc]

theorem getLsbD_unionOf (i : ℕ) : (unionOf ss).getLsbD i = ss.any (·.getLsbD i) := by
  induction ss with
  | nil => simp [unionOf]
  | cons r ss ih =>
    show (r ||| unionOf ss).getLsbD i = _
    rw [BitVec.getLsbD_or, ih, List.any_cons]

variable {ss ts}

theorem unionOf_perm (h : ss.Perm ts) : unionOf ss = unionOf ts := by
  apply BitVec.eq_of_getLsbD_eq
  intro i _
  rw [getLsbD_unionOf, getLsbD_unionOf, h.any_eq]

end Unions

/-! ### What names say -/

namespace RuleOption

/-- The names that set the option. -/
def names : RuleOption → List Text
  | elemhide => ["elemhide", "document"]
  | thirdParty => ["third-party", "3p"]
  | generichide => ["generichide"]
  | genericblock => ["genericblock"]
  | jsinject => ["jsinject", "document"]
  | urlblock => ["urlblock", "document"]
  | content => ["content", "document"]
  | popup => ["popup"]
  | emptyResponse => ["empty"]
  | matchCase => ["match-case"]
  | csp => ["csp"]

/-- An exception, or another rule, may set the option. -/
def mayBeSet (isException : Bool) : RuleOption → Bool
  | elemhide | jsinject | content | generichide | genericblock => isException
  | emptyResponse => !isException
  | thirdParty | urlblock | popup | matchCase | csp => true

end RuleOption

namespace OptionSet

@[simp] theorem or_empty (s : OptionSet) : s ||| empty = s := BitVec.or_zero

theorem ite_or_ite (b c : Bool) (s : OptionSet) :
    (if b then s else empty) ||| (if c then s else empty) = if b || c then s else empty := by
  cases b <;> cases c <;> simp [empty]

end OptionSet

namespace UrlRule

/-- The name of an option, in lower case. -/
def optionName (option : Text) : Text := ((Text.cut? ['='] option).elim option Prod.fst).lower

/-- The value of an option behind its equals sign. -/
def optionValue? (option : Text) : Option Text := (Text.cut? ['='] option).map Prod.snd

/-- The names for loads from the same site. -/
def firstPartyNames : List Text := ["~third-party", "~3p", "first-party", "1p"]

/-- The names that every rule may have, apart from those of content types. -/
def commonNames : List Text := ["domain", "important", "~important", "badfilter"]

/-- What the name of an option says about a rule. -/
structure Effect where
  /-- A content type that the rule is for. -/
  permitted : Option ContentType := none
  /-- A content type that the rule is not for. -/
  restricted : Option ContentType := none
  /-- The options that are set. -/
  enabled : OptionSet := OptionSet.empty
  /-- The options that are cleared. -/
  disabled : OptionSet := OptionSet.empty
  /-- Whether the rule goes before others. -/
  importance : Option Bool := none
  /-- The value holds domains. -/
  holdsDomains : Bool := false
  /-- The value is a policy. -/
  holdsPolicy : Bool := false
  /-- The rule cancels another. -/
  cancels : Bool := false
  deriving DecidableEq

/-- What a name says.  The name of documents sets options and is no content type, but a content type
can be negated with it. -/
def Effect.ofName (name : Text) : Effect :=
  { permitted := if name = "document" then none else ContentType.ofName? name
    restricted := (Text.stripStart? ['~'] name).bind ContentType.ofName?
    enabled := unionOf ((RuleOption.all.filter (·.names.contains name)).map (·.single))
    disabled :=
      if firstPartyNames.contains name then RuleOption.thirdParty.single else OptionSet.empty
    importance :=
      if name = "important" then some true else if name = "~important" then some false else none
    holdsDomains := name = "domain"
    holdsPolicy := name = "csp"
    cancels := name = "badfilter" }

/-- An exception, or another rule, may have an option with this name. -/
def isAcceptable (isException : Bool) (name : Text) : Bool :=
  let bare := (Text.stripStart? ['~'] name).getD name
  commonNames.contains name || firstPartyNames.contains name ||
    (ContentType.ofName? bare).isSome || ignoredOptions.contains bare ||
    RuleOption.all.any fun o => o.names.contains name && o.mayBeSet isException

/-- What the names of some options say. -/
def effects (options : List Text) : List Effect := options.map fun o => Effect.ofName (optionName o)

/-- The content types that some options name. -/
def typesOf (options : List Text) : List ContentType := (effects options).filterMap (·.permitted)

/-- The domains in the values of some options. -/
def scopesOf [Externals] (options : List Text) : List Scope :=
  (options.filter (optionName · = "domain")).filterMap fun o => (optionValue? o).map Scope.read

/-- The rule that a list of options describes: its content types are those that are named, or all of
them, and the last option wins where only one can. -/
def described [Externals] (text pattern : Text) (options : List Text) : UrlRule :=
  { fresh text pattern with
    scope := ⟨(scopesOf options).flatMap (·.permitted), (scopesOf options).flatMap (·.restricted)⟩
    permittedTypes :=
      if typesOf options = [] then TypeSet.all else unionOf ((typesOf options).map (·.single))
    restrictedTypes := unionOf (((effects options).filterMap (·.restricted)).map (·.single))
    enabled := unionOf ((effects options).map (·.enabled))
    disabled :=
      if options.any fun o => firstPartyNames.contains (optionName o) then
        RuleOption.thirdParty.single
      else OptionSet.empty
    isImportant := ((effects options).filterMap (·.importance)).getLast?.getD false
    csp := (options.filter (optionName · = "csp")).getLast?.bind optionValue?
    badfilter :=
      if options.any (optionName · = "badfilter") then some (badfilterTarget text) else none }

/-! ### One option -/

/-- The rule after an option with an effect and a value. -/
def affected [Externals] (r : UrlRule) (e : Effect) (value : Option Text) : UrlRule :=
  { r with
    scope := if e.holdsDomains then r.scope.append (value.elim {} Scope.read) else r.scope
    permittedTypes :=
      match e.permitted with
      | none => r.permittedTypes
      | some t =>
        if r.permittedTypes = TypeSet.all then t.single else r.permittedTypes ||| t.single
    restrictedTypes := r.restrictedTypes ||| unionOf (e.restricted.toList.map (·.single))
    enabled := r.enabled ||| e.enabled
    disabled := r.disabled ||| e.disabled
    isImportant := e.importance.getD r.isImportant
    csp := if e.holdsPolicy then value else r.csp
    badfilter := if e.cancels then some (badfilterTarget r.text) else r.badfilter }

namespace Modifier

/-- What a modifier does. -/
@[simp] def effect : Modifier → Effect
  | domain => { holdsDomains := true }
  | enable options => { enabled := options }
  | disable options => { disabled := options }
  | important value => { importance := some value }
  | csp => { enabled := RuleOption.csp.single, holdsPolicy := true }
  | replace => {}
  | badfilter => { cancels := true }

/-- An exception, or another rule, may have the modifier. -/
@[simp] def isAccepted (isException : Bool) : Modifier → Bool
  | enable options =>
    !(if isException then OptionSet.blockingOnly else OptionSet.exceptionOnly).contains options
  | replace => false
  | domain | disable _ | important _ | csp | badfilter => true

end Modifier

/-- The names of the modifiers say what these do. -/
theorem effect_modifiers : ∀ p ∈ modifiers, Effect.ofName p.1 = p.2.effect := by
  decide +kernel

theorem isAcceptable_modifiers :
    ∀ p ∈ modifiers, ∀ isException, isAcceptable isException p.1 = p.2.isAccepted isException := by
  decide +kernel

theorem mem_of_lookup {α : Type} {table : List (Text × α)} {name : Text} {a : α}
    (h : table.lookup name = some a) : (name, a) ∈ table := by
  obtain ⟨before, after, rfl, -⟩ := List.lookup_eq_some_iff.1 h
  simp

theorem ne_of_lookup {α : Type} {table : List (Text × α)} {name : Text}
    (h : table.lookup name = none) : ∀ n ∈ table.map Prod.fst, name ≠ n := by
  rw [List.lookup_eq_none_iff] at h
  rw [List.forall_mem_map]
  exact fun p hp => by simpa using h p hp

/-- Setting options. -/
theorem enable_toOption (r : UrlRule) (name : Text) (options : OptionSet) :
    (r.enable name options).toOption =
      if (Modifier.enable options).isAccepted r.isException then
        some { r with enabled := r.enabled ||| options }
      else none := by
  unfold enable Modifier.isAccepted
  rcases Bool.eq_false_or_eq_true ((if r.isException then OptionSet.blockingOnly
    else OptionSet.exceptionOnly).contains options) with h | h <;> simp [h, Except.toOption]

/-- Any rule may set a policy. -/
theorem enable_csp (r : UrlRule) (name : Text) :
    r.enable name (.ofList [.csp]) =
      .ok { r with enabled := r.enabled ||| RuleOption.csp.single } := by
  unfold enable
  cases r.isException <;> rfl

/-- A name that is no modifier can only be that of a content type. -/
theorem ofName_of_lookup {name : Text} (h : modifiers.lookup name = none) :
    Effect.ofName name =
        { permitted := ContentType.ofName? name
          restricted := (Text.stripStart? ['~'] name).bind ContentType.ofName? } ∧
      ∀ isException, isAcceptable isException name =
        let bare := (Text.stripStart? ['~'] name).getD name
        (ContentType.ofName? bare).isSome || ignoredOptions.contains bare := by
  have hne := ne_of_lookup h
  -- the name is in no list of names of modifiers
  have hnot : ∀ names : List Text, (∀ n ∈ names, n ∈ modifiers.map Prod.fst) →
      names.contains name = false := by
    intro names hnames
    rw [List.contains_eq_mem, decide_eq_false_iff_not]
    exact fun hn => hne name (hnames name hn) rfl
  have hfirst : firstPartyNames.contains name = false := hnot _ (by decide)
  have hcommon : commonNames.contains name = false := hnot _ (by decide)
  have hknown : ∀ o ∈ RuleOption.all, ∀ n ∈ o.names, n ∈ modifiers.map Prod.fst := by decide
  have hoptions : ∀ o ∈ RuleOption.all, o.names.contains name = false := fun o ho =>
    hnot _ (hknown o ho)
  have hfilter : RuleOption.all.filter (·.names.contains name) = [] := by
    rw [List.filter_eq_nil_iff]
    intro o ho
    rw [hoptions o ho]
    decide
  have hany : ∀ x, (RuleOption.all.any fun o => o.names.contains name && o.mayBeSet x) = false := by
    intro x
    rw [List.any_eq_false]
    intro o ho
    rw [hoptions o ho, Bool.false_and]
    decide
  constructor
  · simp only [Effect.ofName, if_neg (hne _ (by decide : "document".toList ∈ _)),
      if_neg (hne _ (by decide : "important".toList ∈ _)),
      if_neg (hne _ (by decide : "~important".toList ∈ _)), hfirst, hfilter,
      decide_eq_false (hne _ (by decide : "domain".toList ∈ _)),
      decide_eq_false (hne _ (by decide : "csp".toList ∈ _)),
      decide_eq_false (hne _ (by decide : "badfilter".toList ∈ _))]
    rfl
  · intro x
    simp only [isAcceptable, hany, hfirst, hcommon, Bool.false_or, Bool.or_false]

section Applied

variable [Externals]

/-- A content type, perhaps negated, or an ignored option. -/
theorem applyType_toOption (r : UrlRule) {name : Text} (h : modifiers.lookup name = none)
    (value : Option Text) :
    (r.applyType name).toOption =
      if isAcceptable r.isException name then some (r.affected (Effect.ofName name) value)
      else none := by
  obtain ⟨heffect, hacceptable⟩ := ofName_of_lookup h
  rw [heffect, hacceptable]
  by_cases htilde : name.head? = some '~'
  · -- behind the tilde
    obtain ⟨rest, rfl⟩ : ∃ rest, name = '~' :: rest := by
      cases name with
      | nil => cases htilde
      | cons c rest => exact ⟨rest, by rw [Option.some.inj htilde]⟩
    have hstrip : Text.stripStart? ['~'] ('~' :: rest) = some rest :=
      Text.stripStart?_append ['~'] rest
    have htype : ContentType.ofName? ('~' :: rest) = none := rfl
    simp only [applyType, hstrip, htype, Option.getD_some, Option.bind_some]
    cases ht : ContentType.ofName? rest with
    | some t => simp [affected, unionOf, Except.toOption]
    | none =>
      cases ignoredOptions.contains rest <;> simp [affected, Except.toOption]
  · have hstrip : Text.stripStart? ['~'] name = none := Text.stripStart?_of_head? htilde []
    simp only [applyType, hstrip, Option.getD_none, Option.bind_none, htilde, if_false]
    cases ht : ContentType.ofName? name with
    | some t =>
      by_cases hall : r.permittedTypes = TypeSet.all <;> simp [affected, Except.toOption, hall]
    | none =>
      cases ignoredOptions.contains name <;> simp [affected, Except.toOption]

/-- Apply a modifier with a name and a value. -/
def applyModifier (r : UrlRule) (name : Text) (value : Option Text) :
    Modifier → Except RuleError UrlRule
  | .domain => .ok (value.elim r fun v => { r with scope := r.scope.append (Scope.read v) })
  | .enable options => r.enable name options
  | .disable options => .ok (r.disable options)
  | .important b => .ok { r with isImportant := b }
  | .csp => .ok { r with enabled := r.enabled ||| RuleOption.csp.single, csp := value }
  | .replace => .error .replaceNotSupported
  | .badfilter => .ok { r with badfilter := some (badfilterTarget r.text) }

theorem applyOption_eq (r : UrlRule) (option : Text) :
    r.applyOption option =
      (modifiers.lookup (optionName option)).elim (r.applyType (optionName option))
        (r.applyModifier (optionName option) (optionValue? option)) := by
  unfold applyOption optionName optionValue?
  simp only [enable_csp]
  cases Text.cut? ['='] option with
  | none =>
    dsimp only [Option.elim, Option.map]
    cases modifiers.lookup option.lower with
    | none => rfl
    | some m => cases m <;> rfl
  | some s =>
    dsimp only [Option.elim, Option.map]
    cases modifiers.lookup s.1.lower with
    | none => rfl
    | some m => cases m <;> rfl

/-- One option is applied if it is acceptable, and changes what its name says. -/
theorem applyOption_toOption (r : UrlRule) (option : Text) :
    (r.applyOption option).toOption =
      if isAcceptable r.isException (optionName option) then
        some (r.affected (Effect.ofName (optionName option)) (optionValue? option))
      else none := by
  rw [applyOption_eq]
  cases h : modifiers.lookup (optionName option) with
  | none => exact r.applyType_toOption h (optionValue? option)
  | some m =>
    have hmem := mem_of_lookup h
    rw [effect_modifiers _ hmem, isAcceptable_modifiers _ hmem]
    show (r.applyModifier (optionName option) (optionValue? option) m).toOption = _
    cases m with
    | domain =>
      cases optionValue? option <;> simp [applyModifier, affected, Scope.append, Except.toOption]
    | enable options =>
      rw [applyModifier, enable_toOption]
      simp [affected]
    | disable options => simp [applyModifier, affected, disable, Except.toOption]
    | important b => simp [applyModifier, affected, Except.toOption]
    | csp => simp [applyModifier, affected, Except.toOption]
    | replace => rfl
    | badfilter => simp [applyModifier, affected, Except.toOption]

end Applied

/-! ### Lists of options -/

/-- No name of a content type is that of documents, which sets options. -/
theorem permitted_ne_document (name : Text) : (Effect.ofName name).permitted ≠ some .document := by
  intro h
  have hname : name ≠ "document" := by
    rintro rfl
    cases h
  have htype : ContentType.ofName? name = some .document := by
    rwa [Effect.ofName, if_neg hname] at h
  have hdocument : ∀ p ∈ ContentType.names, p.2 = .document → p.1 = "document" := by decide
  exact hname (hdocument _ (mem_of_lookup htype) rfl)

/-- Content types that are named one by one are never all content types, since documents are not
named. -/
theorem unionOf_typesOf_ne_all (options : List Text) :
    unionOf ((typesOf options).map (·.single)) ≠ TypeSet.all := by
  intro h
  have hbit : TypeSet.all.getLsbD ContentType.document.index = true := rfl
  rw [← h, getLsbD_unionOf, List.any_eq_true] at hbit
  obtain ⟨s, hs, hbit⟩ := hbit
  obtain ⟨t, ht, rfl⟩ := List.mem_map.1 hs
  obtain ⟨e, he, het⟩ := List.mem_filterMap.1 ht
  obtain ⟨o, -, rfl⟩ := List.mem_map.1 he
  have hne : t ≠ .document := by
    rintro rfl
    exact permitted_ne_document _ het
  revert hbit
  cases t <;> first | decide | exact absurd rfl hne

section Concat

variable (options : List Text) (o : Text)

theorem effects_concat :
    effects (options ++ [o]) = effects options ++ [Effect.ofName (optionName o)] := by
  simp [effects]

theorem typesOf_concat :
    typesOf (options ++ [o]) =
      typesOf options ++ (Effect.ofName (optionName o)).permitted.toList := by
  rw [typesOf, effects_concat, List.filterMap_append]
  cases h : (Effect.ofName (optionName o)).permitted <;> simp [typesOf, h]

theorem filter_optionName_concat (name : Text) :
    (options ++ [o]).filter (optionName · = name) =
      options.filter (optionName · = name) ++ if optionName o = name then [o] else [] := by
  by_cases h : optionName o = name <;> simp [h]

variable [Externals]

theorem scopesOf_concat :
    scopesOf (options ++ [o]) =
      scopesOf options ++
        if optionName o = "domain" then ((optionValue? o).map Scope.read).toList else [] := by
  rw [scopesOf, filter_optionName_concat, List.filterMap_append, scopesOf]
  split_ifs
  · cases h : optionValue? o <;> simp [h]
  · rfl

/-- One more option adds to a description what its name says. -/
theorem described_affected (text pattern : Text) :
    (described text pattern options).affected (Effect.ofName (optionName o)) (optionValue? o) =
      described text pattern (options ++ [o]) := by
  have hdomains : (Effect.ofName (optionName o)).holdsDomains = decide (optionName o = "domain") :=
    rfl
  have hpolicy : (Effect.ofName (optionName o)).holdsPolicy = decide (optionName o = "csp") := rfl
  have hcancels : (Effect.ofName (optionName o)).cancels = decide (optionName o = "badfilter") :=
    rfl
  have hdisabled : (Effect.ofName (optionName o)).disabled =
      if firstPartyNames.contains (optionName o) then RuleOption.thirdParty.single
      else OptionSet.empty := rfl
  unfold affected described
  dsimp only
  congr 1
  case e_toRuleHead =>
    rw [scopesOf_concat, hdomains]
    by_cases h : optionName o = "domain"
    · rw [decide_eq_true h, if_pos rfl, if_pos h]
      cases optionValue? o <;> simp [Scope.append]
    · rw [decide_eq_false h, if_neg Bool.false_ne_true, if_neg h, List.append_nil]
  case e_permittedTypes =>
    rw [typesOf_concat]
    -- what is named so far is not taken for all content types
    have hne := unionOf_typesOf_ne_all options
    cases (Effect.ofName (optionName o)).permitted with
    | none => simp
    | some t => by_cases h : typesOf options = [] <;> simp [h, hne, unionOf_append]
  case e_restrictedTypes =>
    rw [effects_concat, List.filterMap_append]
    cases h : (Effect.ofName (optionName o)).restricted <;> simp [h, unionOf_append]
  case e_enabled => simp [effects_concat, unionOf_append]
  case e_disabled =>
    rw [hdisabled, List.any_append, List.any_cons, List.any_nil, Bool.or_false,
      OptionSet.ite_or_ite]
  case e_isImportant =>
    rw [effects_concat, List.filterMap_append]
    cases h : (Effect.ofName (optionName o)).importance <;> simp [h]
  case e_badfilter =>
    rw [hcancels, List.any_append, List.any_cons, List.any_nil, Bool.or_false]
    by_cases h : optionName o = "badfilter"
    · rw [decide_eq_true h, if_pos rfl, Bool.or_true, if_pos rfl]
      rfl
    · rw [decide_eq_false h, Bool.or_false]
      rfl
  case e_csp =>
    rw [hpolicy, filter_optionName_concat]
    by_cases h : optionName o = "csp"
    · rw [decide_eq_true h, if_pos rfl, if_pos h, List.getLast?_concat, Option.bind_some]
    · rw [decide_eq_false h, if_neg Bool.false_ne_true, if_neg h, List.append_nil]

end Concat

/-- Behind some options that were applied, others are applied if all of them are acceptable, and the
rule is described by all of them together. -/
theorem applyAll_described [Externals] (text pattern : Text) (options more : List Text) :
    ((described text pattern options).applyAll more).toOption =
      if more.all fun o => isAcceptable (exceptionSign.isPrefixOf text) (optionName o) then
        some (described text pattern (options ++ more))
      else none := by
  induction more generalizing options with
  | nil => simp [applyAll, Except.toOption]
  | cons o more ih =>
    have hstep := applyOption_toOption (described text pattern options) o
    have hexception : (described text pattern options).isException =
      exceptionSign.isPrefixOf text := rfl
    rw [described_affected, hexception] at hstep
    rw [applyAll, List.all_cons]
    rcases h : (described text pattern options).applyOption o with e | r
    · rw [h] at hstep
      have hrefused : isAcceptable (exceptionSign.isPrefixOf text) (optionName o) = false := by
        by_contra hne
        rw [if_pos (by simpa using hne)] at hstep
        cases hstep
      rw [hrefused]
      rfl
    · rw [h] at hstep
      obtain ⟨hacceptable, hr⟩ := Option.ite_none_right_eq_some.1 hstep.symm
      cases hr
      show (applyAll _ more).toOption = _
      rw [ih (options ++ [o]), hacceptable, Bool.true_and, List.append_assoc, List.singleton_append]

/-! ### The order of options -/

section Order

variable {text text' pattern pattern' : Text} {options options' : List Text}
  (h : options'.Perm options)
include h

theorem effects_perm : (effects options').Perm (effects options) := h.map _

theorem typesOf_perm : (typesOf options').Perm (typesOf options) := (effects_perm h).filterMap _

variable [Externals]

theorem scopesOf_perm : (scopesOf options').Perm (scopesOf options) := (h.filter _).filterMap _

/-- Which sets a rule has, and which domains in some order, does not depend on the order of its
options. -/
theorem described_perm :
    let r := described text pattern options
    let r' := described text' pattern' options'
    r'.permittedTypes = r.permittedTypes ∧ r'.restrictedTypes = r.restrictedTypes ∧
      r'.enabled = r.enabled ∧ r'.disabled = r.disabled ∧
      r'.scope.permitted.Perm r.scope.permitted ∧ r'.scope.restricted.Perm r.scope.restricted := by
  refine ⟨?_, ?_, ?_, ?_, ?_, ?_⟩
  · show (if typesOf options' = [] then _ else _) = if typesOf options = [] then _ else _
    have hnil : typesOf options' = [] ↔ typesOf options = [] := by
      rw [← List.perm_nil, ← List.perm_nil]
      exact ⟨(typesOf_perm h).symm.trans, (typesOf_perm h).trans⟩
    rw [unionOf_perm ((typesOf_perm h).map _)]
    simp only [hnil]
  · exact unionOf_perm (((effects_perm h).filterMap _).map _)
  · exact unionOf_perm ((effects_perm h).map _)
  · show (if options'.any _ then _ else _) = if options.any _ then _ else _
    rw [h.any_eq]
  · exact (scopesOf_perm h).flatMap_right _
  · exact (scopesOf_perm h).flatMap_right _

end Order

/-- **Options say together what their names say, in any order.**  The options of a rule are applied
if and only if each of them is acceptable on its own.  The rule is for the union of the content
types that are named and not negated, or for all of them if there are none, and not for the union of
those that are negated; it has the options that any name sets, and is for loads from the same site
if any name says so; its domains are those of all values in turn; the last names that say so tell
whether it is important, and its policy.  Options in another order, of a rule that is an exception
just if the first one is, are applied or not just as these, and give the same sets, and the same
domains in some order. -/
theorem options_described [Externals] (text pattern options : Text) :
    let tokens := Text.splitEscaped ',' '\\' false options
    let result := ((fresh text pattern).applyOptions options).toOption
    (result =
        if tokens.all fun o => isAcceptable (exceptionSign.isPrefixOf text) (optionName o) then
          some (described text pattern tokens)
        else none) ∧
      ∀ text' pattern' options' : Text,
        exceptionSign.isPrefixOf text' = exceptionSign.isPrefixOf text →
        (Text.splitEscaped ',' '\\' false options').Perm tokens →
          let result' := ((fresh text' pattern').applyOptions options').toOption
          result'.isSome = result.isSome ∧
            ∀ r ∈ result, ∀ r' ∈ result',
              r'.permittedTypes = r.permittedTypes ∧ r'.restrictedTypes = r.restrictedTypes ∧
              r'.enabled = r.enabled ∧ r'.disabled = r.disabled ∧
              r'.scope.permitted.Perm r.scope.permitted ∧
              r'.scope.restricted.Perm r.scope.restricted := by
  intro tokens result
  -- nothing is described by no options
  have happly : ∀ text pattern options : Text,
      ((fresh text pattern).applyOptions options).toOption =
      if (Text.splitEscaped ',' '\\' false options).all fun o =>
          isAcceptable (exceptionSign.isPrefixOf text) (optionName o) then
        some (described text pattern (Text.splitEscaped ',' '\\' false options))
      else none := fun text pattern options => applyAll_described text pattern [] _
  refine ⟨happly text pattern options, fun text' pattern' options' hx hperm => ?_⟩
  intro result'
  have hresult : result = _ := happly text pattern options
  have hresult' : result' = _ := happly text' pattern' options'
  rw [hx, hperm.all_eq] at hresult'
  rw [hresult, hresult']
  split_ifs
  · refine ⟨rfl, fun r hr r' hr' => ?_⟩
    cases hr
    cases hr'
    exact described_perm hperm
  · exact ⟨rfl, fun r hr => by cases hr⟩

/-- Options that are reordered give the same content types, and the same domains in another
order. -/
theorem options_described_reordered :
    let options : Text := "image,domain=a.org,font,domain=b.org"
    let options' : Text := "font,domain=b.org,image,domain=a.org"
    let result := ((fresh "||ads.org^" "||ads.org^").applyOptions options).toOption
    let result' := ((fresh "||ads.org^" "||ads.org^").applyOptions options').toOption
    (Text.splitEscaped ',' '\\' false options').Perm (Text.splitEscaped ',' '\\' false options) ∧
      ∃ r r', result = some r ∧ result' = some r' ∧
        r.permittedTypes = ContentType.image.single ||| ContentType.font.single ∧
        r'.permittedTypes = r.permittedTypes ∧ r'.scope.permitted.Perm r.scope.permitted ∧
        r'.scope.permitted ≠ r.scope.permitted := by
  intro options options' result result'
  have hperm : (Text.splitEscaped ',' '\\' false options').Perm
      (Text.splitEscaped ',' '\\' false options) := by
    decide +kernel
  have htypes : result.map (·.permittedTypes) =
      some (ContentType.image.single ||| ContentType.font.single) := by
    decide +kernel
  have hscopes : result'.map (·.scope.permitted) ≠ result.map (·.scope.permitted) := by
    decide +kernel
  obtain ⟨-, hreordered⟩ := options_described "||ads.org^" "||ads.org^" options
  obtain ⟨hsome, hsame⟩ := hreordered "||ads.org^" "||ads.org^" options' rfl hperm
  obtain ⟨r, hr, htype⟩ := Option.map_eq_some_iff.1 htypes
  rw [show ((fresh _ _).applyOptions options).toOption = some r from hr] at hsome
  obtain ⟨r', hr'⟩ := Option.isSome_iff_exists.1 hsome
  obtain ⟨htype', -, -, -, hscope, -⟩ := hsame r hr r' hr'
  refine ⟨hperm, r, r', hr, hr', htype, htype', hscope, fun heq => hscopes ?_⟩
  rw [hr, show result' = some r' from hr']
  exact congrArg some heq

end UrlRule
end ContentBlocker
