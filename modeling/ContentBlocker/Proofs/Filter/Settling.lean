import ContentBlocker.Proofs.Filter.Marks

/-!
# Normalizing again

Normalizing takes one mark out of a rule at a time, so a rule with a single mark is normalized at
once, and a rule with several is after some rounds.

* `IsCommon` says that a rule is in the common form;
* `normalize_step` says what normalizing makes of a rule that is not;
* `isCommon_of_mem_normalize` follows a rule with a single mark;
* `rank_lt` is the measure that every round makes smaller, and `isCommon_of_mem_rounds` follows a
  rule through the rounds.
-/

namespace ContentBlocker.Dialect

open Text

/-! ### One round -/

/-- No rewriting applies to the rule. -/
structure IsCommon (rule : Text) : Prop where
  scriptletCall : scriptletCall? rule = none
  snippets : snippets? rule = none
  scriptContents : scriptContents? rule = none
  allTypes : allTypes? rule = none

/-- A rule in the common form stands for itself. -/
theorem IsCommon.normalize_eq {t : Text} (h : IsCommon t) : normalize t = [t] := by
  rw [normalize, h.scriptletCall, h.snippets, h.scriptContents, h.allTypes]
  rfl

/-- The rule `u` is what is left of the rule `t` for the expressions in it. -/
structure LeavesExpressions (t u : Text) : Prop where
  rewritten : scriptContents? t ≠ none
  settled : scriptContents? u = none
  le : ∀ m ∈ marks, markPlaces m u ≤ markPlaces m t
  sign : 0 < markPlaces scriptSign u

theorem scriptContents?_step {t : Text} {us : List Text} (h : scriptContents? t = some us) :
    us ≠ [] ∧ ∀ u ∈ us, Spends scriptSign t u ∨ LeavesExpressions t u := by
  obtain ⟨domains, chain, conditions, hcut, hnone, hplaces, hne, rfl⟩ := scriptContents?_eq_some h
  have ht := eq_append_of_cut? hcut
  refine ⟨by simp [hne], fun u hu => ?_⟩
  rcases List.mem_append.1 hu with hu | hu
  · obtain ⟨c, hc, rfl⟩ := List.mem_map.1 hu
    have hmem : c ∈ conditions := List.mem_of_mem_filter hc
    exact .inl (contentRule_spends ht fun m _ => (places_le_placesIn hmem).trans (hplaces m))
  · split_ifs at hu with hempty
    · cases hu
    · obtain rfl := List.mem_singleton.1 hu
      have hregexes : conditions.filter isRegexCondition ≠ [] := by simpa using hempty
      have hfewer : ∀ m, placesIn m (conditions.filter isRegexCondition) ≤ places m chain :=
        fun m => (placesIn_le_of_sublist List.filter_sublist).trans (hplaces m)
      obtain ⟨hle, hsign⟩ := regexRule_keeps ht hregexes hfewer
      have hsettled := scriptContents?_regexRule hcut
        (fun c hc => hnone c (List.mem_of_mem_filter hc)) fun c hc => List.of_mem_filter hc
      exact .inr ⟨by simp [h], hsettled, hle, hsign⟩

/-- Normalizing a rule that is not in the common form gives some rules.  Each of them has one mark
less, which is one of another dialect unless the rule is on the text of scripts; or it is left for
the expressions in a rule on the text of scripts. -/
theorem normalize_step {t : Text} (h : ¬IsCommon t) :
    normalize t ≠ [] ∧ ∀ u ∈ normalize t,
      (∃ m, Spends m t u ∧ (scriptContents? t = none → m ∈ otherMarks)) ∨
        LeavesExpressions t u := by
  rcases h₁ : scriptletCall? t with _ | u
  · rcases h₂ : snippets? t with _ | us
    · rcases h₃ : scriptContents? t with _ | us
      · rcases h₄ : allTypes? t with _ | us
        · exact absurd ⟨h₁, h₂, h₃, h₄⟩ h
        · have hus : normalize t = us := by simp [normalize, h₁, h₂, h₃, h₄]
          obtain ⟨hne, m, hm, hspends⟩ := allTypes?_spends h₄
          rw [hus]
          exact ⟨hne, fun u hu => .inl ⟨m, hspends u hu, fun _ => hm⟩⟩
      · have hus : normalize t = us := by simp [normalize, h₁, h₂, h₃]
        obtain ⟨hne, hstep⟩ := scriptContents?_step h₃
        rw [hus]
        exact ⟨hne, fun u hu => (hstep u hu).imp_left fun hs => ⟨_, hs, nofun⟩⟩
    · have hus : normalize t = us := by simp [normalize, h₁, h₂]
      obtain ⟨hne, m, hm, hspends⟩ := snippets?_spends h₂
      rw [hus]
      exact ⟨hne, fun u hu => .inl ⟨m, hspends u hu, fun _ => hm⟩⟩
  · have hus : normalize t = [u] := by simp [normalize, h₁]
    obtain ⟨m, hm, hspends⟩ := scriptletCall?_spends h₁
    rw [hus]
    refine ⟨by simp, fun v hv => .inl ⟨m, ?_, fun _ => hm⟩⟩
    rwa [List.mem_singleton.1 hv]

theorem normalize_ne_nil (t : Text) : normalize t ≠ [] := by
  by_cases h : IsCommon t
  · simp [h.normalize_eq]
  · exact (normalize_step h).1

/-! ### Marks that are left -/

theorem markCount_eq (t : Text) :
    markCount t = markPlaces scriptSign t + (otherMarks.map (markPlaces · t)).sum := by
  rw [markCount, marks, List.map_cons, List.sum_cons]

theorem markCount_le {t u : Text} (h : ∀ m ∈ marks, markPlaces m u ≤ markPlaces m t) :
    markCount u ≤ markCount t :=
  List.sum_le_sum h

/-- A rule that is not in the common form, but is no rule on the text of scripts, has a mark of
another dialect. -/
theorem exists_otherMark {t : Text} (h : ¬IsCommon t) (hs : scriptContents? t = none) :
    ∃ m ∈ otherMarks, 0 < markPlaces m t := by
  obtain ⟨hne, hstep⟩ := normalize_step h
  obtain ⟨u, hu⟩ := List.exists_mem_of_ne_nil _ hne
  rcases hstep u hu with ⟨m, hspends, hm⟩ | hl
  · exact ⟨m, hm hs, Nat.zero_lt_of_lt hspends.lt⟩
  · exact absurd hs hl.rewritten

/-- A rule without marks is in the common form. -/
theorem isCommon_of_markCount {t : Text} (h : markCount t = 0) : IsCommon t := by
  by_contra hcommon
  obtain ⟨hne, hstep⟩ := normalize_step hcommon
  obtain ⟨u, hu⟩ := List.exists_mem_of_ne_nil _ hne
  rcases hstep u hu with ⟨m, hs, -⟩ | hl
  · have := hs.markCount_lt
    omega
  · have hle := markCount_le hl.le
    have hsign := hl.sign
    have hcount := markCount_eq u
    omega

/-- What is left for the expressions in a rule is in the common form, unless there is another
mark. -/
theorem LeavesExpressions.isCommon {t u : Text} (h : LeavesExpressions t u)
    (ht : markCount t ≤ 1) : IsCommon u := by
  by_contra hcommon
  obtain ⟨m, hm, hpos⟩ := exists_otherMark hcommon h.settled
  have hle := markCount_le h.le
  have hsign := h.sign
  have hcount := markCount_eq u
  have hother : markPlaces m u ≤ (otherMarks.map (markPlaces · u)).sum :=
    List.single_le_sum (by simp) _ (List.mem_map_of_mem hm)
  omega

/-- A rule with a single mark is normalized at once. -/
theorem isCommon_of_mem_normalize {t u : Text} (ht : markCount t ≤ 1) (hu : u ∈ normalize t) :
    IsCommon u := by
  by_cases h : IsCommon t
  · rw [h.normalize_eq, List.mem_singleton] at hu
    rwa [hu]
  · rcases (normalize_step h).2 u hu with ⟨m, hs, -⟩ | hl
    · have := hs.markCount_lt
      exact isCommon_of_markCount (by omega)
    · exact hl.isCommon ht

/-! ### Rounds -/

/-- The rules after some rounds of normalizing. -/
def rounds : ℕ → Text → List Text
  | 0, t => [t]
  | n + 1, t => (normalize t).flatMap (rounds n)

theorem rounds_of_isCommon {t : Text} (h : IsCommon t) (n : ℕ) : rounds n t = [t] := by
  induction n with
  | zero => rfl
  | succ n ih => rw [rounds, h.normalize_eq, List.flatMap_singleton, ih]

/-- The measure of rounds: a rule that is left for expressions may have all marks of the one it came
from, but is not rewritten in that way again. -/
def rank (t : Text) : ℕ := 2 * markCount t - if scriptContents? t = none then 1 else 0

theorem rank_lt {t u : Text} (h : ¬IsCommon t) (hu : u ∈ normalize t) : rank u < rank t := by
  have hpos : markCount t ≠ 0 := fun h0 => h (isCommon_of_markCount h0)
  rcases (normalize_step h).2 u hu with ⟨m, hs, -⟩ | hl
  · have hlt := hs.markCount_lt
    unfold rank
    split_ifs <;> omega
  · -- the marks may be the same, but the rewriting that left them applies no more
    have hle := markCount_le hl.le
    have hsign := hl.sign
    have hcount := markCount_eq u
    rw [rank, rank, if_pos hl.settled, if_neg hl.rewritten]
    omega

/-- After as many rounds as the measure counts, all rules are in the common form. -/
theorem isCommon_of_mem_rounds {n : ℕ} {t u : Text} (hn : rank t ≤ n) (hu : u ∈ rounds n t) :
    IsCommon u := by
  induction n generalizing t with
  | zero =>
    obtain rfl : u = t := List.mem_singleton.1 hu
    by_contra h
    obtain ⟨v, hv⟩ := List.exists_mem_of_ne_nil _ (normalize_step h).1
    have := rank_lt h hv
    omega
  | succ n ih =>
    by_cases h : IsCommon t
    · rw [rounds_of_isCommon h, List.mem_singleton] at hu
      rwa [hu]
    · obtain ⟨v, hv, hu⟩ := List.mem_flatMap.1 hu
      have := rank_lt h hv
      exact ih (by omega) hu

end ContentBlocker.Dialect
