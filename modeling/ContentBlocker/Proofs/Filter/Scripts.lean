import ContentBlocker.Filter.Marker
import ContentBlocker.Proofs.Filter.Common

/-!
# Script rules and dialects

The marker of a script rule stands at the first `#`, but the rewritings look for their signs in the
whole rule, the script included.

* `IsScriptFront` is what stands before the last `#` of such a marker, and `noneBegins_front` says
  that no sign begins in it;
* `holdsCall_front`, `holdsSnippets_front` and `holdsContents_front` say that what counts for three of
  the rewritings is the script;
* `normalize_script_iff` tells the script rules that stand for themselves.
-/

namespace ContentBlocker.Dialect

open Text

/-! ### In front of scripts -/

/-- What stands in front of the last character of the marker of a script rule. -/
def IsScriptFront (front : Text) : Prop :=
  ∃ before mark, '#' ∉ before ∧ mark ∈ ["%".toList, "@%".toList] ∧ front = before ++ '#' :: mark

/-- The signs that the rewritings look for. -/
def signs : List Text := ["##+js(", "#@#+js(", "#$#", "#@$#", scriptSign]

/-- No sign begins in a mark that is no start of it, and that holds its first character once. -/
theorem noneBegins_mark {p : Text} {c : Char} {mark : Text} (hhead : p.head? = some c)
    (hstart : ¬c :: mark <+: p) (hlength : mark.length < p.length) (hc : c ∉ mark) :
    NoneBegins p (c :: mark) := by
  refine ⟨fun t hp => hstart ?_, noneBegins_of_head? (List.length_pos_iff.1 (by omega)) ?_⟩
  · exact List.prefix_of_prefix_length_le (List.prefix_append (c :: mark) t) hp hlength
  · intro d hd h
    rw [hhead] at h
    cases h
    exact hc hd

theorem noneBegins_front {front p : Text} (h : IsScriptFront front) (hp : p ∈ signs) :
    NoneBegins p front := by
  have hsigns : ∀ p ∈ signs, p.head? = some '#' ∧ p ≠ [] := by decide
  have hmarks : ∀ p ∈ signs, ∀ mark ∈ ["%".toList, "@%".toList],
      ¬('#' :: mark) <+: p ∧ mark.length < p.length ∧ '#' ∉ mark := by
    decide
  obtain ⟨before, mark, hbefore, hmem, rfl⟩ := h
  obtain ⟨hhead, hne⟩ := hsigns p hp
  obtain ⟨hstart, hlength, hmark⟩ := hmarks p hp mark hmem
  refine NoneBegins.append (noneBegins_of_head? hne fun c hc hpc => hbefore ?_)
    (noneBegins_mark hhead hstart hlength hmark)
  rw [hhead] at hpc
  cases hpc
  exact hc

/-! ### What counts for the rewritings -/

section Front

variable {front : Text} (h : IsScriptFront front)
include h

theorem isBehindSign_front {sign exceptionSign t after : Text} (hs : sign ∈ signs)
    (he : exceptionSign ∈ signs) :
    IsBehindSign sign exceptionSign (front ++ t) after ↔
      IsBehindSign sign exceptionSign t after := by
  have hne : ∀ p ∈ signs, p ≠ [] := by decide
  have hsign := noneBegins_front h hs
  have hexception := noneBegins_front h he
  rw [IsBehindSign, IsBehindSign, hsign.isFirst_append_iff (hne _ hs), hsign.infix_append_iff,
    hexception.isFirst_append_iff (hne _ he)]

theorem holdsCall_front {t : Text} : HoldsCall (front ++ t) ↔ HoldsCall t := by
  simp only [HoldsCall,
    isBehindSign_front h (by decide : "##+js(".toList ∈ signs) (by decide : "#@#+js(".toList ∈ signs)]

/-- No style begins in front of a script. -/
theorem hasStyle_front (t : Text) : hasStyle (front ++ t) = hasStyle t := by
  have hskip : ∀ s, NoneBegins "#$#" s → NoneBegins "#@$#" s → hasStyle (s ++ t) = hasStyle t := by
    intro s hs he
    induction s with
    | nil => rfl
    | cons c s ih =>
      have hnone : ∀ p : Text, ¬p <+: c :: (s ++ t) → stripStart? p (c :: (s ++ t)) = none := by
        intro p hp
        rw [stripStart?, if_neg (by rwa [List.isPrefixOf_iff_prefix])]
      rw [List.cons_append, hasStyle, hnone _ (hs.1 t), hnone _ (he.1 t), ih hs.2 he.2]
      rfl
  exact hskip front (noneBegins_front h (by decide)) (noneBegins_front h (by decide))

theorem isStyleRule_front {t : Text} (ht : ¬IsGap t) :
    isStyleRule (front ++ t) = isStyleRule t := by
  have hend : trimEnd t ≠ [] := mt trimEnd_eq_nil_iff.1 ht
  rw [isStyleRule, isStyleRule, trimEnd_append ht, stripEnd?_append_of_ne_nil hend, Option.any_map]
  congr 1
  exact funext (hasStyle_front h)

theorem holdsSnippets_front {t : Text} (ht : ¬IsGap t) :
    HoldsSnippets (front ++ t) ↔ HoldsSnippets t := by
  simp only [HoldsSnippets, isStyleRule_front h ht,
    isBehindSign_front h (by decide : "#$#".toList ∈ signs) (by decide : "#@$#".toList ∈ signs)]

theorem holdsContents_front {t : Text} : HoldsContents (front ++ t) ↔ HoldsContents t := by
  have hfirst : ∀ chain, (∃ before, IsFirst scriptSign (front ++ t) before chain) ↔
      ∃ before, IsFirst scriptSign t before chain := fun _ =>
    (noneBegins_front h (by decide)).isFirst_append_iff (by decide)
  constructor
  · rintro ⟨before, conditions, hbefore, hconditions⟩
    obtain ⟨before, hbefore⟩ := (hfirst _).1 ⟨before, hbefore⟩
    exact ⟨before, conditions, hbefore, hconditions⟩
  · rintro ⟨before, conditions, hbefore, hconditions⟩
    obtain ⟨before, hbefore⟩ := (hfirst _).2 ⟨before, hbefore⟩
    exact ⟨before, conditions, hbefore, hconditions⟩

end Front

/-! ### Script rules -/

/-- A script rule taken apart in front of the last character of its marker. -/
theorem exists_scriptFront {rule before script : Text} {m : Marker}
    (h : Marker.split? rule = some (before, m, script)) (hm : m.kind = .script) :
    ∃ front, IsScriptFront front ∧ rule = front ++ '#' :: script := by
  obtain ⟨m, hstart, heq⟩ := Option.map_eq_some_iff.1 h
  cases heq
  have hmark : ∀ m ∈ Marker.all, m.kind = .script →
      ∃ mark ∈ ["%".toList, "@%".toList], m.text = '#' :: (mark ++ ['#']) := by
    decide
  obtain ⟨mark, hmem, htext⟩ := hmark m (List.mem_of_find?_eq_some hstart) hm
  have hprefix : m.text.isPrefixOf (rule.dropWhile (· ≠ '#')) = true := by
    unfold Marker.atStart? at hstart
    simpa using List.find?_some hstart
  obtain ⟨script, hrest⟩ := List.isPrefixOf_iff_prefix.1 hprefix
  refine ⟨rule.takeWhile (· ≠ '#') ++ '#' :: mark, ⟨_, mark, ?_, hmem, rfl⟩, ?_⟩
  · intro hhash
    have hne := List.mem_takeWhile_imp hhash
    simp at hne
  · rw [← hrest, List.drop_left]
    calc rule = rule.takeWhile (· ≠ '#') ++ rule.dropWhile (· ≠ '#') :=
          List.takeWhile_append_dropWhile.symm
      _ = _ := by rw [← hrest, htext]; simp

/-- **Script rules and the signs of dialects.**  A rule with the marker of script rules stands for
itself just if no rewriting finds what it looks for.  Three of the rewritings look into the script
alone, behind the last character of the marker, for a sign of another dialect with something to
rewrite behind it.  The fourth looks for the last unescaped dollar sign of the rule, wherever it
stands, and for the option that stands for others among the texts between the commas behind it. -/
theorem normalize_script_iff {rule before script : Text} {m : Marker}
    (h : Marker.split? rule = some (before, m, script)) (hm : m.kind = .script) :
    normalize rule = [rule] ↔
      ¬HoldsCall ('#' :: script) ∧ ¬HoldsSnippets ('#' :: script) ∧
        ¬HoldsContents ('#' :: script) ∧ ¬HoldsAll rule := by
  obtain ⟨front, hfront, hrule⟩ := exists_scriptFront h hm
  have hblank : ¬IsGap ('#' :: script) := fun h => absurd (h '#' List.mem_cons_self) (by decide)
  have hcall : HoldsCall rule ↔ HoldsCall ('#' :: script) := by
    rw [hrule, holdsCall_front hfront]
  have hsnippets : HoldsSnippets rule ↔ HoldsSnippets ('#' :: script) := by
    rw [hrule, holdsSnippets_front hfront hblank]
  have hcontents : HoldsContents rule ↔ HoldsContents ('#' :: script) := by
    rw [hrule, holdsContents_front hfront]
  rw [normalize_eq_self_iff, isCommon_iff, hcall, hsnippets, hcontents]

/-- A call stands for itself that holds a sign with a blank name behind it, and the option behind a
dollar sign, in quotation marks. -/
theorem normalize_script_iff_call :
    let rule : Text := "a.org#@%#//scriptlet('log', '##+js( , b', '$all', 'all')"
    normalize rule = [rule] := by
  intro rule
  have hsplit : Marker.split? rule =
      some ("a.org".toList, ⟨"#@%#".toList, .script, true, false, false⟩,
        "//scriptlet('log', '##+js( , b', '$all', 'all')".toList) := rfl
  refine (normalize_script_iff hsplit rfl).2 ⟨?_, ?_, ?_, ?_⟩
  · exact scriptletCall?_eq_none_iff.1 (by decide +kernel)
  · exact snippets?_eq_none_iff.1 (by decide +kernel)
  · exact scriptContents?_eq_none_iff.1 (by decide +kernel)
  · exact allTypes?_eq_none_iff.1 (by decide +kernel)

/-- A script that holds a dollar sign, and the option between commas behind it, is written twice with
other texts in place of the option. -/
theorem normalize_script_iff_repeated :
    let rule : Text := "example.org#%#log($x,all,y)"
    ∃ before m script, Marker.split? rule = some (before, m, script) ∧ m.kind = .script ∧
      normalize rule =
        ["example.org#%#log($x,document,y)".toList, "example.org#%#log($x,popup,y)".toList] ∧
      normalize rule ≠ [rule] := by
  refine ⟨_, _, _, rfl, rfl, ?_, ?_⟩ <;> decide +kernel

end ContentBlocker.Dialect
