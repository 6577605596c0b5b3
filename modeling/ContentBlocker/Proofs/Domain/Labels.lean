import ContentBlocker.Proofs.Domain.AsciiHosts
import ContentBlocker.Proofs.Domain.HostNames
import ContentBlocker.Proofs.Text.Splitting

/-!
# Labels of host names

A host name is a sequence of labels with dots between them.  The check of host names does not go
label by label: it looks at the characters, and at the two ends of what stands before the last dot.

* `labels` are the parts between the dots, and `IsPlainHost` says what those of a host name are like;
* `HasLooseEnd` says where this goes wrong: an empty label, or a hyphen at an end of a label;
* `forall_labels_iff` finds the ends of all labels in the whole domain;
* `hostOf?_labels`: the domain of a pattern is a plain host name just if it has no loose end, and the
  pattern is its anchor, the host and the path.
-/

namespace ContentBlocker

namespace Domain

/-! ### Plain host names -/

/-- The parts of a domain between its dots. -/
def labels (domain : Text) : List Text := domain.splitOn '.'

/-- A character of a label in lower case: an ASCII letter, a digit or a hyphen. -/
def isLowerLabelChar (c : Char) : Bool := c.isLower || c.isDigit || c = '-'

/-- The text starts with a letter or a digit. -/
def startsPlain (t : Text) : Bool := t.head?.any Char.isAlphanum

/-- The text ends with a letter or a digit. -/
def endsPlain (t : Text) : Bool := t.getLast?.any Char.isAlphanum

/-- There are two labels at least, of letters in lower case, digits and hyphens, and the last one has
two characters at least. -/
structure HasLabels (domain : Text) : Prop where
  two : 2 ≤ (labels domain).length
  chars : ∀ l ∈ labels domain, ∀ c ∈ l, isLowerLabelChar c = true
  top : ∀ l, (labels domain).getLast? = some l → 2 ≤ l.length

/-- Besides, no label is empty, all of them start and end with a letter or a digit, and the last one
holds a letter. -/
structure IsPlainHost (domain : Text) : Prop extends HasLabels domain where
  starts : ∀ l ∈ labels domain, startsPlain l = true
  ends : ∀ l ∈ labels domain, endsPlain l = true
  letter : ∀ l, (labels domain).getLast? = some l → ∃ c ∈ l, c.isLower = true

/-- Two signs that leave a label empty or put a hyphen at one of its ends. -/
def looseSigns : List Text := ["..", ".-", "-."]

/-- Somewhere behind the start, a label is empty or has a hyphen at one of its ends. -/
def HasLooseEnd (domain : Text) : Prop :=
  (∃ p ∈ looseSigns, p <:+: domain) ∨ domain.getLast? = some '-'

/-! ### Where labels stand -/

theorem labels_append (s u : Text) : labels (s ++ '.' :: u) = labels s ++ labels u :=
  List.splitOn_append_cons_self s u

theorem exists_label_head {c : Char} (hc : c ≠ '.') (u : Text) :
    ∃ l ∈ labels (c :: u), l.head? = some c := by
  obtain ⟨rest, hrest⟩ := Text.splitOn_eq_cons '.' (c :: u)
  refine ⟨(c :: u).takeWhile (· ≠ '.'), ?_, by simp [hc]⟩
  rw [labels, hrest]
  exact List.mem_cons_self

theorem exists_label_getLast {c : Char} (hc : c ≠ '.') (s : Text) :
    ∃ l ∈ labels (s ++ [c]), l.getLast? = some c := by
  by_cases hdot : '.' ∈ s
  · -- behind the last dot
    obtain ⟨u, v, hv, huv⟩ := List.eq_append_cons_of_mem (List.mem_reverse.2 hdot)
    have hs : s = v.reverse ++ '.' :: u.reverse := by
      rw [← List.reverse_reverse s, hv]
      simp
    have hnone : '.' ∉ u.reverse ++ [c] := by simp [huv, Ne.symm hc]
    refine ⟨u.reverse ++ [c], ?_, by simp⟩
    rw [hs, List.append_assoc, List.cons_append, labels_append, labels.eq_def (_ ++ [c]),
      List.splitOn_eq_singleton hnone]
    simp
  · have hnone : '.' ∉ s ++ [c] := by simp [hdot, Ne.symm hc]
    exact ⟨s ++ [c], by simp [labels, List.splitOn_eq_singleton hnone], by simp⟩

/-- A label stands between two dots, or at an end of the domain. -/
theorem exists_place_of_mem_labels {d l : Text} (h : l ∈ labels d) :
    ∃ s u, d = s ++ (l ++ u) ∧ (s = [] ∨ s.getLast? = some '.') ∧ (u = [] ∨ u.head? = some '.') := by
  obtain ⟨before, after, hsplit⟩ := List.append_of_mem h
  have hd : d = before.flatMap (· ++ ['.']) ++ (l ++ after.flatMap ('.' :: ·)) := by
    rw [← Text.intercalate_append_cons, ← hsplit, labels, List.intercalate_splitOn]
  refine ⟨_, _, hd, ?_, ?_⟩
  · rcases List.eq_nil_or_concat' before with rfl | ⟨bs, b, rfl⟩
    · exact .inl rfl
    · exact .inr (by simp)
  · rcases after with _ | ⟨a, as⟩
    · exact .inl rfl
    · exact .inr (by simp)

theorem notMem_of_mem_labels {d l : Text} (h : l ∈ labels d) : '.' ∉ l := by
  induction d generalizing l with
  | nil =>
    obtain rfl : l = [] := by simpa [labels] using h
    simp
  | cons c d ih =>
    rw [labels, List.splitOn_cons_eq_if_modifyHead] at h
    split_ifs at h with hc
    · rcases List.mem_cons.1 h with rfl | h
      · simp
      · exact ih h
    · obtain ⟨m, ms, hms⟩ := List.exists_cons_of_ne_nil (List.splitOn_ne_nil '.' d)
      rw [labels, hms] at ih
      rw [hms, List.modifyHead_cons] at h
      rcases List.mem_cons.1 h with rfl | h
      · have hdot : '.' ≠ c := Ne.symm (by simpa using hc)
        simpa [hdot] using ih List.mem_cons_self
      · exact ih (List.mem_cons_of_mem _ h)

/-! ### The ends of labels -/

theorem isAlphanum_of_isLower {c : Char} (h : c.isLower = true) : c.isAlphanum = true :=
  Bool.or_eq_true_iff.2 (.inl (Bool.or_eq_true_iff.2 (.inr h)))

theorem isAlphanum_or_of_isLowerLabelChar {c : Char} (h : isLowerLabelChar c = true) :
    c.isAlphanum = true ∨ c = '-' := by
  simp only [isLowerLabelChar, Bool.or_eq_true, decide_eq_true_eq] at h
  rcases h with (h | h) | h
  · exact .inl (isAlphanum_of_isLower h)
  · exact .inl (by simp [Char.isAlphanum, h])
  · exact .inr h

section Ends

variable {d : Text}

theorem startsPlain_of_labels (h : ∀ l ∈ labels d, startsPlain l = true) : startsPlain d = true := by
  rcases d with _ | ⟨c, u⟩
  · exact h [] (by simp [labels])
  · by_cases hc : c = '.'
    · have hnil : [] ∈ labels (c :: u) := by
        rw [hc, ← List.nil_append ('.' :: u), labels_append]
        simp [labels]
      exact absurd (h [] hnil) (by decide)
    · obtain ⟨l, hl, hhead⟩ := exists_label_head hc u
      simpa [startsPlain, hhead] using h l hl

theorem endsPlain_of_labels (h : ∀ l ∈ labels d, endsPlain l = true) : endsPlain d = true := by
  rcases List.eq_nil_or_concat' d with rfl | ⟨s, c, rfl⟩
  · exact h [] (by simp [labels])
  · by_cases hc : c = '.'
    · have hnil : [] ∈ labels (s ++ [c]) := by
        rw [hc, labels_append]
        simp [labels]
      exact absurd (h [] hnil) (by decide)
    · obtain ⟨l, hl, hlast⟩ := exists_label_getLast hc s
      simpa [endsPlain, hlast] using h l hl

/-- Beside a dot stand the ends of two labels. -/
theorem ends_of_labels (h : ∀ l ∈ labels d, startsPlain l = true ∧ endsPlain l = true) {s u : Text}
    (hd : d = s ++ '.' :: u) : endsPlain s = true ∧ startsPlain u = true := by
  rw [hd, labels_append, List.forall_mem_append] at h
  exact ⟨endsPlain_of_labels fun l hl => (h.1 l hl).2,
    startsPlain_of_labels fun l hl => (h.2 l hl).1⟩

theorem not_looseSign_of_labels (h : ∀ l ∈ labels d, startsPlain l = true ∧ endsPlain l = true)
    {p : Text} (hp : p ∈ looseSigns) : ¬p <:+: d := by
  rintro ⟨s, u, hd⟩
  simp only [looseSigns, List.mem_cons, List.not_mem_nil, or_false] at hp
  rcases hp with rfl | rfl | rfl
  · have hends := ends_of_labels h (s := s) (u := '.' :: u) (by simp [← hd])
    exact absurd hends.2 (by simp [startsPlain])
  · have hends := ends_of_labels h (s := s) (u := '-' :: u) (by simp [← hd])
    exact absurd hends.2 (by simp [startsPlain])
  · have hends := ends_of_labels h (s := s ++ ['-']) (u := u) (by simp [← hd])
    exact absurd hends.1 (by simp [endsPlain])

section Whole

variable (hstart : startsPlain d = true) (hend : endsPlain d = true)
  (hloose : ∀ p ∈ looseSigns, ¬p <:+: d)
include hstart hend hloose

theorem nil_notMem_labels : [] ∉ labels d := by
  intro hnil
  obtain ⟨s, u, rfl, hs, hu⟩ := exists_place_of_mem_labels hnil
  rcases hs with rfl | hs
  · rcases hu with rfl | hu
    · cases hstart
    · simp [startsPlain, hu] at hstart
  · rcases hu with rfl | hu
    · simp [endsPlain, hs] at hend
    · obtain ⟨s, rfl⟩ := List.getLast?_eq_some_iff.1 hs
      obtain ⟨u, rfl⟩ := List.head?_eq_some_iff.1 hu
      exact hloose ['.', '.'] (by decide) ⟨s, u, by simp⟩

theorem ends_of_mem_labels (hchars : ∀ c ∈ d, isLowerLabelChar c = true ∨ c = '.') {l : Text}
    (hl : l ∈ labels d) : startsPlain l = true ∧ endsPlain l = true := by
  have hne : l ≠ [] := by
    rintro rfl
    exact nil_notMem_labels hstart hend hloose hl
  have hdot := notMem_of_mem_labels hl
  obtain ⟨s, u, rfl, hs, hu⟩ := exists_place_of_mem_labels hl
  have hplain : ∀ c ∈ l, c.isAlphanum = true ∨ c = '-' := by
    intro c hc
    have hlabel := (hchars c (by simp [hc])).resolve_right (ne_of_mem_of_not_mem hc hdot)
    exact isAlphanum_or_of_isLowerLabelChar hlabel
  constructor
  · obtain ⟨c, v, rfl⟩ := List.exists_cons_of_ne_nil hne
    rcases hplain c (by simp) with hc | rfl
    · simpa [startsPlain] using hc
    · rcases hs with rfl | hs
      · simp [startsPlain] at hstart
      · obtain ⟨s, rfl⟩ := List.getLast?_eq_some_iff.1 hs
        exact absurd ⟨s, v ++ u, by simp⟩ (hloose ['.', '-'] (by decide))
  · obtain ⟨v, c, rfl⟩ := (List.eq_nil_or_concat' l).resolve_left hne
    rcases hplain c (by simp) with hc | rfl
    · simpa [endsPlain] using hc
    · rcases hu with rfl | hu
      · simp [endsPlain] at hend
      · obtain ⟨u, rfl⟩ := List.head?_eq_some_iff.1 hu
        exact absurd ⟨s ++ v, u, by simp⟩ (hloose ['-', '.'] (by decide))

end Whole

/-- The ends of all labels, seen in the whole domain. -/
theorem forall_labels_iff (hchars : ∀ c ∈ d, isLowerLabelChar c = true ∨ c = '.') :
    (∀ l ∈ labels d, startsPlain l = true ∧ endsPlain l = true) ↔
      startsPlain d = true ∧ endsPlain d = true ∧ ∀ p ∈ looseSigns, ¬p <:+: d := by
  constructor
  · intro h
    exact ⟨startsPlain_of_labels fun l hl => (h l hl).1, endsPlain_of_labels fun l hl => (h l hl).2,
      fun p hp => not_looseSign_of_labels h hp⟩
  · rintro ⟨hstart, hend, hloose⟩ l hl
    exact ends_of_mem_labels hstart hend hloose hchars hl

end Ends

/-! ### Host names in lower case -/

/-- What is left of a host name in lower case: a text in front of the last dot, and one behind it. -/
structure AreHostParts (front top : Text) : Prop where
  chars : ∀ c ∈ front, isLowerLabelChar c = true ∨ c = '.'
  starts : startsPlain front = true
  ends : endsPlain front = true
  letters : ∀ c ∈ top, c.isLower = true ∨ c = '-'
  long : 2 ≤ top.length

theorem toLower_hostChar {c : Char} (h : isHostChar c = true) :
    (isLowerLabelChar c.toLower = true ∨ c.toLower = '.') ∧
      (c.isAlphanum = true → c.toLower.isAlphanum = true) ∧
      (c.isAlpha = true ∨ c = '-' → c.toLower.isLower = true ∨ c.toLower = '-') :=
  forall_isHostChar (p := fun c => (isLowerLabelChar c.toLower = true ∨ c.toLower = '.') ∧
    (c.isAlphanum = true → c.toLower.isAlphanum = true) ∧
    (c.isAlpha = true ∨ c = '-' → c.toLower.isLower = true ∨ c.toLower = '-')) (by decide +kernel) h

theorem exists_areHostParts {host : Text} (h : isHostName host = true) :
    ∃ front top, host.lowerAscii = front ++ '.' :: top ∧ AreHostParts front top := by
  have hhost : ∀ c ∈ host, isHostChar c = true := fun c hc => isHostChar_of_mem h hc
  unfold isHostName at h
  split at h
  · cases h
  · next front top hcut =>
    obtain rfl := Text.eq_append_of_cutLast? hcut
    simp only [Bool.and_eq_true, List.all_eq_true, decide_eq_true_eq] at h
    obtain ⟨⟨⟨⟨⟨hlong, htop⟩, -⟩, hhead⟩, hlast⟩, -⟩ := h
    rw [List.forall_mem_append, List.forall_mem_cons] at hhost
    obtain ⟨hfront, -, hbehind⟩ := hhost
    refine ⟨front.lowerAscii, top.lowerAscii, by simp [Text.lowerAscii], ?_, ?_, ?_, ?_, ?_⟩
    · intro c hc
      obtain ⟨d, hd, rfl⟩ := List.mem_map.1 hc
      exact (toLower_hostChar (hfront d hd)).1
    · rcases front with _ | ⟨c, front⟩
      · cases hhead
      · exact (toLower_hostChar (hfront c (by simp))).2.1 (by simpa using hhead)
    · rcases List.eq_nil_or_concat' front with rfl | ⟨front, c, rfl⟩
      · cases hlast
      · have hc := (toLower_hostChar (hfront c (by simp))).2.1 (by simpa using hlast)
        simpa [endsPlain, Text.lowerAscii] using hc
    · intro c hc
      obtain ⟨d, hd, rfl⟩ := List.mem_map.1 hc
      exact (toLower_hostChar (hbehind d hd)).2.2 (by simpa using htop d hd)
    · simpa [Text.lowerAscii] using hlong

namespace AreHostParts

variable {front top : Text} (h : AreHostParts front top)
include h

theorem labels_eq : labels (front ++ '.' :: top) = labels front ++ [top] := by
  have hdot : '.' ∉ top := fun hmem => absurd (h.letters '.' hmem) (by decide)
  rw [labels_append, labels.eq_def top, List.splitOn_eq_singleton hdot]

theorem getLast?_labels : (labels (front ++ '.' :: top)).getLast? = some top := by
  rw [h.labels_eq]
  simp

theorem isLowerLabelChar_of_mem_top {c : Char} (hc : c ∈ top) : isLowerLabelChar c = true := by
  rcases h.letters c hc with hlower | rfl
  · simp [isLowerLabelChar, hlower]
  · rfl

theorem chars_append : ∀ c ∈ front ++ '.' :: top, isLowerLabelChar c = true ∨ c = '.' := by
  rw [List.forall_mem_append, List.forall_mem_cons]
  exact ⟨h.chars, .inr rfl, fun c hc => .inl (h.isLowerLabelChar_of_mem_top hc)⟩

/-- So much holds of the labels of every host name. -/
theorem hasLabels : HasLabels (front ++ '.' :: top) where
  two := by
    have hne : labels front ≠ [] := List.splitOn_ne_nil '.' front
    rw [h.labels_eq, List.length_append, List.length_singleton]
    have := List.length_pos_iff.2 hne
    omega
  chars := by
    intro l hl c hc
    obtain ⟨s, u, hd, -⟩ := exists_place_of_mem_labels hl
    have hmem : c ∈ front ++ '.' :: top := by simp [hd, hc]
    exact (h.chars_append c hmem).resolve_right (ne_of_mem_of_not_mem hc (notMem_of_mem_labels hl))
  top := by
    intro l hl
    rw [h.getLast?_labels, Option.some.injEq] at hl
    exact hl ▸ h.long

theorem startsPlain_append : startsPlain (front ++ '.' :: top) = true := by
  have hne : front ≠ [] := by
    rintro rfl
    cases h.starts
  have hstart := h.starts
  rwa [startsPlain, List.head?_append_of_ne_nil _ hne, ← startsPlain]

theorem exists_last : ∃ s c, top = s ++ [c] := by
  have hlong := h.long
  exact (List.eq_nil_or_concat' top).resolve_left (List.ne_nil_of_length_pos (by omega))

theorem getLast?_append : (front ++ '.' :: top).getLast? = top.getLast? := by
  obtain ⟨s, c, rfl⟩ := h.exists_last
  rw [← List.cons_append, ← List.append_assoc, List.getLast?_concat, List.getLast?_concat]

/-- The last sign of a host name is a letter or a hyphen. -/
theorem endsPlain_append_iff :
    endsPlain (front ++ '.' :: top) = true ↔ (front ++ '.' :: top).getLast? ≠ some '-' := by
  obtain ⟨s, c, rfl⟩ := h.exists_last
  rw [endsPlain, h.getLast?_append]
  rcases h.letters c (by simp) with hc | rfl
  · have hplain := isAlphanum_of_isLower hc
    have hhyphen : c ≠ '-' := by
      rintro rfl
      exact absurd hc (by decide)
    simp [hplain, hhyphen]
  · simp

/-- A host name is a plain one just if no label has a loose end. -/
theorem isPlainHost_iff :
    IsPlainHost (front ++ '.' :: top) ↔ ¬HasLooseEnd (front ++ '.' :: top) := by
  have hlabels := forall_labels_iff h.chars_append
  constructor
  · intro hplain
    obtain ⟨-, hend, hloose⟩ := hlabels.1 fun l hl => ⟨hplain.starts l hl, hplain.ends l hl⟩
    rintro (⟨p, hp, hinfix⟩ | hlast)
    · exact hloose p hp hinfix
    · exact h.endsPlain_append_iff.1 hend hlast
  · intro hloose
    obtain ⟨hsigns, hlast⟩ := not_or.1 hloose
    have hends := hlabels.2 ⟨h.startsPlain_append, h.endsPlain_append_iff.2 hlast,
      fun p hp hinfix => hsigns ⟨p, hp, hinfix⟩⟩
    refine ⟨h.hasLabels, fun l hl => (hends l hl).1, fun l hl => (hends l hl).2, fun l hl => ?_⟩
    rw [h.getLast?_labels, Option.some.injEq] at hl
    obtain ⟨s, c, rfl⟩ := h.exists_last
    subst hl
    have hmem : c ∈ s ++ [c] := by simp
    refine ⟨c, hmem, (h.letters c hmem).resolve_right ?_⟩
    rintro rfl
    exact hlast (by rw [h.getLast?_append, List.getLast?_concat])

end AreHostParts

end Domain

namespace HostPattern

/-! ### Hosts of patterns -/

theorem head?_of_splitBefore? {c : Char} {t before after : Text}
    (h : splitBefore? c t = some (before, after)) : after.head? = some c := by
  by_cases hc : c ∈ t
  · obtain ⟨s, u, rfl, hs⟩ := List.eq_append_cons_of_mem hc
    rw [splitBefore?_append hs] at h
    cases h
    rfl
  · rw [splitBefore?, if_neg hc] at h
    cases h

theorem notMem_of_splitBefore?_eq_none {c : Char} {t : Text} (h : splitBefore? c t = none) :
    c ∉ t := by
  unfold splitBefore? at h
  split_ifs at h with hc
  exact hc

/-- A path starts with the first slash, or with the first caret where there is no slash. -/
theorem path_starts {pattern path : Text} (h : (ofPattern pattern).path = some path) :
    path.head? = some '/' ∨ path.head? = some '^' ∧ '/' ∉ path := by
  simp only [ofPattern] at h
  split at h
  · next host _ hsplit =>
    cases h
    rcases Option.or_eq_some_iff.1 hsplit with hslash | ⟨hslash, hcaret⟩
    · exact .inl (head?_of_splitBefore? hslash)
    · refine .inr ⟨head?_of_splitBefore? hcaret, fun hmem => ?_⟩
      refine notMem_of_splitBefore?_eq_none hslash ?_
      rw [eq_append_of_splitBefore? hcaret]
      exact List.mem_append_right _ hmem
  · cases h

/-- **Domains of patterns.**  The labels of a domain that is found are in lower case, and it is a
plain host name just if no label has a loose end.  The pattern is its anchor, the host as it is
written and the path, which starts with the first slash or, where there is none, with the first
caret. -/
theorem hostOf?_labels [Externals] {pattern domain : Text} {path : Option Text}
    (h : hostOf? pattern = some (domain, path)) :
    let parts := ofPattern pattern
    (Domain.HasLabels domain ∧ (Domain.IsPlainHost domain ↔ ¬Domain.HasLooseEnd domain)) ∧
      (parts.anchor = [] ∨ parts.anchor ∈ anchors) ∧
      domain = parts.host.lowerAscii ∧ pattern = parts.anchor ++ (parts.host ++ path.getD []) ∧
      ∀ t, path = some t → t.head? = some '/' ∨ t.head? = some '^' ∧ '/' ∉ t := by
  intro parts
  obtain ⟨hanchor, htext⟩ := ofPattern_spec pattern
  simp only [hostOf?] at h
  split_ifs at h with hhost
  cases h
  have hascii := Domain.isAscii_of_isHostName hhost
  have hlower : (Domain.ascii parts.host).lower = parts.host.lowerAscii := by
    rw [Domain.ascii_of_isAscii hascii, Text.lower_of_isAscii hascii]
  obtain ⟨front, top, hdomain, hparts⟩ := Domain.exists_areHostParts hhost
  rw [hlower]
  refine ⟨?_, hanchor, rfl, htext.symm, fun t ht => path_starts ht⟩
  rw [hdomain]
  exact ⟨hparts.hasLabels, hparts.isPlainHost_iff⟩

theorem hostOf?_labels_hyphen :
    let domain : Text := "ads-1.example.co-op"
    hostOf? "||Ads-1.Example.co-op^/x" = none ∧
      hostOf? "https://www.Ads-1.Example.co-op^x" = some (domain, some ['^', 'x']) ∧
      Domain.IsPlainHost domain := by
  intro domain
  have hfound : hostOf? "https://www.Ads-1.Example.co-op^x" = some (domain, some ['^', 'x']) := by
    decide +kernel
  have hloose : ¬Domain.HasLooseEnd domain := by
    rintro (⟨p, hp, hinfix⟩ | hlast)
    · exact absurd hinfix ((by decide : ∀ p ∈ Domain.looseSigns, ¬p <:+: domain) p hp)
    · exact absurd hlast (by decide)
  exact ⟨by decide +kernel, hfound, (hostOf?_labels hfound).1.2.2 hloose⟩

/-- An empty label, and a last label without letters. -/
theorem hostOf?_labels_loose :
    let empty : Text := "www..example.org"
    let hyphens : Text := "example.--"
    hostOf? "||www..example.org^" = some (empty, some ['^']) ∧ ¬Domain.IsPlainHost empty ∧
      hostOf? "||example.--^" = some (hyphens, some ['^']) ∧ ¬Domain.IsPlainHost hyphens := by
  intro empty hyphens
  refine ⟨by decide +kernel, fun h => ?_, by decide +kernel, fun h => ?_⟩
  · exact absurd (h.starts [] (by decide)) (by decide)
  · exact absurd (h.starts ['-', '-'] (by decide)) (by decide)

end HostPattern
end ContentBlocker
