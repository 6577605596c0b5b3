import ContentBlocker.Domain.Host
import ContentBlocker.Proofs.Text.Replacing

/-!
# Patterns with hosts in ASCII

A pattern may hold its host in other places too, and these are put in ASCII with it.

What the ASCII form of a host is does not matter here: `Domain.asciiBy`, `Domain.normalizeBy` and
`HostPattern.asciiPatternBy` take any conversion in the place of the one for international names.

* `HostPattern.text_ofPattern`: a pattern is its anchor, its host and the rest;
* `asciiPatternBy_text` says what becomes of each part, and when nothing but the host changes.
-/

namespace ContentBlocker

/-! ### Any conversion -/

namespace Domain

/-- The ASCII form of a domain by a conversion that may fail. -/
def asciiBy (convert : Text → Option Text) (domain : Text) : Text :=
  if Text.isAscii domain then domain else (convert domain).getD domain

/-- The form in which the domains of rules are kept, by such a conversion. -/
def normalizeBy (convert : Text → Option Text) (domain : Text) : Text :=
  asciiBy convert domain.lower

theorem asciiBy_of_isAscii {d : Text} (h : Text.isAscii d = true) (convert : Text → Option Text) :
    asciiBy convert d = d :=
  if_pos h

end Domain

namespace HostPattern

/-! ### The parts of a pattern -/

/-- What follows the host. -/
def rest (parts : HostPattern) : Text := parts.path.getD []

/-- The parts put together again. -/
def text (parts : HostPattern) : Text := parts.anchor ++ (parts.host ++ parts.rest)

theorem eq_append_of_splitBefore? {c : Char} {t before after : Text}
    (h : splitBefore? c t = some (before, after)) : t = before ++ after := by
  unfold splitBefore? at h
  split_ifs at h
  cases h
  exact List.takeWhile_append_dropWhile.symm

/-- A pattern is its anchor, one of the known ones or none, its host and the rest. -/
theorem ofPattern_spec (pattern : Text) :
    ((ofPattern pattern).anchor = [] ∨ (ofPattern pattern).anchor ∈ anchors) ∧
      (ofPattern pattern).text = pattern := by
  obtain ⟨anchor, behind, hfind, hanchor, rfl⟩ : ∃ anchor behind : Text,
      (anchors.find? (·.isPrefixOf pattern)).getD [] = anchor ∧
        (anchor = [] ∨ anchor ∈ anchors) ∧ pattern = anchor ++ behind := by
    rcases h : anchors.find? (·.isPrefixOf pattern) with _ | anchor
    · exact ⟨[], pattern, by rw [h]; rfl, .inl rfl, rfl⟩
    · have hstart : anchor.isPrefixOf pattern = true := by
        simpa using List.find?_some h
      obtain ⟨behind, hbehind⟩ := List.isPrefixOf_iff_prefix.1 hstart
      exact ⟨anchor, behind, by rw [h]; rfl, .inr (List.mem_of_find?_eq_some h), hbehind.symm⟩
  simp only [ofPattern, hfind, List.drop_left]
  split
  · next host path hsplit =>
    have hbehind : behind = host ++ path := by
      rcases Option.or_eq_some_iff.1 hsplit with h | ⟨-, h⟩
      · exact eq_append_of_splitBefore? h
      · exact eq_append_of_splitBefore? h
    exact ⟨hanchor, by rw [hbehind]; rfl⟩
  · exact ⟨hanchor, by rw [text, rest, Option.getD_none, List.append_nil]⟩

theorem text_ofPattern (pattern : Text) : (ofPattern pattern).text = pattern :=
  (ofPattern_spec pattern).2

theorem isAscii_anchor (pattern : Text) : Text.isAscii (ofPattern pattern).anchor = true := by
  have hanchors : ∀ anchor ∈ anchors, Text.isAscii anchor = true := by decide
  rcases (ofPattern_spec pattern).1 with h | h
  · rw [h]
    rfl
  · exact hanchors _ h

/-! ### The host in ASCII -/

/-- A pattern with every occurrence of its host in the ASCII form, by any conversion. -/
def asciiPatternBy (convert : Text → Option Text) (pattern : Text) : Text :=
  let host := (ofPattern pattern).host
  if Text.isAscii pattern || host.isEmpty || Text.isAscii host then pattern
  else Text.replaceAll host (Domain.asciiBy convert host) pattern

theorem asciiPatternBy_toAscii? [Externals] :
    asciiPatternBy Externals.toAscii? = asciiPattern := rfl

/-- The parts with the host in the ASCII form. -/
def convertHost (convert : Text → Option Text) (parts : HostPattern) : HostPattern :=
  { parts with host := Domain.asciiBy convert parts.host }

variable (convert : Text → Option Text) (pattern : Text)

@[simp] theorem convertHost_anchor (parts : HostPattern) :
    (parts.convertHost convert).anchor = parts.anchor := rfl

@[simp] theorem convertHost_rest (parts : HostPattern) :
    (parts.convertHost convert).rest = parts.rest := rfl

theorem ne_nil_of_not_isAscii {t : Text} (h : ¬Text.isAscii t = true) : t ≠ [] := by
  rintro rfl
  exact h rfl

/-- With a host in ASCII a pattern stays as it is. -/
theorem asciiPatternBy_of_isAscii {pattern : Text}
    (h : Text.isAscii (ofPattern pattern).host = true) :
    asciiPatternBy convert pattern = pattern := by
  rw [asciiPatternBy, if_pos]
  simp [h]

/-- With any other host the anchor stays as it is, and every occurrence of the host is replaced in
the rest too. -/
theorem asciiPatternBy_of_not_isAscii {pattern : Text}
    (h : ¬Text.isAscii (ofPattern pattern).host = true) :
    asciiPatternBy convert pattern =
      (ofPattern pattern).anchor ++ (((ofPattern pattern).convertHost convert).host ++
        Text.replaceAll (ofPattern pattern).host ((ofPattern pattern).convertHost convert).host
          (ofPattern pattern).rest) := by
  have hne := ne_nil_of_not_isAscii h
  have hpattern : ¬Text.isAscii pattern = true := by
    rw [← text_ofPattern pattern, text, Text.isAscii_append, Text.isAscii_append]
    simp [h]
  have hfirst : Text.IsFirst (ofPattern pattern).host pattern (ofPattern pattern).anchor
      (ofPattern pattern).rest := by
    have hanchor := List.all_eq_true.1 (isAscii_anchor pattern)
    have htext := Text.isFirst_append_of_forall hanchor (Bool.eq_false_iff.2 h)
      (ofPattern pattern).rest
    rwa [← text, text_ofPattern] at htext
  rw [asciiPatternBy, if_neg (by simp [hpattern, hne, h]), hfirst.replaceAll_eq hne]
  rfl

/-- The anchor stays as it is and the host is in ASCII.  The rest stays as it is just if the host is
its own ASCII form or does not occur there again. -/
theorem asciiPatternBy_text [Externals] :
    (ofPattern pattern).text = pattern ∧
      asciiPatternBy Externals.toAscii? pattern = asciiPattern pattern ∧
      (∃ rest, asciiPatternBy convert pattern =
          (ofPattern pattern).anchor ++ (((ofPattern pattern).convertHost convert).host ++ rest) ∧
        if Text.isAscii (ofPattern pattern).host then rest = (ofPattern pattern).rest
        else Text.IsReplaced (ofPattern pattern).host ((ofPattern pattern).convertHost convert).host
          (ofPattern pattern).rest rest) ∧
      (asciiPatternBy convert pattern = ((ofPattern pattern).convertHost convert).text ↔
        ((ofPattern pattern).convertHost convert).host = (ofPattern pattern).host ∨
          ¬(ofPattern pattern).host <:+: (ofPattern pattern).rest) := by
  refine ⟨text_ofPattern pattern, by rw [asciiPatternBy_toAscii?], ?_⟩
  by_cases h : Text.isAscii (ofPattern pattern).host = true
  · have hhost := Domain.asciiBy_of_isAscii h convert
    have hsame : ((ofPattern pattern).convertHost convert).text = pattern := by
      rw [convertHost, hhost, text_ofPattern]
    rw [asciiPatternBy_of_isAscii convert h, hsame]
    exact ⟨⟨(ofPattern pattern).rest, hsame.symm, by rw [if_pos h]⟩, iff_of_true rfl (.inl hhost)⟩
  · have hne := ne_nil_of_not_isAscii h
    have hreplaced := Text.isReplaced_replaceAll hne
      ((ofPattern pattern).convertHost convert).host (ofPattern pattern).rest
    rw [asciiPatternBy_of_not_isAscii convert h]
    refine ⟨⟨_, rfl, by rwa [if_neg h]⟩, ?_⟩
    rw [← Text.replaceAll_eq_self_iff hne]
    simp only [text, convertHost_anchor, convertHost_rest, List.append_cancel_left_eq]

/-- The conversion of one name. -/
def convertOne (domain : Text) : Option Text :=
  if domain = ("меил.рф" : Text) then some "xn--e1agjb.xn--p1ai" else none

/-- A pattern with its host in the path. -/
def repeatedHost : Text := "||меил.рф/меил.рф"

theorem asciiPatternBy_text_repeated :
    asciiPatternBy convertOne repeatedHost = ("||xn--e1agjb.xn--p1ai/xn--e1agjb.xn--p1ai" : Text) ∧
      ((ofPattern repeatedHost).convertHost convertOne).text =
        ("||xn--e1agjb.xn--p1ai/меил.рф" : Text) ∧
      asciiPatternBy convertOne repeatedHost ≠
        ((ofPattern repeatedHost).convertHost convertOne).text := by
  decide +kernel

end HostPattern
end ContentBlocker
