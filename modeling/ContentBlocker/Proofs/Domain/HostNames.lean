import ContentBlocker.Domain.Host
import ContentBlocker.Proofs.Text.Searching

/-!
# Host names in patterns

An ordinary host name has a few kinds of characters only, all of them in ASCII, and none of them
means anything in a pattern.

* `lower_of_isAscii` is the lower case of an ASCII text;
* `isHostChar` are the characters of host names;
* `hostOf?_anchored` finds the host name behind the anchor for hosts again.
-/

namespace ContentBlocker

/-! ### ASCII -/

namespace Unicode

/-- Whatever stands before a character in ASCII, its lower case is its own. -/
theorem lowerAfter_of_isAscii {t : Text} (h : Text.isAscii t = true) (before : Text) :
    lowerAfter before t = t.lowerAscii := by
  induction t generalizing before with
  | nil => rfl
  | cons c t ih =>
    obtain ⟨hc, ht⟩ : c.toNat < 128 ∧ Text.isAscii t = true := by simpa [Text.isAscii] using h
    have hsigma : c ≠ 'Σ' := by
      rintro rfl
      exact absurd hc (by decide)
    rw [lowerAfter, if_neg hsigma, lowerChar, if_pos hc, ih ht]
    rfl

end Unicode

theorem Text.lower_of_isAscii {t : Text} (h : Text.isAscii t = true) : t.lower = t.lowerAscii :=
  Unicode.lowerAfter_of_isAscii h []

namespace Domain

/-! ### Characters of host names -/

/-- A character of a host name. -/
def isHostChar (c : Char) : Bool := isLabelChar c || c = '.'

/-- The characters of host names are letters of either case, digits and two signs. -/
theorem isHostChar_iff {c : Char} :
    isHostChar c = true ↔
      ((('A'.val ≤ c.val ∧ c.val ≤ 'Z'.val) ∨ ('a'.val ≤ c.val ∧ c.val ≤ 'z'.val)) ∨
        ('0'.val ≤ c.val ∧ c.val ≤ '9'.val)) ∨ c = '-' ∨ c = '.' := by
  have hchar : isHostChar c =
      (((decide ('A'.val ≤ c.val ∧ c.val ≤ 'Z'.val) || ('a'.val ≤ c.val && c.val ≤ 'z'.val)) ||
        ('0'.val ≤ c.val && c.val ≤ '9'.val)) || c = '-' || c = '.') := rfl
  rw [hchar]
  simp only [Bool.or_eq_true, Bool.and_eq_true, decide_eq_true_eq, or_assoc]

theorem toNat_of_isHostChar {c : Char} (h : isHostChar c = true) : c.toNat < 128 := by
  have hval : c.val.toNat = c.toNat := rfl
  have hZ : 'Z'.val.toNat = 90 := rfl
  have hz : 'z'.val.toNat = 122 := rfl
  have h9 : '9'.val.toNat = 57 := rfl
  simp only [isHostChar_iff, UInt32.le_iff_toNat_le] at h
  rcases h with ((h | h) | h) | rfl | rfl
  · omega
  · omega
  · omega
  · decide
  · decide

/-- What holds of the characters of host names below U+0080 holds of all of them. -/
theorem forall_isHostChar {p : Char → Prop}
    (h : ∀ n < 128, isHostChar (Char.ofNat n) = true → p (Char.ofNat n)) {c : Char}
    (hc : isHostChar c = true) : p c := by
  have hn := h c.toNat (toNat_of_isHostChar hc)
  rw [Char.ofNat_toNat] at hn
  exact hn hc

theorem isHostChar_toLower {c : Char} (h : isHostChar c = true) : isHostChar c.toLower = true :=
  forall_isHostChar (p := fun c => isHostChar c.toLower = true) (by decide +kernel) h

section HostName

variable {host : Text} (h : isHostName host = true)
include h

theorem isHostChar_of_mem {c : Char} (hc : c ∈ host) : isHostChar c = true := by
  unfold isHostName at h
  split at h
  · cases h
  · next front top hcut =>
    simp only [Bool.and_eq_true, List.all_eq_true] at h
    obtain ⟨⟨⟨⟨⟨-, htop⟩, -⟩, -⟩, -⟩, hfront⟩ := h
    rw [Text.eq_append_of_cutLast? hcut, List.mem_append, List.mem_cons] at hc
    rcases hc with hc | rfl | hc
    · exact hfront c hc
    · rfl
    · have hlabel : c.isAlpha = true ∨ c = '-' := by simpa using htop c hc
      rcases hlabel with hlabel | rfl
      · show (c.isAlpha || c.isDigit || c = '-' || c = '.') = true
        simp [hlabel]
      · rfl

theorem notMem_of_isHostName {c : Char} (hc : isHostChar c = false) : c ∉ host := by
  intro hmem
  rw [isHostChar_of_mem h hmem] at hc
  cases hc

theorem notMem_lowerAscii {c : Char} (hc : isHostChar c = false) : c ∉ host.lowerAscii := by
  intro hmem
  obtain ⟨d, hd, rfl⟩ := List.mem_map.1 hmem
  rw [isHostChar_toLower (isHostChar_of_mem h hd)] at hc
  cases hc

theorem isAscii_of_isHostName : Text.isAscii host = true := by
  rw [Text.isAscii, List.all_eq_true]
  exact fun c hc => decide_eq_true (toNat_of_isHostChar (isHostChar_of_mem h hc))

end HostName
end Domain

namespace HostPattern

/-- The ends of a pattern for all addresses of a host. -/
def hostEnds : List Text := [[], ['^'], ['/']]

theorem splitBefore?_append {c : Char} {s : Text} (h : c ∉ s) (t : Text) :
    splitBefore? c (s ++ c :: t) = some (s, c :: t) := by
  have hs : ∀ d ∈ s, decide (d ≠ c) = true := fun d hd => decide_eq_true (ne_of_mem_of_not_mem hd h)
  rw [splitBefore?, if_pos (by simp), List.takeWhile_append_of_pos hs,
    List.dropWhile_append_of_pos hs]
  simp

/-- Behind the anchor for hosts, a host name at the end of the pattern is found again. -/
theorem hostOf?_anchored [Externals] {host ending : Text} (h : Domain.isHostName host = true)
    (he : ending ∈ hostEnds) :
    hostOf? ('|' :: '|' :: (host ++ ending)) =
      some (host.lowerAscii, if ending = [] then none else some ending) := by
  have hslash : '/' ∉ host := Domain.notMem_of_isHostName h (by decide)
  have hcaret : '^' ∉ host := Domain.notMem_of_isHostName h (by decide)
  have hascii := Domain.isAscii_of_isHostName h
  have hparts : ofPattern ('|' :: '|' :: (host ++ ending)) =
      ⟨['|', '|'], host, if ending = [] then none else some ending⟩ := by
    have hanchor : anchors.find? (·.isPrefixOf ('|' :: '|' :: (host ++ ending))) = some ['|', '|'] :=
      rfl
    rw [ofPattern, hanchor]
    simp only [Option.getD_some, List.length_cons, List.length_nil, List.drop_succ_cons,
      List.drop_zero]
    simp only [hostEnds, List.mem_cons, List.not_mem_nil, or_false] at he
    rcases he with rfl | rfl | rfl
    · simp [splitBefore?, hslash, hcaret]
    · have hnone : splitBefore? '/' (host ++ ['^']) = none := by simp [splitBefore?, hslash]
      rw [hnone, splitBefore?_append hcaret]
      rfl
    · rw [splitBefore?_append hslash]
      rfl
  rw [hostOf?, hparts]
  simp only [h, if_true, Domain.ascii_of_isAscii hascii, Text.lower_of_isAscii hascii]

end HostPattern
end ContentBlocker
