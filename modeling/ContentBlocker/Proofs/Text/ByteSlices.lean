import ContentBlocker.Proofs.Text.SearchRounds

/-!
# Bytes and characters

A text is searched byte by byte and cut at the numbers of its bytes, which may lie inside of a
character.

* `IsBoundary` says that the first bytes of a text are whole characters, and `cutBytes?` and
  `slice?` cut a text where this is so and fail where it is not;
* `exists_of_utf8_eq`: a byte below 128 is a whole character;
* `isBoundary_of_lastUnescaped?`: what a search for such a byte finds is a character, so that the
  text can be cut before it and after it;
* `cutByBytes?_append`: cutting a text around what is found among its bytes never fails, and gives
  what `cutLastUnescaped?` gives.
-/

namespace ContentBlocker.Text

/-! ### The bytes of a text -/

@[simp] theorem utf8_nil : utf8 [] = [] := rfl

@[simp] theorem utf8_cons (c : Char) (t : Text) :
    utf8 (c :: t) = String.utf8EncodeChar c ++ utf8 t := rfl

@[simp] theorem utf8_append (s t : Text) : utf8 (s ++ t) = utf8 s ++ utf8 t := List.flatMap_append

@[simp] theorem utf8Length_nil : utf8Length [] = 0 := rfl

@[simp] theorem utf8Length_cons (c : Char) (t : Text) :
    utf8Length (c :: t) = c.utf8Size + utf8Length t := rfl

@[simp] theorem length_utf8 (t : Text) : (utf8 t).length = utf8Length t := by
  induction t with
  | nil => rfl
  | cons c t ih => simp [ih]

@[simp] theorem utf8Length_append (s t : Text) :
    utf8Length (s ++ t) = utf8Length s + utf8Length t := by
  simp [← length_utf8]

theorem utf8Length_pos {t : Text} (h : t ≠ []) : 0 < utf8Length t := by
  obtain ⟨c, t, rfl⟩ := List.exists_cons_of_ne_nil h
  have hc := c.utf8Size_pos
  rw [utf8Length_cons]
  omega

theorem utf8_eq_nil_iff {t : Text} : utf8 t = [] ↔ t = [] := by
  refine ⟨fun h => ?_, fun h => by rw [h, utf8_nil]⟩
  by_contra hne
  have hpos := utf8Length_pos hne
  rw [← length_utf8, h] at hpos
  exact absurd hpos (lt_irrefl 0)

/-- Of two starts of a text, the one with fewer bytes is a start of the other. -/
theorem exists_of_utf8Length_le {s t u v : Text} (h : s ++ u = t ++ v)
    (hle : utf8Length s ≤ utf8Length t) : ∃ w, t = s ++ w ∧ u = w ++ v := by
  rcases List.append_eq_append_iff.1 h with hw | ⟨w, rfl, rfl⟩
  · exact hw
  · have hw : w = [] := by
      by_contra hne
      have hpos := utf8Length_pos hne
      rw [utf8Length_append] at hle
      omega
    exact ⟨[], by simp [hw], by simp [hw]⟩

/-! ### Cutting at bytes -/

/-- The first `i` bytes of a text are whole characters. -/
def IsBoundary (t : Text) (i : ℕ) : Prop :=
  ∃ before after, t = before ++ after ∧ utf8Length before = i

/-- The text before and after its first bytes, if these are whole characters. -/
def cutBytes? : ℕ → Text → Option (Text × Text)
  | 0, t => some ([], t)
  | _ + 1, [] => none
  | i + 1, c :: t =>
    if c.utf8Size ≤ i + 1 then
      (cutBytes? (i + 1 - c.utf8Size) t).map fun s => (c :: s.1, s.2)
    else none

/-- The text from the byte `start` up to the byte `stop`, if neither lies inside of a character. -/
def slice? (start stop : ℕ) (t : Text) : Option Text := do
  let (before, _) ← cutBytes? stop t
  let (_, part) ← cutBytes? start before
  some part

theorem cutBytes?_append (before after : Text) :
    cutBytes? (utf8Length before) (before ++ after) = some (before, after) := by
  induction before with
  | nil => cases after <;> rfl
  | cons c before ih =>
    obtain ⟨n, hn⟩ := Nat.exists_eq_succ_of_ne_zero c.utf8Size_pos.ne'
    have hlength : utf8Length (c :: before) = utf8Length before + n + 1 := by
      rw [utf8Length_cons, hn]
      omega
    have hrest : utf8Length before + n + 1 - c.utf8Size = utf8Length before := by omega
    rw [List.cons_append, hlength, cutBytes?, if_pos (by omega), hrest, ih]
    rfl

theorem eq_append_of_cutBytes? {i : ℕ} {t before after : Text}
    (h : cutBytes? i t = some (before, after)) : t = before ++ after ∧ utf8Length before = i := by
  induction t generalizing i before with
  | nil =>
    rcases i with _ | i
    · cases h
      exact ⟨rfl, rfl⟩
    · cases h
  | cons c t ih =>
    rcases i with _ | i
    · cases h
      exact ⟨rfl, rfl⟩
    · rw [cutBytes?] at h
      split_ifs at h with hle
      obtain ⟨⟨b, a⟩, hcut, hb⟩ := Option.map_eq_some_iff.1 h
      obtain ⟨rfl, rfl⟩ : c :: b = before ∧ a = after := by simpa using hb
      obtain ⟨rfl, hlength⟩ := ih hcut
      exact ⟨rfl, by rw [utf8Length_cons]; omega⟩

theorem cutBytes?_eq_some_iff {i : ℕ} {t before after : Text} :
    cutBytes? i t = some (before, after) ↔ t = before ++ after ∧ utf8Length before = i := by
  refine ⟨eq_append_of_cutBytes?, ?_⟩
  rintro ⟨rfl, rfl⟩
  exact cutBytes?_append before after

/-- A slice exists if whole characters stand before it and in it. -/
theorem slice?_eq_some_iff {start stop : ℕ} {t part : Text} :
    slice? start stop t = some part ↔
      ∃ before after, t = before ++ part ++ after ∧ utf8Length before = start ∧
        utf8Length (before ++ part) = stop := by
  constructor
  · intro h
    obtain ⟨⟨front, after⟩, hstop, h⟩ := Option.bind_eq_some_iff.1 h
    obtain ⟨⟨before, _⟩, hstart, h⟩ := Option.bind_eq_some_iff.1 h
    cases h
    obtain ⟨rfl, rfl⟩ := cutBytes?_eq_some_iff.1 hstop
    obtain ⟨rfl, rfl⟩ := cutBytes?_eq_some_iff.1 hstart
    exact ⟨before, after, rfl, rfl, rfl⟩
  · rintro ⟨before, after, rfl, rfl, rfl⟩
    exact Option.bind_eq_some_iff.2 ⟨(before ++ part, after), cutBytes?_append _ _,
      Option.bind_eq_some_iff.2 ⟨(before, part), cutBytes?_append _ _, rfl⟩⟩

/-! ### Characters of one byte -/

theorem utf8EncodeChar_of_lt {c : Char} (h : c.toNat < 128) :
    String.utf8EncodeChar c = [c.toUInt8] := by
  refine String.utf8EncodeChar_eq_singleton (Char.utf8Size_eq_one_iff.2 ?_)
  rw [UInt32.le_iff_toNat_le]
  exact Nat.le_of_lt_succ h

theorem utf8Size_of_lt {c : Char} (h : c.toNat < 128) : c.utf8Size = 1 := by
  rw [← String.length_utf8EncodeChar, utf8EncodeChar_of_lt h, List.length_singleton]

theorem toNat_toUInt8_of_lt {c : Char} (h : c.toNat < 128) : c.toUInt8.toNat = c.toNat :=
  Nat.mod_eq_of_lt (by change c.toNat < 256; omega)

/-- The bytes of the other characters are not below 128. -/
theorem not_lt_of_mem_utf8EncodeChar {c : Char} (h : ¬c.toNat < 128) {b : UInt8}
    (hb : b ∈ String.utf8EncodeChar c) : ¬b < 128 := by
  have hc : ¬c.val.toNat ≤ 127 := fun hle => h (Nat.lt_succ_of_le hle)
  have hhigh : ∀ n : ℕ, 128 ≤ n % 256 → ¬UInt8.ofNat n < 128 := by
    intro n hn hlt
    rw [UInt8.lt_iff_toNat_lt, UInt8.toNat_ofNat'] at hlt
    exact absurd hlt (by simpa using hn)
  rw [String.utf8EncodeChar] at hb
  split_ifs at hb <;> simp only [List.mem_cons, List.not_mem_nil, or_false] at hb <;>
    rcases hb with rfl | rfl | rfl | rfl <;> exact hhigh _ (by omega)

theorem eq_nil_of_utf8EncodeChar_eq {c : Char} {b : UInt8} {xs ys : List UInt8}
    (h : String.utf8EncodeChar c = xs ++ b :: ys) (hb : b < 128) :
    xs = [] ∧ ys = [] ∧ c.toNat = b.toNat := by
  have hc : c.toNat < 128 := by
    by_contra hc
    exact not_lt_of_mem_utf8EncodeChar hc (by simp [h]) hb
  rw [utf8EncodeChar_of_lt hc] at h
  rcases xs with _ | ⟨x, xs⟩
  · obtain ⟨rfl, rfl⟩ := List.cons.inj h
    exact ⟨rfl, rfl, (toNat_toUInt8_of_lt hc).symm⟩
  · simp at h

/-- A byte below 128 is a whole character. -/
theorem exists_of_utf8_eq {t : Text} {b : UInt8} {xs ys : List UInt8}
    (h : utf8 t = xs ++ b :: ys) (hb : b < 128) :
    ∃ before c after, t = before ++ c :: after ∧ c.toNat = b.toNat ∧ utf8 before = xs ∧
      utf8 after = ys := by
  induction t generalizing xs with
  | nil => simp at h
  | cons c t ih =>
    have hlater : ∀ ws, utf8 t = ws ++ b :: ys → xs = String.utf8EncodeChar c ++ ws →
        ∃ before d after, c :: t = before ++ d :: after ∧ d.toNat = b.toNat ∧
          utf8 before = xs ∧ utf8 after = ys := by
      rintro ws hrest rfl
      obtain ⟨before, d, after, rfl, hd, rfl, hafter⟩ := ih hrest
      exact ⟨c :: before, d, after, rfl, hd, rfl, hafter⟩
    rw [utf8_cons] at h
    rcases List.append_eq_append_iff.1 h with ⟨ws, hws, hrest⟩ | ⟨ws, hws, hrest⟩
    · exact hlater ws hrest hws
    · rcases ws with _ | ⟨d, ws⟩
      · exact hlater [] hrest.symm (by simpa using hws.symm)
      · -- the byte is one of the first character
        obtain ⟨rfl, rfl⟩ := List.cons.inj hrest
        obtain ⟨rfl, rfl, hc⟩ := eq_nil_of_utf8EncodeChar_eq hws hb
        exact ⟨[], c, t, rfl, hc, rfl, rfl⟩

/-- The byte of an ASCII character stands for this character. -/
theorem exists_of_utf8_eq_ascii {t : Text} {c : Char} {xs ys : List UInt8} (hc : c.toNat < 128)
    (h : utf8 t = xs ++ c.toUInt8 :: ys) :
    ∃ before after, t = before ++ c :: after ∧ utf8 before = xs ∧ utf8 after = ys := by
  have hbyte : c.toUInt8 < 128 := UInt8.lt_iff_toNat_lt.2 (by rwa [toNat_toUInt8_of_lt hc])
  obtain ⟨before, d, after, rfl, hd, hbefore, hafter⟩ := exists_of_utf8_eq h hbyte
  obtain rfl : d = c := Char.toNat_inj.1 (hd.trans (toNat_toUInt8_of_lt hc))
  exact ⟨before, after, rfl, hbefore, hafter⟩

/-- An ASCII character ends a text if its byte does. -/
theorem getLast?_utf8_iff {c : Char} (hc : c.toNat < 128) {t : Text} :
    (utf8 t).getLast? = some c.toUInt8 ↔ t.getLast? = some c := by
  rw [List.getLast?_eq_some_iff, List.getLast?_eq_some_iff]
  constructor
  · rintro ⟨xs, h⟩
    obtain ⟨before, after, rfl, -, hafter⟩ := exists_of_utf8_eq_ascii hc h
    obtain rfl : after = [] := utf8_eq_nil_iff.1 hafter
    exact ⟨before, rfl⟩
  · rintro ⟨before, rfl⟩
    exact ⟨utf8 before, by simp [utf8EncodeChar_of_lt hc]⟩

/-! ### The last unescaped byte -/

/-- What a search for a byte below 128 finds is a character, so that characters begin or the text
ends before and after it. -/
theorem isBoundary_of_lastUnescaped? {needle escape : UInt8} {start i : ℕ} {t : Text}
    (hneedle : needle < 128) (h : lastUnescaped? needle escape start (utf8 t) = some i) :
    IsBoundary t i ∧ IsBoundary t (i + 1) := by
  obtain ⟨-, -, hat, -⟩ := lastUnescapedBelow?_eq_some_iff.1 h
  obtain ⟨xs, ys, hbytes, rfl, -⟩ := unescapedAt_iff.1 hat
  obtain ⟨before, c, after, rfl, hc, rfl, rfl⟩ := exists_of_utf8_eq hbytes hneedle
  have hsize : c.utf8Size = 1 := by
    refine utf8Size_of_lt ?_
    rw [hc]
    exact UInt8.lt_iff_toNat_lt.1 hneedle
  rw [length_utf8]
  exact ⟨⟨before, c :: after, rfl, rfl⟩, ⟨before ++ [c], after, by simp, by simp [hsize]⟩⟩

section AsciiSearch

variable {needle escape : Char} {front t : Text}

/-- The places in the bytes of a text where a search for an ASCII character may stop. -/
theorem mem_stops_utf8_iff (hn : needle.toNat < 128) (he : escape.toNat < 128) {start i : ℕ} :
    i ∈ stops needle.toUInt8 escape.toUInt8 start (utf8 t) ↔
      start ≤ i ∧ ∃ before after, t = before ++ needle :: after ∧ utf8Length before = i ∧
        after ≠ [] ∧ before.getLast? ≠ some escape := by
  rw [mem_stops_iff_append]
  refine and_congr_right fun _ => ⟨?_, ?_⟩
  · rintro ⟨xs, ys, hbytes, rfl, hne, hescape⟩
    obtain ⟨before, after, rfl, rfl, rfl⟩ := exists_of_utf8_eq_ascii hn hbytes
    rw [Ne, utf8_eq_nil_iff] at hne
    rw [Ne, getLast?_utf8_iff he] at hescape
    exact ⟨before, after, rfl, (length_utf8 before).symm, hne, hescape⟩
  · rintro ⟨before, after, rfl, rfl, hne, hescape⟩
    rw [Ne, ← utf8_eq_nil_iff] at hne
    rw [Ne, ← getLast?_utf8_iff he] at hescape
    exact ⟨utf8 before, utf8 after, by simp [utf8EncodeChar_of_lt hn], length_utf8 before, hne,
      hescape⟩

/-- Behind a text that does not end with the escape, they are the places among the characters. -/
theorem stops_utf8_append (hn : needle.toNat < 128) (he : escape.toNat < 128)
    (hfront : front.getLast? ≠ some escape) :
    stops needle.toUInt8 escape.toUInt8 (utf8Length front) (utf8 (front ++ t)) =
      (fun k => utf8Length (front ++ t.take k)) '' stops needle escape 0 t := by
  have hlast : ∀ s : Text, (front ++ s).getLast? = some escape ↔ s.getLast? = some escape := by
    intro s
    rcases List.eq_nil_or_concat' s with rfl | ⟨s, d, rfl⟩
    · simpa using hfront
    · rw [List.getLast?_append_of_ne_nil _ (by simp)]
  ext i
  rw [mem_stops_utf8_iff hn he, Set.mem_image]
  constructor
  · rintro ⟨hstart, before, after, h, rfl, hne, hescape⟩
    obtain ⟨s, rfl, rfl⟩ := exists_of_utf8Length_le h hstart
    rw [Ne, hlast] at hescape
    refine ⟨s.length, mem_stops_iff_append.2 ⟨Nat.zero_le _, s, after, rfl, rfl, hne, hescape⟩, ?_⟩
    simp
  · rintro ⟨k, hk, rfl⟩
    obtain ⟨-, before, after, rfl, rfl, hne, hescape⟩ := mem_stops_iff_append.1 hk
    rw [Ne, ← hlast] at hescape
    exact ⟨by simp, front ++ before, after, by simp, by simp, hne, hescape⟩

/-- So the search among the bytes finds what the search among the characters finds. -/
theorem lastUnescaped?_utf8_append (hn : needle.toNat < 128) (he : escape.toNat < 128)
    (hfront : front.getLast? ≠ some escape) :
    lastUnescaped? needle.toUInt8 escape.toUInt8 (utf8Length front) (utf8 (front ++ t)) =
      (lastUnescaped? needle escape 0 t).map fun k => utf8Length (front ++ t.take k) := by
  have hmono : Monotone fun k => utf8Length (front ++ t.take k) := by
    intro j k hjk
    obtain ⟨s, hs⟩ : t.take j <+: t.take k := List.take_prefix_take_left hjk
    simp only [← hs, utf8Length_append]
    omega
  rcases h : lastUnescaped? needle escape 0 t with _ | k
  · rw [lastUnescaped?_eq_none_iff] at h
    rw [Option.map_none, lastUnescaped?_eq_none_iff, stops_utf8_append hn he hfront, h,
      Set.image_empty]
  · rw [lastUnescaped?_eq_some_iff] at h
    rw [Option.map_some, lastUnescaped?_eq_some_iff, stops_utf8_append hn he hfront]
    exact hmono.map_isGreatest h

/-! ### Cutting around the last unescaped byte -/

/-- Cut a text around the last unescaped byte `needle` that does not stand before the byte `start`.
This fails if the text before that byte or behind it is not a slice of the text. -/
def cutByBytes? (needle escape : Char) (start : ℕ) (t : Text) : Option (Option (Text × Text)) :=
  match lastUnescaped? needle.toUInt8 escape.toUInt8 start (utf8 t) with
  | none => some none
  | some i => do
    let before ← slice? start i t
    let after ← slice? (i + 1) (utf8Length t) t
    some (some (before, after))

/-- Behind a text that does not end with the escape, a text is cut at its bytes as it is cut at its
characters. -/
theorem cutByBytes?_append (hn : needle.toNat < 128) (he : escape.toNat < 128)
    (hfront : front.getLast? ≠ some escape) (t : Text) :
    cutByBytes? needle escape (utf8Length front) (front ++ t) =
      some (cutLastUnescaped? needle escape t) := by
  rw [cutByBytes?, lastUnescaped?_utf8_append hn he hfront, cutLastUnescaped?]
  rcases h : lastUnescaped? needle escape 0 t with _ | k
  · rfl
  · obtain ⟨-, before, after, rfl, rfl, -⟩ :=
      mem_stops_iff_append.1 (lastUnescaped?_eq_some_iff.1 h).1
    have htake : (before ++ needle :: after).take before.length = before := by simp
    have hdrop : (before ++ needle :: after).drop (before.length + 1) = after := by simp
    have hbefore : slice? (utf8Length front) (utf8Length (front ++ before))
        (front ++ (before ++ needle :: after)) = some before :=
      slice?_eq_some_iff.2 ⟨front, needle :: after, by simp, rfl, rfl⟩
    have hafter : slice? (utf8Length (front ++ before) + 1)
        (utf8Length (front ++ (before ++ needle :: after)))
        (front ++ (before ++ needle :: after)) = some after :=
      slice?_eq_some_iff.2 ⟨front ++ before ++ [needle], [], by simp,
        by simp [utf8Size_of_lt hn, Nat.add_assoc], by simp⟩
    simp only [Option.map_some, htake, hdrop, hbefore, hafter]
    rfl

end AsciiSearch

end ContentBlocker.Text
