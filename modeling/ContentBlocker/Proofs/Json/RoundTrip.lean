import ContentBlocker.Json.Printer
import ContentBlocker.Json.Reader
import Mathlib.Data.List.DropRight
import Mathlib.Tactic

/-!
# Reading what was written

A value that is written, on lines or without blanks, is read again as the same value.

* `readString?_escaped` reads a written string up to its closing quotation mark;
* `Writes` says that a text is a value, with any spaces between its parts, and
  `readValue?_of_writes` reads such a text in front of any other;
* `isPlain` says that a value holds no numbers and no broken strings;
* `prettyAt_writes` and `compact_writes`: plain values are written in the two layouts;
* `parse?_pretty` and `parse?_compact` read a whole text.
-/

namespace ContentBlocker.Json

/-! ### Strings -/

theorem hexDigit?_hexChar {n : ℕ} (h : n < 16) : hexDigit? (hexChar n) = some n := by
  have hall : ∀ n < 16, hexDigit? (hexChar n) = some n := by decide
  exact hall n h

theorem hex4?_hexChar {n : ℕ} (h : n < 32) :
    hex4? '0' '0' (hexChar (n / 16)) (hexChar (n % 16)) = some n := by
  have hzero : hexDigit? '0' = some 0 := by decide
  have hvalue : 4096 * 0 + 256 * 0 + 16 * (n / 16) + n % 16 = n := by omega
  simp only [hex4?, hzero, hexDigit?_hexChar (show n / 16 < 16 by omega),
    hexDigit?_hexChar (show n % 16 < 16 by omega), Option.bind_eq_bind, Option.bind_some, hvalue]

/-- An escaped character is read as itself, and is no closing quotation mark. -/
theorem readChar?_escapeChar (c : Char) (t : Text) :
    readChar? (escapeChar c ++ t) = some (some c, t) ∧ (escapeChar c ++ t).head? ≠ some '"' := by
  unfold escapeChar
  split_ifs with h₁ h₂ h₃ h₄ h₅ h₆ h₇ h₈
  any_goals (subst c; exact ⟨rfl, by simp⟩)
  · -- a control character without a letter of its own is written by its number
    have hhigh : isHighSurrogate c.toNat = false := by
      simp only [isHighSurrogate, Bool.and_eq_false_iff, decide_eq_false_iff_not]
      omega
    have hlow : isLowSurrogate c.toNat = false := by
      simp only [isLowSurrogate, Bool.and_eq_false_iff, decide_eq_false_iff_not]
      omega
    refine ⟨?_, by simp⟩
    simp only [List.cons_append, List.nil_append, readChar?, hex4?_hexChar h₈, hhigh, hlow,
      Bool.false_eq_true, if_false, Char.ofNat_toNat]
  · refine ⟨?_, by simpa using h₁⟩
    have hc : ¬(c = '\\' ∨ c.toNat < 32) := by simp [h₂, h₈]
    simp only [List.singleton_append]
    rw [readChar?.eq_def]
    split <;> simp_all

/-- A written string is read up to its closing quotation mark. -/
theorem readString?_escaped (s t : Text) :
    readString? (s.flatMap escapeChar ++ '"' :: t) = some (some s, t) := by
  induction s with
  | nil =>
    rw [readString?]
    rfl
  | cons c s ih =>
    obtain ⟨hread, hhead⟩ := readChar?_escapeChar c (s.flatMap escapeChar ++ '"' :: t)
    rw [List.flatMap_cons, List.append_assoc, readString?, if_neg hhead]
    split
    · next d rest hd =>
      rw [hread] at hd
      cases hd
      rw [ih]
      rfl
    · next hd =>
      rw [hread] at hd
      cases hd

/-! ### Spaces -/

theorem skipSpaces_of_head? {t : Text} (h : ∀ c ∈ t.head?, isSpace c = false) :
    skipSpaces t = t := by
  rcases t with _ | ⟨c, t⟩
  · rfl
  · simp [skipSpaces, h c rfl]

theorem skipSpaces_append {s : Text} (hs : s.all isSpace = true) (t : Text) :
    skipSpaces (s ++ t) = skipSpaces t := by
  rw [List.all_eq_true] at hs
  exact List.dropWhile_append_of_pos hs

theorem nil_isSpace : ([] : Text).all isSpace = true := rfl

theorem blank_isSpace : [' '].all isSpace = true := rfl

theorem indent_isSpace (depth : ℕ) : (indent depth).all isSpace = true := by
  have hspace : isSpace '\n' = true ∧ isSpace '\t' = true := by decide
  simp [indent, hspace]

/-- Spaces in front of a value do not count. -/
theorem readValue?_append {s : Text} (hs : s.all isSpace = true) (fuel : ℕ) (t : Text) :
    readValue? fuel (s ++ t) = readValue? fuel t := by
  cases fuel with
  | zero => simp only [readValue?]
  | succ fuel => simp only [readValue?, skipSpaces_append hs]

theorem skipSpaces_skipSpaces (t : Text) : skipSpaces (skipSpaces t) = skipSpaces t :=
  List.dropWhile_idempotent _ _

theorem readItems?_skipSpaces (fuel : ℕ) (t : Text) :
    readItems? fuel (skipSpaces t) = readItems? fuel t := by
  have hvalue : ∀ n, readValue? n (skipSpaces t) = readValue? n t := by
    intro n
    cases n with
    | zero => simp only [readValue?]
    | succ n => simp only [readValue?, skipSpaces_skipSpaces]
  cases fuel with
  | zero => simp only [readItems?]
  | succ fuel => simp only [readItems?, hvalue]

theorem readFields?_skipSpaces (fuel : ℕ) (t : Text) :
    readFields? fuel (skipSpaces t) = readFields? fuel t := by
  cases fuel with
  | zero => simp only [readFields?]
  | succ fuel => simp only [readFields?, skipSpaces_skipSpaces]

/-! ### Values with any spaces between their parts -/

mutual

/-- The text is the value, with any spaces between its parts. -/
inductive Writes : Json → Text → Prop
  | null : Writes .null "null"
  | yes : Writes (.bool true) "true"
  | no : Writes (.bool false) "false"
  | str (s : Text) : Writes (.str s) (quote s)
  | noItems : Writes (.arr []) ['[', ']']
  | items {items : List Json} {t s : Text} (h : WritesItems items t) (hs : s.all isSpace = true) :
    Writes (.arr items) ('[' :: (t ++ s ++ [']']))
  | noFields : Writes (.obj []) ['\x7b', '\x7d']
  | fields {fields : List (Text × Json)} {t s : Text} (h : WritesFields fields t)
    (hs : s.all isSpace = true) : Writes (.obj fields) ('\x7b' :: (t ++ s ++ ['\x7d']))

/-- The text is the items, at least one, with commas between. -/
inductive WritesItems : List Json → Text → Prop
  | last {s : Text} (hs : s.all isSpace = true) {j : Json} {t : Text} (h : Writes j t) :
    WritesItems [j] (s ++ t)
  | more {s : Text} (hs : s.all isSpace = true) {j : Json} {t : Text} (h : Writes j t)
    {items : List Json} {u : Text} (hitems : WritesItems items u) :
    WritesItems (j :: items) (s ++ (t ++ ',' :: u))

/-- The text is the fields, at least one, with commas between. -/
inductive WritesFields : List (Text × Json) → Text → Prop
  | last {s : Text} (hs : s.all isSpace = true) (k : Text) {s' : Text}
    (hs' : s'.all isSpace = true) {j : Json} {t : Text} (h : Writes j t) :
    WritesFields [(k, j)] (s ++ (quote k ++ ':' :: (s' ++ t)))
  | more {s : Text} (hs : s.all isSpace = true) (k : Text) {s' : Text}
    (hs' : s'.all isSpace = true) {j : Json} {t : Text} (h : Writes j t)
    {fields : List (Text × Json)} {u : Text} (hfields : WritesFields fields u) :
    WritesFields ((k, j) :: fields) (s ++ (quote k ++ ':' :: (s' ++ (t ++ ',' :: u))))

end

/-- A value begins with no space, and not with the sign at the end of a list. -/
theorem Writes.head {j : Json} {t : Text} (h : Writes j t) :
    ∃ c u, t = c :: u ∧ isSpace c = false ∧ c ≠ ']' := by
  cases h with
  | null => exact ⟨'n', _, rfl, by decide, by decide⟩
  | yes => exact ⟨'t', _, rfl, by decide, by decide⟩
  | no => exact ⟨'f', _, rfl, by decide, by decide⟩
  | str => exact ⟨'"', _, rfl, by decide, by decide⟩
  | noItems | items => exact ⟨'[', _, rfl, by decide, by decide⟩
  | noFields | fields => exact ⟨'\x7b', _, rfl, by decide, by decide⟩

theorem Writes.length_pos {j : Json} {t : Text} (h : Writes j t) : 0 < t.length := by
  obtain ⟨c, u, rfl, -⟩ := h.head
  simp

/-- A list does not end in front of its first item. -/
theorem WritesItems.head {items : List Json} {t : Text} (h : WritesItems items t) (rest : Text) :
    (skipSpaces (t ++ rest)).head? ≠ some ']' := by
  have hvalue : ∀ {s : Text} {j : Json} {t : Text} (rest : Text), s.all isSpace = true →
      Writes j t → (skipSpaces (s ++ (t ++ rest))).head? ≠ some ']' := by
    intro s j t rest hs ht
    obtain ⟨c, u, rfl, hspace, hne⟩ := ht.head
    rw [skipSpaces_append hs, skipSpaces_of_head? (by simpa using hspace)]
    simpa using hne
  cases h with
  | last hs h =>
    rw [List.append_assoc]
    exact hvalue _ hs h
  | more hs h =>
    rw [List.append_assoc, List.append_assoc]
    exact hvalue _ hs h

/-- An object does not end in front of its first field. -/
theorem WritesFields.head {fields : List (Text × Json)} {t : Text} (h : WritesFields fields t)
    (rest : Text) : (skipSpaces (t ++ rest)).head? ≠ some '\x7d' := by
  have hname : ∀ {s : Text} (k rest : Text), s.all isSpace = true →
      (skipSpaces (s ++ (quote k ++ rest))).head? ≠ some '\x7d' := by
    intro s k rest hs
    rw [skipSpaces_append hs, quote, List.cons_append, skipSpaces_of_head? (by simp [isSpace])]
    simp
  cases h with
  | last hs k | more hs k =>
    rw [List.append_assoc, List.append_assoc]
    exact hname k _ hs

theorem ofFields_some (fields : List (Text × Json)) :
    ofFields (fields.map fun f => (some f.1, f.2)) = .obj fields := by
  have h : (fields.map fun f => (some f.1, f.2)).mapM
      (fun f : Option Text × Json => f.1.map fun name => (name, f.2)) = some fields := by
    induction fields with
    | nil => rfl
    | cons f fields ih => simp [List.mapM_cons, ih]
  rw [ofFields, h]

theorem readValue?_list {t : Text} (h : (skipSpaces t).head? ≠ some ']') (fuel : ℕ) :
    readValue? (fuel + 1) ('[' :: t) = (readItems? fuel t).map fun s => (.arr s.1, s.2) := by
  have hs : skipSpaces ('[' :: t) = '[' :: t := rfl
  rw [← readItems?_skipSpaces fuel t]
  simp only [readValue?, hs]
  split
  · next u hu =>
    rw [hu] at h
    exact absurd rfl h
  · rfl

theorem readValue?_object {t : Text} (h : (skipSpaces t).head? ≠ some '\x7d') (fuel : ℕ) :
    readValue? (fuel + 1) ('\x7b' :: t) =
      (readFields? fuel t).map fun s => (ofFields s.1, s.2) := by
  have hs : skipSpaces ('\x7b' :: t) = '\x7b' :: t := rfl
  rw [← readFields?_skipSpaces fuel t]
  simp only [readValue?, hs]
  split
  · next u hu =>
    rw [hu] at h
    exact absurd rfl h
  · rfl

theorem readValue?_quote (n : ℕ) (s rest : Text) :
    readValue? (n + 1) (quote s ++ rest) = some (.str s, rest) := by
  have hread := readString?_escaped s rest
  rw [quote, List.cons_append, List.append_assoc]
  show (readString? (s.flatMap escapeChar ++ '"' :: rest)).map _ = _
  rw [hread]
  rfl

/-- One item is read, and what follows it. -/
theorem readItems?_item {fuel : ℕ} {j : Json} {s t u : Text} {result : Option (List Json × Text)}
    (hs : s.all isSpace = true) (hread : readValue? fuel t = some (j, u))
    (hrest : (match skipSpaces u with
      | ',' :: v => (readItems? fuel v).map fun s => (j :: s.1, s.2)
      | ']' :: v => some ([j], v)
      | _ => none) = result) :
    readItems? (fuel + 1) (s ++ t) = result := by
  simp only [readItems?, readValue?_append hs, hread]
  exact hrest

/-- One field is read, with its value and what follows that. -/
theorem readFields?_field {fuel : ℕ} {j : Json} {s s' t u : Text}
    {result : Option (List (Option Text × Json) × Text)} (hs : s.all isSpace = true)
    (hs' : s'.all isSpace = true) (hread : readValue? fuel t = some (j, u)) (k : Text)
    (hrest : (match skipSpaces u with
      | ',' :: v => (readFields? fuel v).map fun s => ((some k, j) :: s.1, s.2)
      | '\x7d' :: v => some ([(some k, j)], v)
      | _ => none) = result) :
    readFields? (fuel + 1) (s ++ (quote k ++ ':' :: (s' ++ t))) = result := by
  have hquote : skipSpaces (s ++ (quote k ++ ':' :: (s' ++ t))) =
      '"' :: (k.flatMap escapeChar ++ '"' :: ':' :: (s' ++ t)) := by
    rw [skipSpaces_append hs, quote, List.cons_append, List.append_assoc]
    rfl
  have hcolon : ∀ v : Text, skipSpaces (':' :: v) = ':' :: v := fun _ => rfl
  simp only [readFields?, hquote, readString?_escaped, hcolon, readValue?_append hs', hread]
  exact hrest

mutual

/-- A value is read up to its end, whatever spaces are between its parts. -/
theorem readValue?_of_writes {j : Json} {t : Text} (h : Writes j t) (rest : Text) (fuel : ℕ)
    (hf : 2 * t.length ≤ fuel) : readValue? fuel (t ++ rest) = some (j, rest) := by
  have hlength := h.length_pos
  obtain ⟨n, rfl⟩ : ∃ n, fuel = n + 1 := ⟨fuel - 1, by omega⟩
  match h with
  | .null | .yes | .no | .noItems | .noFields => rfl
  | .str s => exact readValue?_quote n s rest
  | .items h hs =>
    rw [List.length_cons, List.length_append, List.length_append] at hf
    have hread := readItems?_of_writes h hs rest n (by omega)
    rw [List.cons_append, List.append_assoc, List.append_assoc, List.singleton_append,
      readValue?_list (h.head _), hread]
    rfl
  | .fields h hs =>
    rw [List.length_cons, List.length_append, List.length_append] at hf
    have hread := readFields?_of_writes h hs rest n (by omega)
    rw [List.cons_append, List.append_assoc, List.append_assoc, List.singleton_append,
      readValue?_object (h.head _), hread, Option.map_some, ofFields_some]

/-- Items are read up to the end of their list. -/
theorem readItems?_of_writes {items : List Json} {t : Text} (h : WritesItems items t) {e : Text}
    (he : e.all isSpace = true) (rest : Text) (fuel : ℕ) (hf : 2 * t.length + 1 ≤ fuel) :
    readItems? fuel (t ++ (e ++ ']' :: rest)) = some (items, rest) := by
  obtain ⟨n, rfl⟩ : ∃ n, fuel = n + 1 := ⟨fuel - 1, by omega⟩
  match h with
  | .last hs h =>
    rw [List.length_append] at hf
    have hread := readValue?_of_writes h (e ++ ']' :: rest) n (by omega)
    rw [List.append_assoc]
    refine readItems?_item hs hread ?_
    rw [skipSpaces_append he]
    rfl
  | .more (u := u) hs h hitems =>
    rw [List.length_append, List.length_append, List.length_cons] at hf
    have hread := readValue?_of_writes h (',' :: (u ++ (e ++ ']' :: rest))) n (by omega)
    have hrest := readItems?_of_writes hitems he rest n (by omega)
    rw [List.append_assoc, List.append_assoc, List.cons_append]
    refine readItems?_item hs hread ?_
    show (readItems? n _).map _ = _
    rw [hrest]
    rfl

/-- Fields are read up to the end of their object. -/
theorem readFields?_of_writes {fields : List (Text × Json)} {t : Text} (h : WritesFields fields t)
    {e : Text} (he : e.all isSpace = true) (rest : Text) (fuel : ℕ)
    (hf : 2 * t.length + 1 ≤ fuel) :
    readFields? fuel (t ++ (e ++ '\x7d' :: rest)) =
      some (fields.map fun f => (some f.1, f.2), rest) := by
  obtain ⟨n, rfl⟩ : ∃ n, fuel = n + 1 := ⟨fuel - 1, by omega⟩
  match h with
  | .last hs k hs' h =>
    rw [List.length_append, List.length_append, List.length_cons, List.length_append] at hf
    have hread := readValue?_of_writes h (e ++ '\x7d' :: rest) n (by omega)
    rw [List.append_assoc, List.append_assoc, List.cons_append, List.append_assoc]
    refine readFields?_field hs hs' hread k ?_
    rw [skipSpaces_append he]
    rfl
  | .more (u := u) hs k hs' h hfields =>
    rw [List.length_append, List.length_append, List.length_cons, List.length_append,
      List.length_append, List.length_cons] at hf
    have hread := readValue?_of_writes h (',' :: (u ++ (e ++ '\x7d' :: rest))) n
      (by omega)
    have hrest := readFields?_of_writes hfields he rest n (by omega)
    rw [List.append_assoc, List.append_assoc, List.cons_append, List.append_assoc,
      List.append_assoc, List.cons_append]
    refine readFields?_field hs hs' hread k ?_
    show (readFields? n _).map _ = _
    rw [hrest]
    rfl

end

/-- A text that is a value is read as this value. -/
theorem parse?_of_writes {j : Json} {t : Text} (h : Writes j t) : parse? t = some j := by
  have hread := readValue?_of_writes h [] (2 * t.length + 1) (by omega)
  rw [List.append_nil] at hread
  rw [parse?, hread]
  rfl

/-! ### The two layouts -/

mutual

/-- The value holds no numbers and no broken strings. -/
def isPlain : Json → Bool
  | .null | .bool _ | .str _ => true
  | .num _ | .broken => false
  | .arr items => allPlain items
  | .obj fields => allPlainFields fields

/-- The values are plain. -/
def allPlain : List Json → Bool
  | [] => true
  | j :: items => j.isPlain && allPlain items

/-- The values of the fields are plain. -/
def allPlainFields : List (Text × Json) → Bool
  | [] => true
  | (_, j) :: fields => j.isPlain && allPlainFields fields

end

mutual

/-- A plain value on lines is the value with spaces between its parts. -/
theorem prettyAt_writes {j : Json} (h : j.isPlain = true) (depth : ℕ) :
    Writes j (prettyAt depth j) := by
  match j, h with
  | .null, _ => exact .null
  | .bool true, _ => exact .yes
  | .bool false, _ => exact .no
  | .str s, _ => exact .str s
  | .arr [], _ => exact .noItems
  | .arr (j :: items), h =>
    exact .items (prettyItems_writes h (by simp) (depth + 1)) (indent_isSpace depth)
  | .obj [], _ => exact .noFields
  | .obj (f :: fields), h =>
    exact .fields (prettyFields_writes h (by simp) (depth + 1)) (indent_isSpace depth)

theorem prettyItems_writes {items : List Json} (h : allPlain items = true) (hn : items ≠ [])
    (depth : ℕ) : WritesItems items (prettyItems depth items) := by
  match items, hn, h with
  | [j], _, h =>
    have hj : j.isPlain = true := (Bool.and_eq_true _ _ ▸ h).1
    exact .last (indent_isSpace depth) (prettyAt_writes hj depth)
  | j :: j' :: items, _, h =>
    obtain ⟨hj, hitems⟩ : j.isPlain = true ∧ allPlain (j' :: items) = true :=
      Bool.and_eq_true _ _ ▸ h
    rw [prettyItems, List.append_assoc]
    · exact .more (indent_isSpace depth) (prettyAt_writes hj depth)
        (prettyItems_writes hitems (by simp) depth)
    · simp

theorem prettyFields_writes {fields : List (Text × Json)} (h : allPlainFields fields = true)
    (hn : fields ≠ []) (depth : ℕ) : WritesFields fields (prettyFields depth fields) := by
  match fields, hn, h with
  | [(k, j)], _, h =>
    have hj : j.isPlain = true := (Bool.and_eq_true _ _ ▸ h).1
    rw [prettyFields, List.append_assoc]
    exact .last (indent_isSpace depth) k blank_isSpace (prettyAt_writes hj depth)
  | (k, j) :: f :: fields, _, h =>
    obtain ⟨hj, hfields⟩ : j.isPlain = true ∧ allPlainFields (f :: fields) = true :=
      Bool.and_eq_true _ _ ▸ h
    rw [prettyFields, List.append_assoc]
    · exact .more (indent_isSpace depth) k blank_isSpace (prettyAt_writes hj depth)
        (prettyFields_writes hfields (by simp) depth)
    · simp

end

mutual

/-- A plain value without blanks is the value with no spaces between its parts. -/
theorem compact_writes {j : Json} (h : j.isPlain = true) : Writes j j.compact := by
  match j, h with
  | .null, _ => exact .null
  | .bool true, _ => exact .yes
  | .bool false, _ => exact .no
  | .str s, _ => exact .str s
  | .arr [], _ => exact .noItems
  | .arr (j :: items), h =>
    have hitems := Writes.items (compactItems_writes h (by simp)) nil_isSpace
    rwa [List.append_nil] at hitems
  | .obj [], _ => exact .noFields
  | .obj (f :: fields), h =>
    have hfields := Writes.fields (compactFields_writes h (by simp)) nil_isSpace
    rwa [List.append_nil] at hfields

theorem compactItems_writes {items : List Json} (h : allPlain items = true) (hn : items ≠ []) :
    WritesItems items (compactItems items) := by
  match items, hn, h with
  | [j], _, h =>
    have hj : j.isPlain = true := (Bool.and_eq_true _ _ ▸ h).1
    exact .last nil_isSpace (compact_writes hj)
  | j :: j' :: items, _, h =>
    obtain ⟨hj, hitems⟩ : j.isPlain = true ∧ allPlain (j' :: items) = true :=
      Bool.and_eq_true _ _ ▸ h
    exact .more nil_isSpace (compact_writes hj) (compactItems_writes hitems (by simp))

theorem compactFields_writes {fields : List (Text × Json)} (h : allPlainFields fields = true)
    (hn : fields ≠ []) : WritesFields fields (compactFields fields) := by
  match fields, hn, h with
  | [(k, j)], _, h =>
    have hj : j.isPlain = true := (Bool.and_eq_true _ _ ▸ h).1
    exact .last nil_isSpace k nil_isSpace (compact_writes hj)
  | (k, j) :: f :: fields, _, h =>
    obtain ⟨hj, hfields⟩ : j.isPlain = true ∧ allPlainFields (f :: fields) = true :=
      Bool.and_eq_true _ _ ▸ h
    exact .more nil_isSpace k nil_isSpace (compact_writes hj)
      (compactFields_writes hfields (by simp))

end

/-- A value that is written on lines is read again. -/
theorem parse?_pretty {j : Json} (h : j.isPlain = true) : parse? j.pretty = some j :=
  parse?_of_writes (prettyAt_writes h 0)

/-- A value that is written without blanks is read again. -/
theorem parse?_compact {j : Json} (h : j.isPlain = true) : parse? j.compact = some j :=
  parse?_of_writes (compact_writes h)

end ContentBlocker.Json
