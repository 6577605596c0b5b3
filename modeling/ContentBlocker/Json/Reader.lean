import ContentBlocker.Json.Basic

/-!
# Reading JSON

`Json.parse?` reads a whole text as one value.  The readers of parts take the text from some place
on and give what they read and the rest of the text.
-/

namespace ContentBlocker.Json

/-- A character that may stand between the parts of a value. -/
def isSpace (c : Char) : Bool := c = ' ' || c = '\n' || c = '\t' || c = '\r'

/-- A text without the spaces at its start. -/
def skipSpaces (t : Text) : Text := t.dropWhile isSpace

/-! ### Strings -/

/-- The value of a hexadecimal digit. -/
def hexDigit? (c : Char) : Option Nat :=
  if c.isDigit then some (c.toNat - '0'.toNat)
  else if 'a' ≤ c ∧ c ≤ 'f' then some (c.toNat - 'a'.toNat + 10)
  else if 'A' ≤ c ∧ c ≤ 'F' then some (c.toNat - 'A'.toNat + 10)
  else none

/-- The number of four hexadecimal digits. -/
def hex4? (a b c d : Char) : Option Nat := do
  let a ← hexDigit? a
  let b ← hexDigit? b
  let c ← hexDigit? c
  let d ← hexDigit? d
  some (4096 * a + 256 * b + 16 * c + d)

/-- The number is the first half of a pair of surrogates. -/
def isHighSurrogate (n : Nat) : Bool := 0xD800 ≤ n && n < 0xDC00

/-- The number is the second half of a pair of surrogates. -/
def isLowSurrogate (n : Nat) : Bool := 0xDC00 ≤ n && n < 0xE000

/-- The character of a pair of surrogates. -/
def joinSurrogates (high low : Nat) : Char :=
  Char.ofNat (0x10000 + (high - 0xD800) * 1024 + (low - 0xDC00))

/-- The character that a backslash and a letter write, the letter `u` excepted. -/
def unescape? (c : Char) : Option Char :=
  match c with
  | '"' => some '"'
  | '\\' => some '\\'
  | '/' => some '/'
  | 'b' => some '\x08'
  | 'f' => some '\x0c'
  | 'n' => some '\n'
  | 'r' => some '\r'
  | 't' => some '\t'
  | _ => none

/-- Read the second half of a pair of surrogates, if a text starts with one. -/
def lowHalf? : Text → Option (Nat × Text)
  | '\\' :: 'u' :: a :: b :: c :: d :: t =>
    match hex4? a b c d with
    | some n => if isLowSurrogate n then some (n, t) else none
    | none => none
  | _ => none

/-- Read one character of a string, which does not end here; there is none if it is half of a pair
of surrogates. -/
def readChar? : Text → Option (Option Char × Text)
  | '\\' :: 'u' :: a :: b :: c :: d :: t =>
    match hex4? a b c d with
    | none => none
    | some n =>
      if isHighSurrogate n then
        match lowHalf? t with
        | some (m, rest) => some (some (joinSurrogates n m), rest)
        | none => some (none, t)
      else if isLowSurrogate n then some (none, t)
      else some (some (Char.ofNat n), t)
  | '\\' :: c :: t => (unescape? c).map fun u => (some u, t)
  | c :: t => if c = '\\' ∨ c.toNat < 32 then none else some (some c, t)
  | [] => none

theorem lowHalf?_length {t rest : Text} {n : Nat} (h : lowHalf? t = some (n, rest)) :
    rest.length < t.length := by
  unfold lowHalf? at h
  split at h
  · split at h
    · split at h
      · simp only [Option.some.injEq, Prod.mk.injEq] at h
        simp only [List.length_cons, ← h.2]
        omega
      · simp at h
    · simp at h
  · simp at h

theorem readChar?_length {t rest : Text} {d : Option Char} (h : readChar? t = some (d, rest)) :
    rest.length < t.length := by
  unfold readChar? at h
  split at h
  · split at h
    · simp at h
    · split at h
      · split at h
        · rename_i hl
          have := lowHalf?_length hl
          simp only [Option.some.injEq, Prod.mk.injEq] at h
          simp only [List.length_cons, ← h.2]
          omega
        · simp only [Option.some.injEq, Prod.mk.injEq] at h
          simp only [List.length_cons, ← h.2]
          omega
      · split at h <;>
        · simp only [Option.some.injEq, Prod.mk.injEq] at h
          simp only [List.length_cons, ← h.2]
          omega
  · simp only [Option.map_eq_some_iff, Prod.mk.injEq] at h
    obtain ⟨_, _, _, rfl⟩ := h
    simp only [List.length_cons]
    omega
  · split at h
    · simp at h
    · simp only [Option.some.injEq, Prod.mk.injEq] at h
      simp [← h.2]
  · simp at h

/-- Put a character before a text; there is none if either is missing. -/
def cons? : Option Char → Option Text → Option Text
  | some c, some t => some (c :: t)
  | _, _ => none

/-- Read a string behind its opening quotation mark; there is no text if it holds half of a pair of
surrogates. -/
def readString? (t : Text) : Option (Option Text × Text) :=
  if t.head? = some '"' then some (some [], t.tail)
  else match _h : readChar? t with
    | some (d, rest) => (readString? rest).map fun s => (cons? d s.1, s.2)
    | none => none
termination_by t.length
decreasing_by exact readChar?_length ‹_›

/-! ### Numbers -/

/-- Read digits, at least one. -/
def readDigits? (t : Text) : Option (Text × Text) :=
  match t.takeWhile Char.isDigit with
  | [] => none
  | digits => some (digits, t.dropWhile Char.isDigit)

/-- Read the part of a number before its point: no zero stands before other digits. -/
def readWhole? : Text → Option (Text × Text)
  | '0' :: t => if t.head?.any Char.isDigit then none else some (['0'], t)
  | t => readDigits? t

/-- Read the point of a number and the digits behind it, if there is a point. -/
def readFraction? : Text → Option (Text × Text)
  | '.' :: t => (readDigits? t).map fun s => ('.' :: s.1, s.2)
  | t => some ([], t)

/-- Read the sign of an exponent, if there is one. -/
def readSign : Text → Text × Text
  | '+' :: t => (['+'], t)
  | '-' :: t => (['-'], t)
  | t => ([], t)

/-- Read the exponent of a number, if there is one. -/
def readExponent? : Text → Option (Text × Text)
  | [] => some ([], [])
  | c :: t =>
    if c = 'e' ∨ c = 'E' then
      let (sign, rest) := readSign t
      (readDigits? rest).map fun s => (c :: (sign ++ s.1), s.2)
    else some ([], c :: t)

/-- Read a number. -/
def readNumber? (t : Text) : Option (Text × Text) := do
  let (minus, t) := match t with
    | '-' :: u => (['-'], u)
    | _ => ([], t)
  let (whole, t) ← readWhole? t
  let (fraction, t) ← readFraction? t
  let (exponent, t) ← readExponent? t
  some (minus ++ whole ++ fraction ++ exponent, t)

/-! ### Values -/

/-- The value of a string that was read. -/
def ofString : Option Text → Json
  | some t => .str t
  | none => .broken

/-- The value of an object whose fields were read. -/
def ofFields (fields : List (Option Text × Json)) : Json :=
  match fields.mapM fun f => f.1.map fun name => (name, f.2) with
  | some fields => .obj fields
  | none => .broken

mutual

/-- Read a value, with at most `fuel` steps inside of each other. -/
def readValue? : Nat → Text → Option (Json × Text)
  | 0, _ => none
  | fuel + 1, t =>
    match skipSpaces t with
    | 'n' :: 'u' :: 'l' :: 'l' :: t => some (.null, t)
    | 't' :: 'r' :: 'u' :: 'e' :: t => some (.bool true, t)
    | 'f' :: 'a' :: 'l' :: 's' :: 'e' :: t => some (.bool false, t)
    | '"' :: t => (readString? t).map fun s => (ofString s.1, s.2)
    | '[' :: t =>
      match skipSpaces t with
      | ']' :: t => some (.arr [], t)
      | t => (readItems? fuel t).map fun s => (.arr s.1, s.2)
    | '\x7b' :: t =>
      match skipSpaces t with
      | '\x7d' :: t => some (.obj [], t)
      | t => (readFields? fuel t).map fun s => (ofFields s.1, s.2)
    | t => (readNumber? t).map fun s => (.num s.1, s.2)

/-- Read the items of a list, at least one, up to its end. -/
def readItems? : Nat → Text → Option (List Json × Text)
  | 0, _ => none
  | fuel + 1, t =>
    match readValue? fuel t with
    | none => none
    | some (j, t) =>
      match skipSpaces t with
      | ',' :: t => (readItems? fuel t).map fun s => (j :: s.1, s.2)
      | ']' :: t => some ([j], t)
      | _ => none

/-- Read the fields of an object, at least one, up to its end. -/
def readFields? : Nat → Text → Option (List (Option Text × Json) × Text)
  | 0, _ => none
  | fuel + 1, t =>
    match skipSpaces t with
    | '"' :: t =>
      match readString? t with
      | none => none
      | some (k, t) =>
        match skipSpaces t with
        | ':' :: t =>
          match readValue? fuel t with
          | none => none
          | some (j, t) =>
            match skipSpaces t with
            | ',' :: t => (readFields? fuel t).map fun s => ((k, j) :: s.1, s.2)
            | '\x7d' :: t => some ([(k, j)], t)
            | _ => none
        | _ => none
    | _ => none

end

/-- The value that a text writes.  Each character allows for two steps inside of each other. -/
def parse? (t : Text) : Option Json :=
  match readValue? (2 * t.length + 1) t with
  | some (j, rest) => if skipSpaces rest = [] then some j else none
  | none => none

end ContentBlocker.Json
