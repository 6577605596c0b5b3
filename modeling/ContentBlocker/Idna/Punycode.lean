import ContentBlocker.Text.Basic

/-!
# Punycode

The encoding of a text as a short ASCII text: its ASCII characters in order, a hyphen, and for
every other character the number of states that the decoder passes before it inserts that
character.

* `encode` writes a text;
* `decode?` reads one back.
-/

namespace ContentBlocker.Idna.Punycode

/-- The character of a digit below 36. -/
def digitChar (d : Nat) : Char := Char.ofNat (if d < 26 then 'a'.toNat + d else '0'.toNat + d - 26)

/-- The digit of a character, in either case. -/
def digitValue? (c : Char) : Option Nat :=
  if 'a' ≤ c ∧ c ≤ 'z' then some (c.toNat - 'a'.toNat)
  else if 'A' ≤ c ∧ c ≤ 'Z' then some (c.toNat - 'A'.toNat)
  else if c.isDigit then some (c.toNat - '0'.toNat + 26)
  else none

/-! ### Bias -/

/-- The number of times that 35 divides into `delta` before it is at most 455, times 36, and what
is left of `delta` then. -/
def settle (delta steps : Nat) : Nat × Nat :=
  if 455 < delta then settle (delta / 35) (steps + 36) else (delta, steps)
termination_by delta

/-- The next bias after a jump of `delta` to one of `count` places. -/
def adapt (delta count : Nat) (first : Bool) : Nat :=
  let delta := if first then delta / 700 else delta / 2
  let (rest, steps) := settle (delta + delta / count) 0
  steps + 36 * rest / (rest + 38)

/-- The threshold of the digit at position `k`, a multiple of 36. -/
def threshold (k bias : Nat) : Nat :=
  if k ≤ bias then 1 else if bias + 26 ≤ k then 26 else k - bias

theorem threshold_le (k bias : Nat) : threshold k bias ≤ 26 := by
  unfold threshold
  split <;> (try split) <;> omega

theorem one_le_threshold (k bias : Nat) : 1 ≤ threshold k bias := by
  unfold threshold
  split <;> (try split) <;> omega

/-! ### Encoding -/

/-- The digits of a number, from the digit at position `k` on. -/
def writeNumber (bias k q : Nat) : Text :=
  if q < threshold k bias then [digitChar q]
  else
    digitChar (threshold k bias + (q - threshold k bias) % (36 - threshold k bias)) ::
      writeNumber bias (k + 36) ((q - threshold k bias) / (36 - threshold k bias))
termination_by q
decreasing_by
  have h₁ := one_le_threshold k bias
  have h₂ := threshold_le k bias
  have h₃ : (q - threshold k bias) / (36 - threshold k bias) ≤ q - threshold k bias :=
    Nat.div_le_self _ _
  omega

/-- The state of the encoder. -/
structure Encoding where
  /-- The states passed since the last insertion. -/
  delta : Nat
  /-- The current bias. -/
  bias : Nat
  /-- The number of characters written so far. -/
  written : Nat
  /-- The output, the latest character first. -/
  output : Text

namespace Encoding

/-- Pass over one character while the characters `n` are inserted. -/
def step (n basic : Nat) (s : Encoding) (c : Char) : Encoding :=
  if c.toNat < n then { s with delta := s.delta + 1 }
  else if c.toNat = n then
    ⟨0, adapt s.delta (s.written + 1) (s.written = basic), s.written + 1,
      (writeNumber s.bias 36 s.delta).reverse ++ s.output⟩
  else s

/-- Insert all the characters `n`, when `before` was inserted last. -/
def insertAll (t : Text) (basic : Nat) (s : Encoding × Nat) (n : Nat) : Encoding × Nat :=
  let delta := s.1.delta + (n - s.2) * (s.1.written + 1)
  (t.foldl (step n basic) { s.1 with delta := delta }, n + 1)

end Encoding

/-- The punycode of a text. -/
def encode (t : Text) : Text :=
  let basic := t.filter fun c => c.toNat < 128
  let others := ((t.map Char.toNat).filter (128 ≤ ·)).mergeSort.eraseDups
  let start : Text := if basic.isEmpty then [] else basic ++ ['-']
  let final := others.foldl (fun s n =>
      let (e, next) := Encoding.insertAll t basic.length s n
      ({ e with delta := e.delta + 1 }, next))
    (⟨0, 72, basic.length, start.reverse⟩, 128)
  final.1.output.reverse

/-! ### Decoding -/

/-- Read the digits of one number from position `k` on: the number, added to `i` with the weight
`w`, and the rest of the text.  Weights have at most 32 bits. -/
def readNumber? (bias k i w : Nat) : Text → Option (Nat × Text)
  | [] => none
  | c :: t =>
    match digitValue? c with
    | none => none
    | some d =>
      if d < threshold k bias then some (i + d * w, t)
      else if 0x100000000 ≤ w * (36 - threshold k bias) then none
      else readNumber? bias (k + 36) (i + d * w) (w * (36 - threshold k bias)) t

theorem readNumber?_length {bias k i w n : Nat} {t r : Text}
    (h : readNumber? bias k i w t = some (n, r)) : r.length < t.length := by
  induction t generalizing k i w with
  | nil => simp [readNumber?] at h
  | cons c t ih =>
    rw [readNumber?] at h
    split at h
    · simp at h
    · split at h
      · simp only [Option.some.injEq, Prod.mk.injEq] at h
        simp [h.2]
      · split at h
        · simp at h
        · have := ih h
          simp only [List.length_cons]
          omega

/-- Decode the numbers in `t`.  The next character is inserted into `output` when `i` states have
been passed since the code point `n` at the first place. -/
def decodeFrom? (n i bias : Nat) (output t : Text) : Option Text :=
  if t = [] then some output
  else match _h : readNumber? bias 36 i 1 t with
    | none => none
    | some (j, rest) =>
      let count := output.length + 1
      let next := n + j / count
      if Nat.isValidChar next then
        decodeFrom? next (j % count + 1) (adapt (j - i) count (i = 0))
          (output.insertIdx (j % count) (Char.ofNat next)) rest
      else none
termination_by t.length
decreasing_by exact readNumber?_length ‹_›

/-- The text that a punycode writes: what stands before the last hyphen is ASCII and not empty,
and the numbers follow. -/
def decode? (t : Text) : Option Text :=
  match Text.cutLast? '-' t with
  | some (c :: basic, numbers) =>
    if Text.isAscii (c :: basic) then decodeFrom? 128 0 72 (c :: basic) numbers else none
  | _ => decodeFrom? 128 0 72 [] t

end ContentBlocker.Idna.Punycode
