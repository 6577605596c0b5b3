import ContentBlocker.Proofs.Text.Ends
import ContentBlocker.Regex.Parser

/-!
# Reading the pieces of an expression

What the readers of expressions make of a piece that stands before more text, when no blanks are
skipped.

* `readSetFrom?_char`, `readSetFrom?_range` and `readSetFrom?_closing` read a set between brackets
  item by item;
* `tokensFrom?_cons` cuts the first token off a text;
* `Adds` says that some tokens add some parts to an expression;
* `depth_ofParts_le` bounds the nesting of parts in a row.
-/

namespace ContentBlocker

/-- A character of a set. -/
def CharSet.char (c : Char) : CharSet := .literal ⟨c, false⟩

/-- A character of an expression. -/
def Regex.char (c : Char) : Regex := .literal ⟨c, false⟩

namespace Regex

/-! ### Sets between brackets -/

theorem readItem?_char {c : Char} (hc : c ≠ '\\') (t : Text) :
    readItem? false (c :: t) = some (.char c, t) := by
  unfold readItem?
  split
  · simp_all
  · simp_all
  · simp_all [CharSet.char]

/-- A character that no hyphen follows stands for itself. -/
theorem readRange?_char {c d : Char} (hc : c ≠ '\\') (hd : d ≠ '-') (t : Text) :
    readRange? false (c :: d :: t) = some (.char c, d :: t) := by
  rw [readRange?, readItem?_char hc]
  simp only [skip, Option.bind_eq_bind, Option.bind_some]
  split
  · simp_all
  · simp_all
  · simp_all

theorem readRange?_range {a b : Char} (ha : a ≠ '\\') (hb : b ∉ ("]-\\" : Text))
    (h : a.toNat ≤ b.toNat) (t : Text) :
    readRange? false (a :: '-' :: b :: t) = some (.range ⟨a, false⟩ ⟨b, false⟩, t) := by
  have hb' : b ≠ ']' ∧ b ≠ '-' ∧ b ≠ '\\' := by simpa using hb
  rw [readRange?, readItem?_char ha]
  simp [skip, afterHyphen, readItem?_char, CharSet.char, hb', h]

/-- One item of a set is read; a doubled sign would be an operator. -/
theorem readSetFrom?_item {l : SetLevel} {c : Char} {u rest : Text} {s : CharSet}
    (hc : c ∉ ("[]" : Text)) (hu : u.head? ≠ some c)
    (h : readRange? false (c :: u) = some (s, rest)) (hl : rest.length ≤ u.length) :
    readSetFrom? false l [] (c :: u) = readSetFrom? false (l.add s) [] rest := by
  have hc : c ≠ '[' ∧ c ≠ ']' := by simpa using hc
  have hl : rest.length < (c :: u).length := by simpa using Nat.lt_succ_of_le hl
  rw [readSetFrom?]
  simp only [skip]
  split <;> simp_all

theorem readSetFrom?_char {l : SetLevel} {c d : Char} (hc : c ∉ ("[]\\" : Text)) (hd : d ≠ c)
    (hd' : d ≠ '-') (t : Text) :
    readSetFrom? false l [] (c :: d :: t) = readSetFrom? false (l.add (.char c)) [] (d :: t) := by
  have hc : c ≠ '[' ∧ c ≠ ']' ∧ c ≠ '\\' := by simpa using hc
  exact readSetFrom?_item (by simp [hc]) (by simpa using hd) (readRange?_char hc.2.2 hd' t)
    (by simp)

theorem readSetFrom?_range {l : SetLevel} {a b : Char} (ha : a ∉ ("[]-\\" : Text))
    (hb : b ∉ ("]-\\" : Text)) (h : a.toNat ≤ b.toNat) (t : Text) :
    readSetFrom? false l [] (a :: '-' :: b :: t) =
      readSetFrom? false (l.add (.range ⟨a, false⟩ ⟨b, false⟩)) [] t := by
  have ha : a ≠ '[' ∧ a ≠ ']' ∧ a ≠ '-' ∧ a ≠ '\\' := by simpa using ha
  refine readSetFrom?_item (by simp [ha]) (by simpa using Ne.symm ha.2.2.1)
    (readRange?_range ha.2.2.2 hb h t) ?_
  simp only [List.length_cons]
  omega

theorem readSetFrom?_closing (l : SetLevel) (t : Text) :
    readSetFrom? false l [] (']' :: t) = some (l.negated, l.toSet, t) := by
  rw [readSetFrom?]
  simp [skip]

/-- A set that begins with an item is not complemented. -/
theorem readSet?_cons {c : Char} (hc : c ∉ ("^-]" : Text)) (t : Text) :
    readSet? false (c :: t) = readSetFrom? false ⟨false, none, []⟩ [] (c :: t) := by
  have hc : c ≠ '^' ∧ c ≠ '-' ∧ c ≠ ']' := by simpa using hc
  have hh : readHyphens false (c :: t) = ([], c :: t) := by
    rw [readHyphens]
    simpa using hc.2.1
  -- neither the complement sign nor a hyphen nor a bracket in front of the items
  have ho : openSet? false (c :: t) = some (⟨false, none, []⟩, c :: t) := by
    have hs : skip false (c :: t) = c :: t := rfl
    unfold openSet?
    rw [hs]
    split
    next negated u hu =>
      obtain ⟨rfl, rfl⟩ : negated = false ∧ u = c :: t := by
        split at hu <;> simp_all
      rw [hh]
      split <;> simp_all
  rw [readSet?, ho]
  rfl

/-! ### Tokens -/

/-- The first token is cut off. -/
theorem tokensFrom?_cons {s s' : Scan} {c : Char} {u rest : Text} {token : Token}
    (hx : s.x = false) (hr : readToken? s c u = some (token, s', rest))
    (hl : rest.length ≤ u.length) :
    tokensFrom? s (c :: u) = (tokensFrom? s' rest).map (token :: ·) := by
  have hl : rest.length < (c :: u).length := by simpa using Nat.lt_succ_of_le hl
  have hs : skip s.x (c :: u) = c :: u := by rw [hx]; rfl
  rw [tokensFrom?, hs]
  simp only [hr, if_pos hl]

/-- The text has one token in front when its first character makes one by itself. -/
theorem tokensFrom?_single (token : Token) (s' : Scan) {s : Scan} {c : Char} {u : Text}
    (hx : s.x = false) (hr : readToken? s c u = some (token, s', u)) :
    tokensFrom? s (c :: u) = (tokensFrom? s' u).map (token :: ·) :=
  tokensFrom?_cons hx hr le_rfl

/-- The characters that begin no atom for themselves. -/
def operators : Text := "()[|?*+\x7b\\.^$"

theorem tokensFrom?_char {s : Scan} (hx : s.x = false) {c : Char} (hc : c ∉ operators) (u : Text) :
    tokensFrom? s (c :: u) = (tokensFrom? s u).map (.atom (.char c) :: ·) := by
  refine tokensFrom?_single _ s hx ?_
  unfold readToken?
  split
  case h_13 => rfl
  all_goals exact absurd (by decide) hc

/-- Behind a backslash, a sign that is no angle bracket stands for itself. -/
theorem tokensFrom?_escaped {s : Scan} (hx : s.x = false) {c : Char} (ha : c.isAlphanum = false)
    (hn : c.toNat < 128) (hc : c ∉ ("<>" : Text)) (u : Text) :
    tokensFrom? s ('\\' :: c :: u) = (tokensFrom? s u).map (.atom (.char c) :: ·) := by
  have he : readEscape? s.x (c :: u) = some (.literal ⟨c, false⟩, u) := by
    simp only [readEscape?]
    split
    case h_24 => simp [ha, hn]
    all_goals first | exact absurd ha (by decide) | exact absurd (by decide) hc
  have hr : readToken? s '\\' (c :: u) = some (.atom (.char c), s, u) := by
    show (readEscape? s.x (c :: u)).map _ = _
    rw [he]
    rfl
  exact tokensFrom?_cons hx hr (by simp)

theorem tokensFrom?_set {s : Scan} (hx : s.x = false) {u rest : Text} {negated : Bool}
    {set : CharSet} (h : readSet? false u = some (negated, set, rest))
    (hl : rest.length ≤ u.length) :
    tokensFrom? s ('[' :: u) = (tokensFrom? s rest).map (.atom (.set negated set) :: ·) := by
  refine tokensFrom?_cons hx ?_ hl
  show (readSet? s.x u).map _ = _
  rw [hx, h]
  rfl

theorem afterLazy_of_head? {t : Text} (h : t.head? ≠ some '?') : afterLazy t = t := by
  rw [afterLazy, Text.stripStart?_of_head? h, Option.getD_none]

/-- A sign of repetition, if no question mark follows. -/
theorem tokensFrom?_repetition (low : ℕ) (high : Option ℕ) {s : Scan} (hx : s.x = false) {c : Char}
    (h : ∀ u, readToken? s c u = some (.repetition low high, s, afterLazy u)) {t : Text}
    (ht : t.head? ≠ some '?') :
    tokensFrom? s (c :: t) = (tokensFrom? s t).map (.repetition low high :: ·) := by
  refine tokensFrom?_single _ s hx ?_
  rw [h, afterLazy_of_head? ht]

/-! ### Parts in a row -/

/-- Read in any group and behind any parts, the tokens add some parts and change nothing else. -/
def Adds (ts : List Token) (rs : List Regex) : Prop :=
  ∀ (level : Level) (outer : List Level) (us : List Token),
    parseFrom? level outer (ts ++ us) =
      parseFrom? { level with parts := rs.reverse ++ level.parts } outer us

theorem Adds.nil : Adds [] [] := fun _ _ _ => rfl

theorem Adds.append {ts us : List Token} {rs ss : List Regex} (h : Adds ts rs) (h' : Adds us ss) :
    Adds (ts ++ us) (rs ++ ss) := by
  intro level outer vs
  rw [List.append_assoc, h, h', List.reverse_append, List.append_assoc]

theorem Adds.flatMap {α : Type} {f : α → List Token} {g : α → List Regex}
    (h : ∀ a, Adds (f a) (g a)) (as : List α) : Adds (as.flatMap f) (as.flatMap g) := by
  induction as with
  | nil => exact Adds.nil
  | cons a as ih =>
    rw [List.flatMap_cons, List.flatMap_cons]
    exact (h a).append ih

/-- On their own, the tokens are an expression of the parts in a row. -/
theorem Adds.parseTokens? {ts : List Token} {rs : List Regex} (h : Adds ts rs) :
    parseTokens? ts = some (ofParts rs) := by
  have hts := h ⟨[], [], []⟩ [] []
  rw [List.append_nil, List.append_nil] at hts
  rw [Regex.parseTokens?, hts]
  simp [parseFrom?, Level.toRegex, ofBranches]

theorem depthAll_le_iff {rs : List Regex} {n : ℕ} : depthAll rs ≤ n ↔ ∀ r ∈ rs, r.depth ≤ n := by
  induction rs with
  | nil => simp [depthAll]
  | cons r rs ih => simp [depthAll, ih]

theorem depth_ofParts_le (rs : List Regex) : (ofParts rs).depth ≤ depthAll rs + 1 := by
  rcases rs with _ | ⟨r, _ | ⟨s, rs⟩⟩
  · simp [ofParts, depth]
  · simp only [ofParts, depthAll]
    omega
  · simp [ofParts, depth]

end Regex
end ContentBlocker
