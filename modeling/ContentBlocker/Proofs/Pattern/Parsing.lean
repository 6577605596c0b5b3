import ContentBlocker.Proofs.Pattern.Atoms
import ContentBlocker.Proofs.Regex.Pieces

/-!
# Compiled patterns as expressions

A compiled pattern, read as a regular expression, falls into the atoms of the pattern: no character
of a pattern but the masks is an operator, and no backslash reaches into the next atom.

* `Atom.tokens` and `Atom.parts` are what an atom means;
* `tokensFrom?_text` cuts the tokens of one atom off a text;
* `compile_atoms` says how a pattern is written and that the expression has the parts of its atoms.
-/

namespace ContentBlocker.Pattern

open Regex

namespace Atom

/-! ### What an atom means -/

/-- The letters of `http`, `https`, `ws` and `wss`. -/
def schemeSet : CharSet := .union ("htpsw".toList.map .char)

/-- The characters of a label. -/
def labelSet : CharSet :=
  .union [.range ⟨'a', false⟩ ⟨'z', false⟩, .range ⟨'0', false⟩ ⟨'9', false⟩, .char '-']

/-- The characters that are separators. -/
def separatorSet : CharSet := .union ("/:&?".toList.map .char)

/-- The tokens of an atom. -/
def tokens : Atom → List Token
  | hostStart =>
    [.atom .look, .atom (.set false schemeSet), .repetition 1 none, .atom (.char ':'),
      .atom (.char '/'), .atom (.char '/'), .opening [], .atom (.set false labelSet),
      .repetition 1 none, .atom (.char '.'), .closing, .repetition 0 (some 1)]
  | start => [.atom .look]
  | stop => [.atom .look]
  | any => [.atom .dot, .repetition 0 none]
  | separator => [.atom (.set false separatorSet), .repetition 0 (some 1)]
  | literal c _ => [.atom (.char c)]

/-- The parts of an atom. -/
def parts : Atom → List Regex
  | hostStart =>
    [.look, .repeated 1 none (.set false schemeSet), .char ':', .char '/', .char '/',
      .repeated 0 (some 1)
        (.group [] (.concatenation [.repeated 1 none (.set false labelSet), .char '.']))]
  | start => [.look]
  | stop => [.look]
  | any => [.repeated 0 none .dot]
  | separator => [.repeated 0 (some 1) (.set false separatorSet)]
  | literal c _ => [.char c]

theorem tokens_adds (a : Atom) : Adds a.tokens a.parts := by
  intro level outer us
  cases a <;> rfl

theorem depth_parts (a : Atom) : ∀ r ∈ a.parts, r.depth ≤ 6 := by
  cases a <;>
    simp [parts, Regex.depth, Regex.depthAll, CharSet.depth, CharSet.depthAll, Regex.char,
      CharSet.char, schemeSet, labelSet, separatorSet]

/-! ### Reading the sets -/

theorem readSet?_scheme (t : Text) :
    readSet? false ("htpsw]" ++ t) = some (false, schemeSet, t) := by
  show readSet? false ('h' :: 't' :: 'p' :: 's' :: 'w' :: ']' :: t) = _
  rw [readSet?_cons (by decide)]
  simp (disch := decide) only [readSetFrom?_char, readSetFrom?_closing]
  rfl

theorem readSet?_label (t : Text) :
    readSet? false ("a-z0-9-]" ++ t) = some (false, labelSet, t) := by
  show readSet? false ('a' :: '-' :: 'z' :: '0' :: '-' :: '9' :: '-' :: ']' :: t) = _
  rw [readSet?_cons (by decide)]
  simp (disch := decide) only [readSetFrom?_char, readSetFrom?_range, readSetFrom?_closing]
  rfl

theorem readSet?_separator (t : Text) :
    readSet? false ("/:&?]" ++ t) = some (false, separatorSet, t) := by
  show readSet? false ('/' :: ':' :: '&' :: '?' :: ']' :: t) = _
  rw [readSet?_cons (by decide)]
  simp (disch := decide) only [readSetFrom?_char, readSetFrom?_closing]
  rfl

/-! ### Reading an atom -/

/-- What the reader of tokens keeps outside of all groups. -/
def outside : Scan := ⟨false, [], []⟩

/-- What it keeps inside of the only group that is written. -/
def inside : Scan := ⟨false, [false], []⟩

/-- The tokens of the scheme in front of a host name. -/
theorem tokensFrom?_scheme (t : Text) :
    tokensFrom? outside ("^[htpsw]+:\\/\\/" ++ t) =
      (tokensFrom? outside t).map
        ([.atom .look, .atom (.set false schemeSet), .repetition 1 none, .atom (.char ':'),
          .atom (.char '/'), .atom (.char '/')] ++ ·) := by
  have hslash : ∀ u, tokensFrom? outside ('\\' :: '/' :: u) =
      (tokensFrom? outside u).map (.atom (.char '/') :: ·) :=
    tokensFrom?_escaped rfl rfl (by decide) (by decide)
  show tokensFrom? outside ('^' :: '[' :: ("htpsw]" ++
    ('+' :: ':' :: '\\' :: '/' :: '\\' :: '/' :: t))) = _
  rw [tokensFrom?_single (.atom .look) outside rfl rfl,
    tokensFrom?_set rfl (readSet?_scheme _) (by simp),
    tokensFrom?_repetition 1 none rfl (fun _ => rfl) (by simp),
    tokensFrom?_char rfl (by decide), hslash, hslash]
  simp [Function.comp_def]

/-- The tokens of one more label in front of a host name. -/
theorem tokensFrom?_label {t : Text} (ht : t.head? ≠ some '?') :
    tokensFrom? outside ("([a-z0-9-]+\\.)?" ++ t) =
      (tokensFrom? outside t).map
        ([.opening [], .atom (.set false labelSet), .repetition 1 none, .atom (.char '.'), .closing,
          .repetition 0 (some 1)] ++ ·) := by
  show tokensFrom? outside
    ('(' :: '[' :: ("a-z0-9-]" ++ ('+' :: '\\' :: '.' :: ')' :: '?' :: t))) = _
  rw [tokensFrom?_single (.opening []) inside rfl rfl,
    tokensFrom?_set rfl (readSet?_label _) (by simp),
    tokensFrom?_repetition 1 none rfl (fun _ => rfl) (by simp),
    tokensFrom?_escaped rfl rfl (by decide) (by decide),
    tokensFrom?_single .closing outside rfl rfl,
    tokensFrom?_repetition 0 (some 1) rfl (fun _ => rfl) ht]
  simp [Function.comp_def]

/-- **The tokens of an atom are cut off a text that does not go on with a question mark.** -/
theorem tokensFrom?_text (a : Atom) {t : Text} (ht : t.head? ≠ some '?') :
    tokensFrom? outside (a.text ++ t) = (tokensFrom? outside t).map (a.tokens ++ ·) := by
  cases a with
  | hostStart =>
    have hs : Pattern.hostStart = ("^[htpsw]+:\\/\\/" : Text) ++ ("([a-z0-9-]+\\.)?" : Text) := by
      decide
    rw [text, hs, List.append_assoc, tokensFrom?_scheme, tokensFrom?_label ht]
    simp [Function.comp_def, tokens]
  | start => exact tokensFrom?_single (.atom .look) outside rfl rfl
  | stop => exact tokensFrom?_single (.atom .look) outside rfl rfl
  | any =>
    show tokensFrom? outside ('.' :: '*' :: t) = _
    rw [tokensFrom?_single (.atom .dot) outside rfl rfl,
      tokensFrom?_repetition 0 none rfl (fun _ => rfl) ht]
    simp [Function.comp_def, tokens]
  | separator =>
    show tokensFrom? outside ('[' :: ("/:&?]" ++ ('?' :: t))) = _
    rw [tokensFrom?_set rfl (readSet?_separator _) (by simp),
      tokensFrom?_repetition 0 (some 1) rfl (fun _ => rfl) ht]
    simp [Function.comp_def, tokens]
  | literal c h =>
    rw [text]
    split_ifs with hc
    · have hs : ('|' :: specials).all (fun d =>
          d.isAlphanum = false ∧ d.toNat < 128 ∧ d ∉ ("<>" : Text)) = true := by decide
      obtain ⟨ha, hn, hb⟩ := of_decide_eq_true (List.all_eq_true.1 hs c (by simpa using hc))
      exact tokensFrom?_escaped rfl ha hn hb t
    · have ho : operators.all (fun d => d = '*' ∨ d = '^' ∨ d = '|' ∨ d ∈ specials) = true := by
        decide
      refine tokensFrom?_char rfl (fun hop => ?_) t
      rcases of_decide_eq_true (List.all_eq_true.1 ho c hop) with hd | hd | hd
      · exact h.1 hd
      · exact h.2 hd
      · exact hc hd

/-- A text of atoms has the tokens of the atoms. -/
theorem tokens?_flatMap (as : List Atom) :
    tokens? (as.flatMap text) = some (as.flatMap tokens) := by
  show tokensFrom? outside _ = _
  induction as with
  | nil =>
    rw [List.flatMap_nil, tokensFrom?]
    rfl
  | cons a as ih =>
    have hh : (as.flatMap text).head? ≠ some '?' := by
      rcases as with _ | ⟨b, as⟩
      · simp
      · rw [List.flatMap_cons]
        exact (head?_text b _).2
    rw [List.flatMap_cons, tokensFrom?_text a hh, ih]
    rfl

/-- A text of atoms is an expression of their parts. -/
theorem parse?_flatMap (as : List Atom) :
    Regex.parse? (as.flatMap text) = some (Regex.ofParts (as.flatMap parts)) := by
  have hparts : depthAll (as.flatMap parts) ≤ 6 := by
    rw [depthAll_le_iff]
    intro r hr
    obtain ⟨a, -, hr⟩ := List.mem_flatMap.1 hr
    exact depth_parts a r hr
  have hdepth : (ofParts (as.flatMap parts)).depth ≤ maxDepth := by
    have h := depth_ofParts_le (as.flatMap parts)
    have hm : maxDepth = 250 := rfl
    omega
  rw [Regex.parse?, tokens?_flatMap]
  simp only [Option.bind_eq_bind, Option.bind_some, (Adds.flatMap tokens_adds as).parseTokens?,
    if_pos hdepth]

end Atom

/-- **A pattern is compiled atom by atom, and the expression has the parts of the atoms.**  Only the
three patterns that every address matches are written in another way. -/
theorem compile_atoms {p : Text} (hp : p ∉ matchAll) :
    compile p =
        (startAtoms p).flatMap Atom.text ++ ((units p).flatMap fun c => (Atom.ofChar c).text) ++
          (endAtoms p).flatMap Atom.text ∧
      Regex.parse? (compile p) = some (Regex.ofParts ((atoms p).flatMap Atom.parts)) := by
  refine ⟨?_, by rw [compile_eq hp, Atom.parse?_flatMap]⟩
  rw [compile_eq hp, atoms, List.flatMap_append, List.flatMap_append, List.flatMap_map]

/-- A pattern with both anchors, a mask, and a backslash and a `|` for themselves. -/
theorem compile_atoms_backslash :
    let p : Text := "||a.b*\\|^|"
    p ∉ matchAll ∧ compile p = "^[htpsw]+:\\/\\/([a-z0-9-]+\\.)?a\\.b.*\\\\\\|[/:&?]?$".toList ∧
      Regex.parse? (compile p) =
        some (.ofParts ([Atom.hostStart.parts,
          [.char 'a', .char '.', .char 'b', .repeated 0 none .dot, .char '\\', .char '|'],
          Atom.separator.parts, [.look]].flatten)) := by
  intro p
  have hp : p ∉ matchAll := by decide
  obtain ⟨htext, hparse⟩ := compile_atoms hp
  refine ⟨hp, htext.trans (by decide), hparse.trans ?_⟩
  rfl

end ContentBlocker.Pattern
