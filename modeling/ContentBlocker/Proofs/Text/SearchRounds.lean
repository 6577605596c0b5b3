import ContentBlocker.Proofs.Text.Searching
import Mathlib.Data.Nat.PSub
import Mathlib.Order.Bounds.Basic

/-!
# Searching round by round

The search for the last unescaped element as it runs on a machine: round after round it looks at a
place, and then goes to the place before.  A round fails if it reads beyond the list or goes below
its first place.

* `Search` is where a search stands, `Search.begin?` and `Search.round?` are its beginning and its
  rounds, and `Search.after?` is some rounds in a row;
* `isAfter_after?`: no round fails, and each leaves what is found as it is;
* `after?_eq`: after as many rounds as the list has elements the search is over, and has found what
  `lastUnescaped?` finds;
* `lastUnescaped?_eq_some_iff` and `lastUnescaped?_eq_none_iff`: this is the greatest of the places
  where a search may stop (`stops`).
-/

namespace ContentBlocker

variable {α : Type}

/-! ### Rounds -/

/-- Where a search from the end of a list stands. -/
inductive Search
  /-- The place `i` is looked at next. -/
  | place (i : ℕ)
  /-- The search is over. -/
  | over (found : Option ℕ)

namespace Search

section Rounds

variable [DecidableEq α] (needle escape : α) (start : ℕ) (xs : List α)

/-- Look whether the place `i` holds an unescaped `needle`.  This reads the place `i` and, if
`needle` is there, the place before. -/
def test? (i : ℕ) : Option Bool := do
  let x ← xs[i]?
  if x ≠ needle then some false
  else if i = 0 then some true
  else do
    let before ← i.ppred
    let y ← xs[before]?
    some (decide (y ≠ escape))

/-- A search begins before the last element. -/
def begin? : Option Search :=
  if xs.length < 2 then some (.over none) else (xs.length.psub 2).map .place

/-- Look at one place. -/
def round? : Search → Option Search
  | .place i =>
    if i < start then some (.over none)
    else do
      if ← test? needle escape xs i then some (.over (some i))
      else if i = 0 then some (.over none)
      else i.ppred.map .place
  | .over found => some (.over found)

/-- Where a search stands after some rounds, if none of them failed. -/
def after? : ℕ → Option Search
  | 0 => begin? xs
  | n + 1 => (after? n).bind (round? needle escape start xs)

end Rounds

variable [DecidableEq α] {needle escape : α} {start : ℕ} {xs : List α}

theorem after?_succ (n : ℕ) :
    after? needle escape start xs (n + 1) =
      (after? needle escape start xs n).bind (round? needle escape start xs) := rfl

theorem test?_eq {i : ℕ} (h : i < xs.length) :
    test? needle escape xs i = some (decide (UnescapedAt needle escape xs i)) := by
  rcases i with _ | i
  · by_cases hx : xs[0] = needle <;> simp [test?, UnescapedAt, h, hx]
  · have hbefore : i < xs.length := by omega
    by_cases hx : xs[i + 1] = needle <;> simp [test?, UnescapedAt, h, hbefore, hx]

/-- A round inside of the list does not fail. -/
theorem round?_place {i : ℕ} (h : i < xs.length) :
    round? needle escape start xs (.place i) =
      if i < start then some (.over none)
      else if UnescapedAt needle escape xs i then some (.over (some i))
      else if i = 0 then some (.over none)
      else some (.place (i - 1)) := by
  rw [round?, test?_eq h]
  rcases i with _ | i
  · by_cases hat : UnescapedAt needle escape xs 0 <;> simp [hat]
  · by_cases hat : UnescapedAt needle escape xs (i + 1) <;> simp [hat]

/-! ### Runs -/

/-- A search may stand so after `n` rounds: `n` places before the first it looked at, with nothing
found behind, or at its end with what is to be found. -/
def IsAfter (needle escape : α) (start : ℕ) (xs : List α) (n : ℕ) : Search → Prop
  | .place i => i + n + 2 = xs.length ∧
      lastUnescapedBelow? needle escape start xs (i + 1) = lastUnescaped? needle escape start xs
  | .over found => found = lastUnescaped? needle escape start xs

theorem exists_begin? : ∃ s, begin? xs = some s ∧ IsAfter needle escape start xs 0 s := by
  by_cases h : xs.length < 2
  · have hnone : xs.length - 1 = 0 := by omega
    refine ⟨.over none, if_pos h, ?_⟩
    rw [IsAfter, lastUnescaped?, hnone]
    rfl
  · have hplace : xs.length - 2 + 1 = xs.length - 1 := by omega
    refine ⟨.place (xs.length - 2), ?_, by omega, by rw [hplace, lastUnescaped?]⟩
    rw [begin?, if_neg h, Nat.psub_eq_sub (by omega), Option.map_some]

theorem IsAfter.exists_round? {n : ℕ} {s : Search} (h : IsAfter needle escape start xs n s) :
    ∃ s', round? needle escape start xs s = some s' ∧
      IsAfter needle escape start xs (n + 1) s' := by
  rcases s with i | found
  · obtain ⟨hplace, hfound⟩ := h
    rw [lastUnescapedBelow?] at hfound
    rw [round?_place (by omega)]
    split_ifs at hfound ⊢ with hstart hhere hzero
    · exact ⟨_, rfl, hfound⟩
    · exact ⟨_, rfl, hfound⟩
    · subst hzero
      exact ⟨_, rfl, hfound⟩
    · obtain ⟨j, rfl⟩ := Nat.exists_eq_succ_of_ne_zero hzero
      exact ⟨_, rfl, by omega, hfound⟩
  · exact ⟨_, rfl, h⟩

/-- No round fails. -/
theorem isAfter_after? (needle escape : α) (start : ℕ) (xs : List α) (n : ℕ) :
    ∃ s, after? needle escape start xs n = some s ∧ IsAfter needle escape start xs n s := by
  induction n with
  | zero => exact exists_begin?
  | succ n ih =>
    obtain ⟨s, hs, hafter⟩ := ih
    rw [after?_succ, hs]
    exact hafter.exists_round?

/-- There are fewer places than elements, so that the search is over after so many rounds. -/
theorem after?_eq {n : ℕ} (h : xs.length ≤ n + 1) :
    after? needle escape start xs n = some (.over (lastUnescaped? needle escape start xs)) := by
  obtain ⟨s, hs, hafter⟩ := isAfter_after? needle escape start xs n
  rcases s with i | found
  · exact absurd hafter.1 (by omega)
  · rw [hs, ← show found = _ from hafter]

end Search

/-! ### The place that is found -/

/-- The places where a search from the end may stop: not before `start`, before the last element,
with `needle` there, and without `escape` right before it. -/
def stops (needle escape : α) (start : ℕ) (xs : List α) : Set ℕ :=
  {i | start ≤ i ∧ i + 2 ≤ xs.length ∧ xs[i]? = some needle ∧
    (i = 0 ∨ xs[i - 1]? ≠ some escape)}

section Stops

variable {needle escape : α} {start : ℕ} {xs : List α}

theorem mem_stops_iff {i : ℕ} :
    i ∈ stops needle escape start xs ↔
      start ≤ i ∧ i < xs.length - 1 ∧ UnescapedAt needle escape xs i :=
  and_congr_right' (and_congr_left' (by omega))

/-- Such a place takes the list apart. -/
theorem mem_stops_iff_append {i : ℕ} :
    i ∈ stops needle escape start xs ↔
      start ≤ i ∧ ∃ before after, xs = before ++ needle :: after ∧ before.length = i ∧
        after ≠ [] ∧ before.getLast? ≠ some escape := by
  rw [mem_stops_iff, unescapedAt_iff]
  refine and_congr_right fun _ => ⟨?_, ?_⟩
  · rintro ⟨hlt, before, after, rfl, rfl, hescape⟩
    refine ⟨before, after, rfl, rfl, ?_, hescape⟩
    rintro rfl
    simp at hlt
  · rintro ⟨before, after, rfl, rfl, hne, hescape⟩
    have hpos := List.length_pos_iff.2 hne
    refine ⟨?_, before, after, rfl, rfl, hescape⟩
    rw [List.length_append, List.length_cons]
    omega

variable [DecidableEq α]

/-- What is found is the greatest of these places. -/
theorem lastUnescaped?_eq_some_iff {i : ℕ} :
    lastUnescaped? needle escape start xs = some i ↔
      IsGreatest (stops needle escape start xs) i := by
  rw [lastUnescaped?, lastUnescapedBelow?_eq_some_iff, IsGreatest, mem_stops_iff]
  constructor
  · rintro ⟨hstart, hlt, hat, hlast⟩
    refine ⟨⟨hstart, hlt, hat⟩, fun j hj => ?_⟩
    obtain ⟨-, hjlt, hjat⟩ := mem_stops_iff.1 hj
    by_contra hle
    exact hlast j (by omega) hjlt hjat
  · rintro ⟨⟨hstart, hlt, hat⟩, hupper⟩
    refine ⟨hstart, hlt, hat, fun j hij hjlt hjat => ?_⟩
    have hle : j ≤ i := hupper (mem_stops_iff.2 ⟨by omega, hjlt, hjat⟩)
    omega

theorem lastUnescaped?_eq_none_iff :
    lastUnescaped? needle escape start xs = none ↔ stops needle escape start xs = ∅ := by
  rw [lastUnescaped?, lastUnescapedBelow?_eq_none_iff, Set.eq_empty_iff_forall_notMem]
  simp only [mem_stops_iff, not_and]

end Stops
end ContentBlocker
