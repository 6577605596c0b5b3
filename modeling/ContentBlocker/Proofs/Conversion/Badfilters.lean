import ContentBlocker.Conversion.Badfilter
import Mathlib.Data.List.Dedup

/-!
# The targets of badfilter rules

A list of rules is taken apart in one pass that collects targets on the way.

* `Badfilters.insertAll` adds some targets to a set;
* `collectRules_eq` describes the pass: the rules without a target stay in order, and the targets of
  the others are added in order;
* `mem_insertAll`, `nodup_insertAll` and `length_insertAll` say that a set of targets holds each of
  them once.
-/

namespace ContentBlocker.Badfilters

/-- Add targets in turn. -/
def insertAll (bs : Badfilters) (targets : List Text) : Badfilters := targets.foldl insert bs

/-! ### One target -/

theorem mem_insert {bs : Badfilters} {t u : Text} : u ∈ bs.insert t ↔ u ∈ bs ∨ u = t := by
  unfold insert
  split
  · next h =>
    have ht : t ∈ bs := by simpa using h
    constructor
    · exact Or.inl
    · rintro (hu | rfl)
      · exact hu
      · exact ht
  · simp

theorem nodup_insert {bs : Badfilters} (h : bs.Nodup) (t : Text) : (bs.insert t).Nodup := by
  unfold insert
  split
  · exact h
  · next ht =>
    have ht : t ∉ bs := by simpa using ht
    simpa only [List.concat_eq_append] using h.concat ht

theorem length_le_insert (bs : Badfilters) (t : Text) : bs.length ≤ (bs.insert t).length := by
  unfold insert
  split <;> simp

/-! ### Some targets -/

@[simp] theorem insertAll_nil (bs : Badfilters) : bs.insertAll [] = bs := rfl

@[simp] theorem insertAll_cons (bs : Badfilters) (t : Text) (ts : List Text) :
    bs.insertAll (t :: ts) = (bs.insert t).insertAll ts := rfl

theorem insertAll_append (bs : Badfilters) (ts us : List Text) :
    bs.insertAll (ts ++ us) = (bs.insertAll ts).insertAll us := List.foldl_append ..

theorem mem_insertAll {bs : Badfilters} {ts : List Text} {u : Text} :
    u ∈ bs.insertAll ts ↔ u ∈ bs ∨ u ∈ ts := by
  induction ts generalizing bs with
  | nil => simp
  | cons t ts ih => rw [insertAll_cons, ih, mem_insert, List.mem_cons, or_assoc]

theorem nodup_insertAll {bs : Badfilters} (h : bs.Nodup) (ts : List Text) :
    (bs.insertAll ts).Nodup := by
  induction ts generalizing bs with
  | nil => exact h
  | cons t ts ih => exact ih (nodup_insert h t)

theorem length_le_insertAll (bs : Badfilters) (ts : List Text) :
    bs.length ≤ (bs.insertAll ts).length := by
  induction ts generalizing bs with
  | nil => exact Nat.le_refl _
  | cons t ts ih => exact Nat.le_trans (length_le_insert bs t) (ih _)

/-- Every target counts once. -/
theorem length_insertAll (ts : List Text) : (insertAll [] ts).length = ts.dedup.length := by
  apply List.Perm.length_eq
  rw [List.perm_ext_iff_of_nodup (nodup_insertAll List.nodup_nil ts) ts.nodup_dedup]
  intro u
  simp [mem_insertAll]

/-! ### Taking rules apart -/

/-- The targets of the badfilter rules among some rules. -/
def targets (rs : List Rule) : List Text := rs.filterMap Rule.badfilter?

/-- The rules that cancel nothing. -/
def plain (rs : List Rule) : List Rule := rs.filter (·.badfilter? = none)

@[simp] theorem targets_append (rs ss : List Rule) :
    targets (rs ++ ss) = targets rs ++ targets ss := List.filterMap_append

@[simp] theorem plain_append (rs ss : List Rule) : plain (rs ++ ss) = plain rs ++ plain ss :=
  List.filter_append ..

theorem collectRules_eq (bs : Badfilters) (rs : List Rule) :
    bs.collectRules rs = (plain rs, bs.insertAll (targets rs)) := by
  induction rs generalizing bs with
  | nil => rfl
  | cons r rs ih =>
    unfold collectRules
    cases h : r.badfilter? with
    | none => simp [ih, plain, targets, h]
    | some t => simp [ih, plain, targets, h]

end ContentBlocker.Badfilters
