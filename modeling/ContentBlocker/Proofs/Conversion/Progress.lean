import ContentBlocker.Proofs.Conversion.Bounded

/-!
# What slices say of the progress

A conversion reads its lines slice by slice, then converts its rules slice by slice, and then has
nothing left to do.

* `covered size total k` is how much of `total` is done after `k` slices;
* `AtLine` and `AtRule` describe the job after `k` slices of lines and after `k` slices of rules:
  for each there is a lemma on what the next slice says and one on what it leaves;
* `advance_induction` takes the latter to runs, and `progress_exact` puts the runs together.
-/

namespace ContentBlocker.Job

open Badfilters

/-! ### Slices of a list -/

/-- How much of `total` is done after `k` slices, where a size of zero stands for all. -/
def covered (size total k : ℕ) : ℕ := min (k * if size = 0 then total else size) total

variable {size total k : ℕ}

@[simp] theorem covered_zero (size total : ℕ) : covered size total 0 = 0 := by simp [covered]

theorem covered_le (size total k : ℕ) : covered size total k ≤ total := Nat.min_le_right ..

/-- What one more slice does, as long as something is left. -/
theorem covered_succ (size total k : ℕ) :
    covered size total (k + 1) =
      min (covered size total k + if size = 0 then total else size) total := by
  unfold covered
  rw [Nat.succ_mul]
  omega

/-- Every slice does something, until all is done. -/
theorem covered_lt_succ (h : covered size total k < total) :
    covered size total k < covered size total (k + 1) := by
  rw [covered_succ]
  split_ifs <;> omega

/-- Some number of slices is the first that does all. -/
theorem exists_covered (size total : ℕ) :
    ∃ a, covered size total a = total ∧ ∀ k < a, covered size total k < total := by
  have hall : covered size total total = total := by
    refine Nat.min_eq_right ?_
    split_ifs with h
    · exact Nat.le_mul_self total
    · exact Nat.le_mul_of_pos_right _ (Nat.pos_of_ne_zero h)
  have hex : ∃ a, covered size total a = total := ⟨total, hall⟩
  exact ⟨Nat.find hex, Nat.find_spec hex,
    fun k hk => lt_of_le_of_ne (covered_le ..) (Nat.find_min hex hk)⟩

/-- A slice of what is left after `k` slices leaves what is left after `k + 1`. -/
theorem length_slice_snd {α : Type} {xs : List α} (h : xs.length = total - covered size total k) :
    (slice size xs).2.length = total - covered size total (k + 1) := by
  rw [covered_succ]
  unfold slice
  split_ifs
  · rw [List.length_nil]
    omega
  · rw [List.length_drop, h]
    omega

/-! ### Reading -/

/-- After `k` slices of `lines` lines, with slices of some size. -/
structure AtLine (size lines k : ℕ) (j : Job) : Prop where
  chunkSize : j.options.chunkSize = size
  total : j.inputLength = lines
  left : j.queue.length = lines - covered size lines k
  idle : j.processed = 0

variable {lines rules : ℕ} {j : Job}

theorem atLine_start (sources : List Source) (options : ConvertOptions) :
    (start sources options).AtLine options.chunkSize sources.length 0 :=
  ⟨rfl, rfl, by simp [start], rfl⟩

theorem AtLine.queue_ne_nil (h : j.AtLine size lines k) (hk : covered size lines k < lines) :
    j.queue ≠ [] := by
  rw [← List.length_pos_iff, h.left]
  omega

/-- What the next slice of lines says. -/
theorem AtLine.progress [Externals] (h : j.AtLine size lines k)
    (hk : covered size lines k < lines) :
    j.step.2.1 = .parsing (covered size lines (k + 1)) lines := by
  have hle := covered_le size lines (k + 1)
  rw [step_reading (h.queue_ne_nil hk)]
  simp only [h.chunkSize, h.total, length_slice_snd h.left, Nat.sub_sub_self hle]

/-- What it leaves. -/
theorem AtLine.step [Externals] (h : j.AtLine size lines k) (hk : covered size lines k < lines) :
    j.step.1.AtLine size lines (k + 1) := by
  rw [step_reading (h.queue_ne_nil hk), h.chunkSize]
  exact ⟨h.chunkSize, h.total, length_slice_snd h.left, h.idle⟩

/-! ### Converting -/

/-- After `k` slices of `rules` rules. -/
structure AtRule (size rules k : ℕ) (j : Job) : Prop where
  chunkSize : j.options.chunkSize = size
  queue : j.queue = []
  processed : j.processed = covered size rules k
  total : j.processed + j.waiting.length = rules

theorem AtRule.left (h : j.AtRule size rules k) :
    j.waiting.length = rules - covered size rules k := by
  have ht := h.total
  have hp := h.processed
  omega

theorem AtRule.waiting_ne_nil (h : j.AtRule size rules k) (hk : covered size rules k < rules) :
    j.waiting ≠ [] := by
  rw [← List.length_pos_iff, h.left]
  omega

/-- What the next slice of rules leaves. -/
theorem AtRule.step [Externals] (h : j.AtRule size rules k) (hk : covered size rules k < rules) :
    j.step.1.AtRule size rules (k + 1) := by
  have hlater := length_slice_snd h.left
  have hsplit := congrArg List.length (slice_append size j.waiting)
  have hle := covered_le size rules (k + 1)
  rw [List.length_append, hlater, h.left] at hsplit
  rw [step_emitting h.queue (h.waiting_ne_nil hk), h.chunkSize]
  simp only [emitAll_eq]
  have hprocessed : j.processed + (slice size j.waiting).1.length = covered size rules (k + 1) := by
    have hp := h.processed
    omega
  refine ⟨h.chunkSize, h.queue, hprocessed, ?_⟩
  simp only [withConverted, hprocessed, hlater]
  omega

/-- What it says. -/
theorem AtRule.progress [Externals] (h : j.AtRule size rules k)
    (hk : covered size rules k < rules) :
    j.step.2.1 = .emitting (covered size rules (k + 1)) rules := by
  have hnext := (h.step hk).processed
  rw [step_emitting h.queue (h.waiting_ne_nil hk)] at hnext ⊢
  simp only at hnext ⊢
  rw [hnext, h.total]

/-- When all lines are read, the rules come next. -/
theorem AtLine.atRule_zero [Externals] (h : j.AtLine size lines k)
    (hk : covered size lines k = lines) :
    j.AtRule size (j.drain.1.processed) 0 := by
  have hq : j.queue = [] := by
    rw [← List.length_eq_zero_iff, h.left, hk, Nat.sub_self]
  refine ⟨h.chunkSize, hq, ?_, ?_⟩
  · rw [h.idle, covered_zero]
  · rw [drain_processed, hq]
    rfl

/-- When all rules are converted, nothing is left. -/
theorem AtRule.isDone (h : j.AtRule size rules k) (hk : covered size rules k = rules) :
    j.isDone = true := by
  refine isDone_iff.2 ⟨h.queue, ?_⟩
  rw [← List.length_eq_zero_iff, h.left, hk, Nat.sub_self]

/-! ### Runs -/

section Runs

variable [Externals]

/-- What each of some slices takes from one number to the next, all of them take from zero on. -/
theorem advance_induction {P : ℕ → Job → Prop} {a : ℕ} (h : P 0 j)
    (hstep : ∀ k < a, ∀ j, P k j → P (k + 1) j.step.1) : ∀ k ≤ a, P k (j.advance [] k).1 := by
  intro k hk
  induction k with
  | zero => exact h
  | succ k ih =>
    rw [advance_succ_fst]
    exact hstep k hk _ (ih (Nat.le_of_succ_le hk))

theorem step_isStarted (j : Job) : j.step.1.isStarted = true := by
  by_cases hq : j.queue = []
  · by_cases hw : j.waiting = []
    · rw [step_done hq hw]
    · simp only [step_emitting hq hw, emitAll_eq]
      rfl
  · rw [step_reading hq]
    rfl

theorem step_of_isDone (h : j.isDone = true) :
    j.step = ({ j with isStarted := true }, .done, j.banner) := by
  obtain ⟨hq, hw⟩ := isDone_iff.1 h
  exact step_done hq hw

/-- A slice behind another one, which finds nothing to do, changes nothing and says nothing. -/
theorem step_of_isStarted (h : j.isDone = true) (hs : j.isStarted = true) :
    j.step = (j, .done, []) := by
  rw [step_of_isDone h, banner_of_isStarted hs]
  obtain ⟨⟩ := j
  obtain rfl := hs
  rfl

theorem isDone_step (h : j.isDone = true) : j.step.1.isDone = true := by
  rw [step_of_isDone h]
  exact h

/-- **Progress is exact.**  For all lines, settings and sizes of slices, the first slices read lines:
each says how many lines are read, which is more than before, until all are.  The next ones convert
the rules that are no badfilter rules: each says how many rules are converted, which is more than
before, until all are.  Every further slice says that nothing was left, and neither changes the job
nor says anything else, unless it is the very first one, which marks the job as begun.  A slice says
so exactly if nothing was left before it.  And if the lines, the rules and the targets can be
counted in numbers up to some largest one, no sum or difference in a slice is out of bounds, of
whatever size the slices are. -/
theorem progress_exact (sources : List Source) (options : ConvertOptions) :
    let job (k : ℕ) : Job := ((start sources options).advance [] k).1
    let lines := sources.length
    let rules := (plain (rulesIn sources)).length
    let done := covered options.chunkSize
    (∃ a b,
      (∀ k < a, (job k).step.2.1 = .parsing (done lines (k + 1)) lines ∧
        done lines k < done lines (k + 1)) ∧
      done lines a = lines ∧
      (∀ k < b, (job (a + k)).step.2.1 = .emitting (done rules (k + 1)) rules ∧
        done rules k < done rules (k + 1)) ∧
      done rules b = rules ∧
      ∀ k, let j := job (a + b + k)
        j.step = ({ j with isStarted := true }, .done, j.banner) ∧
          (0 < a + b + k → j.step = (j, .done, []))) ∧
    (∀ k, (job k).step.2.1 = .done ↔ (job k).isDone = true) ∧
    ∀ top, lines ≤ top → rules ≤ top → (targets (rulesIn sources)).dedup.length ≤ top →
      ∀ k, (job k).step? top = some (job k).step := by
  intro job lines rules done
  refine ⟨?_, fun k => step_eq_done_iff _, fun top hlines hrules htargets k =>
    step?_eq ((fits_start options hlines hrules htargets).advance [] k)⟩
  obtain ⟨a, ha, hlines⟩ := exists_covered options.chunkSize lines
  obtain ⟨b, hb, hrules⟩ := exists_covered options.chunkSize rules
  have hadd (m n : ℕ) : job (m + n) = ((job m).advance [] n).1 := by
    simp only [job, advance_add, advance_eq (advance _ _ m).1 (advance _ _ m).2]
  -- first the lines are read
  have hreading : ∀ k ≤ a, (job k).AtLine options.chunkSize lines k :=
    advance_induction (atLine_start sources options) fun k hk j h => h.step (hlines k hk)
  -- then the rules are converted, as many as the final job has converted
  have htotal : (job a).drain.1.processed = rules := by
    rw [(drain_advance _ _ _).1, drain_start]
    rfl
  have hstart := (hreading a (Nat.le_refl a)).atRule_zero ha
  rw [htotal] at hstart
  have hconverting : ∀ k ≤ b, (job (a + k)).AtRule options.chunkSize rules k := by
    intro k hk
    rw [hadd]
    exact advance_induction hstart (fun k hk j h => h.step (hrules k hk)) k hk
  -- and then nothing is left
  have hdone (k : ℕ) : (job (a + b + k)).isDone = true := by
    rw [hadd]
    exact advance_induction (P := fun _ j => j.isDone = true) (a := k)
      ((hconverting b (Nat.le_refl b)).isDone hb) (fun _ _ _ h => isDone_step h) k (Nat.le_refl k)
  refine ⟨a, b,
    fun k hk => ⟨(hreading k hk.le).progress (hlines k hk), covered_lt_succ (hlines k hk)⟩, ha,
    fun k hk => ⟨(hconverting k hk.le).progress (hrules k hk), covered_lt_succ (hrules k hk)⟩, hb,
    fun k => ⟨step_of_isDone (hdone k), fun hk => step_of_isStarted (hdone k) ?_⟩⟩
  obtain ⟨m, hm⟩ := Nat.exists_eq_add_of_lt hk
  rw [hm, Nat.zero_add]
  simp only [job, advance_succ_fst]
  exact step_isStarted _

end Runs

/-- Slices of the largest size, one short of all, and numbers up to the same. -/
theorem progress_exact_largest :
    let sources : List Source :=
      [.text "||example.org^", .text "! a comment", .text "||example.com^$badfilter"]
    let options : ConvertOptions := { chunkSize := 2 ^ 64 - 1 }
    let job (k : ℕ) : Job := ((start sources options).advance [] k).1
    (sources.length ≤ 2 ^ 64 - 1 ∧ (plain (rulesIn sources)).length ≤ 2 ^ 64 - 1 ∧
      (targets (rulesIn sources)).dedup.length ≤ 2 ^ 64 - 1) ∧
    ∀ k, (job k).step? (2 ^ 64 - 1) = some (job k).step :=
  ⟨⟨by decide, by decide +kernel, by decide +kernel⟩,
    (progress_exact _ _).2.2 _ (by decide) (by decide +kernel) (by decide +kernel)⟩

end ContentBlocker.Job
