import ContentBlocker.Proofs.Conversion.Outcome

/-!
# The size of slices

The size of slices decides how much is done at a time and nothing else: whatever it is, and however
many slices were asked for before, a conversion ends with the same result and says the same.
-/

namespace ContentBlocker.Job

/-- **Slicing is unobservable.**  Some lines and settings have one result and one sequence of
messages, which every run ends with: for each size of slices, after each number of slices, and
behind all messages recorded before. -/
theorem slicing_unobservable [Externals] (sources : List Source) (options : ConvertOptions)
    (hs : sources ≠ []) :
    ∃ (result : ConversionResult) (notes : Diagnostics),
      ∀ (size n : ℕ) (before : Diagnostics),
        let (j, said) := (start sources { options with chunkSize := size }).advance before n
        (∃ m, j.RunsFor m) ∧ j.finish.1 = some result ∧ said ++ j.finish.2 = before ++ notes := by
  refine ⟨(final sources options).conclude.1,
    finalNotes sources options ++ (final sources options).conclude.2, fun size n before => ?_⟩
  have h := finish_start hs { options with chunkSize := size } before n
  rw [conclude_congr (final_agrees_of_chunkSize sources options size)] at h
  exact ⟨exists_runsFor _, h⟩

/-- Two rules, one of which cancels the other. -/
theorem slicing_unobservable_badfilter :
    let sources : List Source := [.text "||example.org^", .text "||example.org^$badfilter"]
    sources ≠ [] ∧ ∃ (result : ConversionResult) (notes : Diagnostics),
      ∀ (size n : ℕ) (before : Diagnostics),
        let (j, said) :=
          (start sources { ({} : ConvertOptions) with chunkSize := size }).advance before n
        (∃ m, j.RunsFor m) ∧ j.finish.1 = some result ∧ said ++ j.finish.2 = before ++ notes :=
  ⟨by simp, slicing_unobservable _ _ (by simp)⟩

end ContentBlocker.Job
