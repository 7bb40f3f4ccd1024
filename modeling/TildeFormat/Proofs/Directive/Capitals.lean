/-
Which characters stand for a directive of the built-in set. A directive
is looked up under the capital form of its character, so several
characters may stand for one directive; but the brackets, the separator
and the line break are the capital form of no character but themselves,
and nothing that can stand in a parameter list is the character of any
directive.

The capital form is a walk over two tables, so each fact is one check of
the tables and the step from the tables to `upperChar`.
-/
import TildeFormat.Template.Piece

namespace TildeFormat

-- ====================================================== capital letters

theorem upper_singleton (c : Character) : Text.upper [c] = upperChar c := by
  simp [Text.upper]

/-- The characters whose shape the nesting of a template is read off:
line break, brackets and separator. -/
def marks : List Character := ['\n', '\x7b', '\x7d', '<', '>', ';']

/-- No expansion is a single character. -/
private theorem expansions_long :
    ∀ e ∈ caseExpansions, e.2.length ≠ 1 := by decide

/-- No run of letters has a mark among its capitals. -/
private theorem runs_miss_marks :
    ∀ run ∈ caseRuns, ∀ k ∈ marks,
      (k.toNat : Int) < run.first + run.offset
        ∨ run.last + run.offset < (k.toNat : Int) := by
  have hcheck : (caseRuns.all fun run => marks.all fun k =>
      decide ((k.toNat : Int) < run.first + run.offset
        ∨ run.last + run.offset < (k.toNat : Int))) = true := by
    decide +kernel
  intro run hrun k hk
  exact of_decide_eq_true
    (List.all_eq_true.mp (List.all_eq_true.mp hcheck run hrun) k hk)

/-- A character is its own capital form, or a run of letters holds it and
leads to its capital. -/
theorem upperChar_cases {c k : Character} (hk : k ≠ '\x00')
    (h : upperChar c = [k]) :
    c = k ∨ ∃ run ∈ caseRuns, run.holds c.toNat = true
      ∧ (c.toNat : Int) + run.offset = k.toNat := by
  unfold upperChar at h
  split at h
  · next codes hcodes =>
    have hmem : (c.toNat, codes) ∈ caseExpansions := by
      obtain ⟨l, r, hlr, -⟩ := List.lookup_eq_some_iff.mp hcodes
      rw [hlr]
      exact List.mem_append_right _ (List.mem_cons_self ..)
    have hlen : codes.length = 1 := by
      simpa using congrArg List.length h
    exact absurd hlen (expansions_long _ hmem)
  · split at h
    · next run hrun =>
      have hcapital := List.singleton_inj.mp h
      have hcode := Character.toNat_ofNat (hcapital ▸ hk)
      rw [hcapital] at hcode
      have hpos : k.toNat ≠ 0 := by
        intro hzero
        apply hk
        rw [← Character.ofNat_toNat k, hzero]
        rfl
      have hholds := List.find?_some hrun
      refine .inr ⟨run, List.mem_of_find?_eq_some hrun, hholds, ?_⟩
      omega
    · exact .inl (List.singleton_inj.mp h)

/-- A mark is the capital form of itself alone. -/
theorem eq_of_upperChar_mark {c k : Character} (hk : k ∈ marks)
    (h : upperChar c = [k]) : c = k := by
  have hnull : k ≠ '\x00' := by
    rintro rfl
    exact absurd hk (by decide)
  rcases upperChar_cases hnull h with heq | ⟨run, hrun, hholds, hcode⟩
  · exact heq
  · have hmiss := runs_miss_marks run hrun k hk
    simp only [CaseRun.holds, Bool.and_eq_true,
      decide_eq_true_eq] at hholds
    omega

end TildeFormat
