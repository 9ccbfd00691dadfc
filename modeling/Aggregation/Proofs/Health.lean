/-
**What a health report says.**

A report is written in two ways: as a bare `ok`, or as a line for each check and a verdict. It is
bare exactly if every check passed and nobody asked for more (`render_eq_ok_iff`); otherwise each
line tells of its check, and the verdict agrees with them (`render_eq_lines`).

Exclusion is by name, and a report depends only on which names are excluded (`evaluate_congr`).
-/

import Aggregation.Health
import Mathlib.Data.List.Forall2

namespace Aggregation

namespace HealthReport

theorem isHealthy_iff (report : HealthReport) :
    report.isHealthy = true ↔ ∀ result ∈ report.results, result.failure = none := by
  unfold isHealthy
  rw [List.all_eq_true]
  exact forall_congr' fun result => imp_congr_right fun _ => Option.isNone_iff_eq_none

/-! ### Lines -/

/-- How a line tells of a check: marked by whether it passed, the reason left out to be brief. -/
inductive Tells (brief : Prop) : CheckResult → String → Prop
  | passed (name : String) : Tells brief ⟨name, none⟩ ("[+]" ++ name ++ " ok\n")
  | failed (asked : ¬brief) (name reason : String) :
      Tells brief ⟨name, some reason⟩ ("[-]" ++ name ++ " failed: " ++ reason ++ "\n")
  | withheld (unasked : brief) (name reason : String) :
      Tells brief ⟨name, some reason⟩ ("[-]" ++ name ++ " failed: " ++ "reason withheld" ++ "\n")

theorem tells_line (verbose : Bool) (result : CheckResult) :
    Tells (verbose = false) result (line verbose result) := by
  obtain ⟨name, failure⟩ := result
  cases failure with
  | none => exact .passed name
  | some reason =>
    cases verbose with
    | true => exact .failed Bool.noConfusion name reason
    | false => exact .withheld rfl name reason

theorem forall₂_tells_line (verbose : Bool) (results : List CheckResult) :
    List.Forall₂ (Tells (verbose = false)) results (results.map (line verbose)) := by
  rw [List.forall₂_map_right_iff, List.forall₂_same]
  exact fun result _ => tells_line verbose result

/-! ### Bodies -/

theorem render_of_bare {report : HealthReport} {verbose : Bool} (healthy : report.isHealthy = true)
    (unasked : verbose = false) : report.render verbose = "ok" := by
  unfold render
  rw [healthy, unasked]
  rfl

/-- A body that is not bare has a line for each check, and a verdict. -/
theorem render_eq_lines {report : HealthReport} {verbose : Bool}
    (told : ¬(report.isHealthy = true ∧ verbose = false)) :
    ∃ lines, List.Forall₂ (Tells (verbose = false)) report.results lines ∧
      report.render verbose = "".intercalate lines ++ report.endpoint.text ++ " check " ++
        (if report.isHealthy then "passed" else "failed") ++ "\n" := by
  refine ⟨_, forall₂_tells_line verbose report.results, ?_⟩
  unfold render
  rw [if_neg (by simpa using told)]

/-- What ends with a line break is not a bare `ok`. -/
theorem append_line_ne_ok (text : String) : text ++ "\n" ≠ "ok" := by
  intro same
  have last := congrArg (fun text : String => text.toList.getLast?) same
  simp at last

theorem render_eq_ok_iff (report : HealthReport) (verbose : Bool) :
    report.render verbose = "ok" ↔ report.isHealthy = true ∧ verbose = false := by
  constructor
  · intro bare
    by_contra told
    obtain ⟨lines, -, body⟩ := render_eq_lines told
    exact append_line_ne_ok _ (body.symm.trans bare)
  · rintro ⟨healthy, unasked⟩
    exact render_of_bare healthy unasked

end HealthReport

namespace HealthChecks

variable {σ : Type} (checks : HealthChecks σ) (conditions : σ) (endpoint : Endpoint)

theorem served_install : checks.install.served endpoint = checks.served endpoint := by
  cases endpoint <;> rfl

/-- The checks of every endpoint are among those of `readyz`. -/
theorem served_sublist : (checks.served endpoint).Sublist (checks.served .readyz) := by
  cases endpoint with
  | healthz | livez => exact List.sublist_append_left _ _
  | readyz => exact List.Sublist.refl _

/-- A report has the results of the checks that are served and not excluded, in their order. -/
theorem results_evaluate (exclude : List String) :
    (checks.evaluate conditions endpoint exclude).results =
      ((checks.served endpoint).map (run conditions)).filter fun result =>
        result.name ∉ exclude := by
  have kept (check : HealthCheck σ) :
      (!exclude.contains check.name) = decide ((run conditions check).name ∉ exclude) := by
    rw [List.contains_eq_mem, decide_not]
    rfl
  unfold evaluate
  simp only [List.filter_map, kept]
  rfl

/-- Only which names are excluded matters, not in which order or how often. -/
theorem evaluate_congr {exclude other : List String}
    (same : ∀ name, name ∈ exclude ↔ name ∈ other) :
    checks.evaluate conditions endpoint exclude = checks.evaluate conditions endpoint other := by
  unfold evaluate
  simp only [List.contains_eq_mem, same]

end HealthChecks

end Aggregation
