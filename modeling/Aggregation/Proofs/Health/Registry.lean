/-
**How checks are registered.**

Checks are added in calls, each with a list of them, to either part of a registry, until it is
installed. A call adds its checks one after the other, so one that fails has already added some of
them. `Adds` says which, and with which outcome: all of them if their names are new and differ from
one another, else those before the first whose name is taken by then, and none once the registry is
installed. `adds_addAll` shows that a call does this and nothing else.

From it, by induction on the calls, the names of a registry stay pairwise different over both parts
(`nodup_callAll`), and an installed registry stays as it is (`callAll_installed`). `register_exact`
puts this together for every registry that was started empty or with its first check.
-/

import Aggregation.Health

namespace Aggregation

namespace HealthChecks

variable {σ : Type}

/-! ### Calls -/

/-- The two parts of a registry. -/
inductive Part where
  | boot
  | readiness
deriving DecidableEq

/-- The registry with further checks at the end of a part. -/
def extend (checks : HealthChecks σ) : Part → List (HealthCheck σ) → HealthChecks σ
  | .boot, added => { checks with boot := checks.boot ++ added }
  | .readiness, added => { checks with readiness := checks.readiness ++ added }

/-- A call on a registry. -/
inductive Call (σ : Type) where
  | addBoot (new : List (HealthCheck σ))
  | addReadiness (new : List (HealthCheck σ))
  | install

/-- What a call makes of the registry, and how it ends. -/
def call (checks : HealthChecks σ) : Call σ → HealthChecks σ × Except HealthError Unit
  | .addBoot new => checks.addBoot new
  | .addReadiness new => checks.addReadiness new
  | .install => (checks.install, .ok ())

/-- The registry after several calls, however they ended. -/
def callAll (checks : HealthChecks σ) (calls : List (Call σ)) : HealthChecks σ :=
  calls.foldl (fun checks next => (checks.call next).1) checks

/-- The call that adds checks to a part. -/
def Call.add : Part → List (HealthCheck σ) → Call σ
  | .boot, new => .addBoot new
  | .readiness, new => .addReadiness new

/-- Adding to a part is adding one check after the other to its end. -/
theorem call_add (checks : HealthChecks σ) (part : Part) (new : List (HealthCheck σ)) :
    checks.call (.add part new) =
      addAll (fun checks check => checks.extend part [check]) checks new := by
  cases part <;> rfl

@[simp] theorem extend_nil (checks : HealthChecks σ) (part : Part) :
    checks.extend part [] = checks := by
  cases part <;> simp [extend]

theorem extend_extend (checks : HealthChecks σ) (part : Part)
    (first second : List (HealthCheck σ)) :
    (checks.extend part first).extend part second = checks.extend part (first ++ second) := by
  cases part <;> simp [extend]

@[simp] theorem installed_extend (checks : HealthChecks σ) (part : Part)
    (added : List (HealthCheck σ)) : (checks.extend part added).installed = checks.installed := by
  cases part <;> rfl

/-- Whatever the part, the names of what is added join the names of all checks. -/
theorem perm_names_extend (checks : HealthChecks σ) (part : Part) (added : List (HealthCheck σ)) :
    ((checks.extend part added).names .readyz).Perm
      (checks.names .readyz ++ added.map HealthCheck.name) := by
  cases part with
  | boot =>
    show ((checks.boot ++ added ++ checks.readiness).map HealthCheck.name).Perm
      ((checks.boot ++ checks.readiness).map HealthCheck.name ++ _)
    simp only [List.map_append, List.append_assoc]
    exact List.perm_append_comm.append_left _
  | readiness =>
    show ((checks.boot ++ (checks.readiness ++ added)).map HealthCheck.name).Perm
      ((checks.boot ++ checks.readiness).map HealthCheck.name ++ _)
    simp only [List.map_append, List.append_assoc]
    exact List.Perm.refl _

/-- A name is taken if one of all checks has it. -/
theorem isTaken_iff (checks : HealthChecks σ) (name : String) :
    checks.isTaken name = true ↔ name ∈ checks.names .readyz := by
  show _ ↔ name ∈ (checks.boot ++ checks.readiness).map HealthCheck.name
  rw [isTaken, List.any_eq_true, List.mem_map]
  simp only [beq_iff_eq]

/-- A check whose name is not taken can be added. -/
theorem nodup_names_concat {checks : HealthChecks σ} (distinct : (checks.names .readyz).Nodup)
    {check : HealthCheck σ} (free : check.name ∉ checks.names .readyz) :
    (checks.names .readyz ++ [check.name]).Nodup := by
  refine List.nodup_append.mpr ⟨distinct, List.pairwise_singleton _ _, ?_⟩
  intro name known other added same
  rw [List.mem_singleton] at added
  exact free (added ▸ same ▸ known)

/-! ### One call -/

/-- Which checks a call adds, and how it ends. -/
inductive Adds (checks : HealthChecks σ) (new : List (HealthCheck σ)) :
    List (HealthCheck σ) → Except HealthError Unit → Prop
  /-- There is nothing to add. -/
  | nothing (none : new = []) : Adds checks new [] (.ok ())
  /-- The registry is installed: the first check is refused. -/
  | frozen {check : HealthCheck σ} {rest : List (HealthCheck σ)} (given : new = check :: rest)
    (installed : checks.installed = true) :
    Adds checks new [] (.error (.alreadyInstalled check.name))
  /-- The names are new and differ from one another: all checks are added. -/
  | all (opened : checks.installed = false)
    (distinct : (checks.names .readyz ++ new.map HealthCheck.name).Nodup) :
    Adds checks new new (.ok ())
  /-- The checks are added up to the first whose name is taken by then. -/
  | duplicate {added rest : List (HealthCheck σ)} {check : HealthCheck σ}
    (given : new = added ++ check :: rest) (opened : checks.installed = false)
    (distinct : (checks.names .readyz ++ added.map HealthCheck.name).Nodup)
    (taken : check.name ∈ checks.names .readyz ++ added.map HealthCheck.name) :
    Adds checks new added (.error (.duplicate check.name))

/-- What is added to a registry with different names leaves it with different names. -/
theorem Adds.distinct {checks : HealthChecks σ} {new added : List (HealthCheck σ)}
    {outcome : Except HealthError Unit} (adds : checks.Adds new added outcome)
    (before : (checks.names .readyz).Nodup) :
    (checks.names .readyz ++ added.map HealthCheck.name).Nodup := by
  cases adds with
  | nothing => simpa using before
  | frozen => simpa using before
  | all opened distinct => exact distinct
  | duplicate given opened distinct taken => exact distinct

/-- Only an open registry takes checks. -/
theorem Adds.eq_nil {checks : HealthChecks σ} {new added : List (HealthCheck σ)}
    {outcome : Except HealthError Unit} (adds : checks.Adds new added outcome)
    (installed : checks.installed = true) : added = [] := by
  cases adds with
  | nothing => rfl
  | frozen => rfl
  | all opened => exact absurd installed (by simp [opened])
  | duplicate given opened => exact absurd installed (by simp [opened])

/-- Adding a check that is not taken, and then others. -/
theorem Adds.cons {checks : HealthChecks σ} {part : Part} {check : HealthCheck σ}
    {rest added : List (HealthCheck σ)} {outcome : Except HealthError Unit}
    (opened : checks.installed = false) (distinct : (checks.names .readyz).Nodup)
    (free : check.name ∉ checks.names .readyz)
    (adds : (checks.extend part [check]).Adds rest added outcome) :
    checks.Adds (check :: rest) (check :: added) outcome := by
  have together (others : List (HealthCheck σ)) :
      ((checks.extend part [check]).names .readyz ++ others.map HealthCheck.name).Perm
        (checks.names .readyz ++ (check :: others).map HealthCheck.name) := by
    have names := (perm_names_extend checks part [check]).append_right
      (others.map HealthCheck.name)
    simpa using names
  cases adds with
  | nothing none =>
    subst none
    exact .all opened (nodup_names_concat distinct free)
  | frozen given installed => exact absurd installed (by simp [opened])
  | all stillOpen different => exact .all opened ((together rest).nodup_iff.mp different)
  | duplicate given stillOpen different taken =>
    rw [given]
    exact .duplicate rfl opened ((together added).nodup_iff.mp different)
      ((together added).mem_iff.mp taken)

/-- **What a call adds.** -/
theorem adds_addAll {checks : HealthChecks σ} (distinct : (checks.names .readyz).Nodup)
    (part : Part) (new : List (HealthCheck σ)) :
    ∃ added, (checks.call (.add part new)).1 = checks.extend part added ∧
      checks.Adds new added (checks.call (.add part new)).2 := by
  rw [call_add]
  induction new generalizing checks with
  | nil => exact ⟨[], (extend_nil checks part).symm, .nothing rfl⟩
  | cons check rest ih =>
    unfold addAll
    by_cases installed : checks.installed = true
    · rw [if_pos installed]
      exact ⟨[], (extend_nil checks part).symm, .frozen rfl installed⟩
    · have opened : checks.installed = false := Bool.eq_false_iff.mpr installed
      rw [if_neg installed]
      by_cases taken : checks.isTaken check.name = true
      · rw [if_pos taken]
        refine ⟨[], (extend_nil checks part).symm, .duplicate rfl opened ?_ ?_⟩
        · simpa using distinct
        · simpa using (isTaken_iff checks check.name).mp taken
      · rw [if_neg taken]
        have free : check.name ∉ checks.names .readyz :=
          fun known => taken ((isTaken_iff checks check.name).mpr known)
        have joined : ((checks.extend part [check]).names .readyz).Nodup :=
          (perm_names_extend checks part [check]).nodup_iff.mpr (nodup_names_concat distinct free)
        obtain ⟨added, result, adds⟩ := ih joined
        exact ⟨check :: added, result.trans (extend_extend checks part [check] added),
          .cons opened distinct free adds⟩

theorem call_cases (next : Call σ) : next = .install ∨ ∃ part new, next = .add part new := by
  cases next with
  | addBoot new => exact .inr ⟨.boot, new, rfl⟩
  | addReadiness new => exact .inr ⟨.readiness, new, rfl⟩
  | install => exact .inl rfl

/-- A call on a registry with different names leaves it with different names. -/
theorem nodup_call {checks : HealthChecks σ} (distinct : (checks.names .readyz).Nodup)
    (next : Call σ) : ((checks.call next).1.names .readyz).Nodup := by
  rcases call_cases next with rfl | ⟨part, new, rfl⟩
  · exact distinct
  · obtain ⟨added, result, adds⟩ := adds_addAll distinct part new
    rw [result, (perm_names_extend checks part added).nodup_iff]
    exact adds.distinct distinct

/-- A call only appends. -/
theorem isPrefix_call {checks : HealthChecks σ} (distinct : (checks.names .readyz).Nodup)
    (next : Call σ) :
    checks.boot <+: (checks.call next).1.boot ∧
      checks.readiness <+: (checks.call next).1.readiness := by
  rcases call_cases next with rfl | ⟨part, new, rfl⟩
  · exact ⟨List.prefix_rfl, List.prefix_rfl⟩
  · obtain ⟨added, result, -⟩ := adds_addAll distinct part new
    rw [result]
    cases part with
    | boot => exact ⟨List.prefix_append _ _, List.prefix_rfl⟩
    | readiness => exact ⟨List.prefix_rfl, List.prefix_append _ _⟩

/-- No call changes a registry that is installed. -/
theorem call_installed {checks : HealthChecks σ} (distinct : (checks.names .readyz).Nodup)
    (installed : checks.installed = true) (next : Call σ) : (checks.call next).1 = checks := by
  rcases call_cases next with rfl | ⟨part, new, rfl⟩
  · show { checks with installed := true } = checks
    rw [← installed]
  · obtain ⟨added, result, adds⟩ := adds_addAll distinct part new
    rw [result, adds.eq_nil installed, extend_nil]

/-! ### Runs of calls -/

/-- **Names stay different**, whatever is called. -/
theorem nodup_callAll {checks : HealthChecks σ} (distinct : (checks.names .readyz).Nodup)
    (calls : List (Call σ)) : ((checks.callAll calls).names .readyz).Nodup := by
  induction calls generalizing checks with
  | nil => exact distinct
  | cons next rest ih => exact ih (nodup_call distinct next)

/-- **An installed registry stays as it is**, whatever is called. -/
theorem callAll_installed {checks : HealthChecks σ} (distinct : (checks.names .readyz).Nodup)
    (installed : checks.installed = true) (calls : List (Call σ)) :
    checks.callAll calls = checks := by
  induction calls with
  | nil => rfl
  | cons next rest ih =>
    show (checks.call next).1.callAll rest = checks
    rw [call_installed distinct installed next]
    exact ih

/-- A registry is installed once it was called to be. -/
theorem installed_callAll {checks : HealthChecks σ} (distinct : (checks.names .readyz).Nodup)
    {calls : List (Call σ)} (called : .install ∈ calls) :
    (checks.callAll calls).installed = true := by
  obtain ⟨earlier, later, rfl⟩ := List.append_of_mem called
  have names : ((checks.callAll earlier).install.names .readyz).Nodup :=
    nodup_callAll distinct earlier
  have frozen : (checks.callAll earlier).install.callAll later = (checks.callAll earlier).install :=
    callAll_installed names rfl later
  have split : checks.callAll (earlier ++ .install :: later) =
      (checks.callAll earlier).install.callAll later := List.foldl_append
  rw [split, frozen]
  rfl

/-- **How checks are registered.** In a registry that was started empty or with its first check,
whatever was called on it: all names are different; `healthz` and `livez` serve the boot checks, and
`readyz` serves the readiness checks after them; a call only appends, and what it appends, and how
it ends, is what `Adds` says; and once the registry is installed nothing changes it any more, and
whoever wants to add checks is refused at the first. -/
theorem register_exact (start : HealthChecks σ) (started : start = empty ∨ start = new)
    (calls : List (Call σ)) :
    let checks := start.callAll calls
    (checks.names .readyz).Nodup ∧
      (checks.names .healthz = checks.boot.map HealthCheck.name ∧
        checks.names .livez = checks.boot.map HealthCheck.name ∧
        checks.names .readyz =
          checks.boot.map HealthCheck.name ++ checks.readiness.map HealthCheck.name) ∧
      (∀ next, checks.boot <+: (checks.call next).1.boot ∧
        checks.readiness <+: (checks.call next).1.readiness) ∧
      (∀ part new, ∃ added, (checks.call (.add part new)).1 = checks.extend part added ∧
        checks.Adds new added (checks.call (.add part new)).2) ∧
      (.install ∈ calls → (∀ later, checks.callAll later = checks) ∧
        ∀ part check rest, (checks.call (.add part (check :: rest))).2 =
          .error (.alreadyInstalled check.name)) := by
  intro checks
  have fresh : (start.names .readyz).Nodup := by
    rcases started with rfl | rfl
    · exact List.nodup_nil
    · exact List.pairwise_singleton _ _
  have distinct : (checks.names .readyz).Nodup := nodup_callAll fresh calls
  refine ⟨distinct, ⟨rfl, rfl, List.map_append⟩, isPrefix_call distinct, adds_addAll distinct,
    fun called => ?_⟩
  have installed : checks.installed = true := installed_callAll fresh called
  refine ⟨callAll_installed distinct installed, fun part check rest => ?_⟩
  rw [call_add, addAll, if_pos installed]

/-- A check that passes. -/
def passing (name : String) : HealthCheck Unit := ⟨name, fun _ => none⟩

/-- The second call finds a name taken that an earlier check of its own has. -/
def doubled : List (Call Unit) := [
  .addBoot [passing "gate"], .addReadiness [passing "late", passing "later", passing "late",
    passing "last"], .install, .addBoot [passing "new"]]

/-- Checks that are added up to the first whose name is taken, and some that come too late. -/
theorem register_exact_doubled :
    let checks := (HealthChecks.new : HealthChecks Unit).callAll doubled
    checks.names .readyz = ["ping", "gate", "late", "later"] ∧ (checks.names .readyz).Nodup ∧
      (checks.call (.addBoot [passing "other"])).2 = .error (.alreadyInstalled "other") := by
  obtain ⟨distinct, -, -, -, frozen⟩ := register_exact HealthChecks.new (.inr rfl) doubled
  have called : .install ∈ doubled := by simp [doubled]
  exact ⟨by decide +kernel, distinct, (frozen called).2 .boot (passing "other") []⟩

end HealthChecks

end Aggregation
