import QuobyteMesos.SchedulerSteps

/-! Which updates are answered with a kill.

A task that reports that it runs is killed when it is a second instance of a
cluster service or has lost its device, and any living task once shutdown is
requested. The version label is compared as well, but a mismatch is only
logged: an outdated task lives on unless one of the other reasons applies. -/
namespace QuobyteMesos.KillDecision
open Mesos Machine SchedulerRuns SchedulerSteps

variable {R : Type} {s : Scheduler} {hostname : String} {kind : ServiceKind}
variable {now : Int} {status : TaskStatus}

/-- The task runs beside another one that the record of its cluster service
names. -/
def Surplus (s : Scheduler) (hostname : String) (kind : ServiceKind) (status : TaskStatus) : Prop :=
  status.state = .running ∧ kind.clusterWide = true ∧
    (s.record hostname kind).state = .running ∧ (s.record hostname kind).taskId ≠ status.taskId

/-- The task runs on a host known not to have what it needs. -/
def Deviceless (s : Scheduler) (hostname : String) (kind : ServiceKind) (status : TaskStatus) :
    Prop :=
  status.state = .running ∧ s.lacksDevice hostname kind = true

/-- The task is labelled with a version other than the target. -/
def Outdated (s : Scheduler) (status : TaskStatus) : Prop :=
  ∃ label ∈ status.labels, label.key = kDockerImageVersion ∧ label.value ≠ s.state.targetVersion

/-- The reasons `statusUpdate` acts on. -/
def KillDue (s : Scheduler) (hostname : String) (kind : ServiceKind) (status : TaskStatus) : Prop :=
  s.state.targetVersion = "" ∨ Surplus s hostname kind status ∨ Deviceless s hostname kind status

private theorem should_run_iff (s : Scheduler) (hostname : String) (kind : ServiceKind)
    (status : TaskStatus) : s.shouldRun hostname kind status = false ↔
    (kind.clusterWide = true ∧ (s.record hostname kind).state = .running ∧
      (s.record hostname kind).taskId ≠ status.taskId) ∨ s.lacksDevice hostname kind = true := by
  simp only [Scheduler.shouldRun, Bool.and_eq_false_iff, Bool.not_eq_false', Bool.and_eq_true,
    decide_eq_true_eq, and_assoc]

private theorem version_check_kills (service : kind ≠ .prober)
    (alive : isTerminal status.state = false) :
    .killTask status.taskId ∈ checkVersion (R := R) s.state kind status ↔
      s.state.targetVersion = "" := by
  have checked : ¬ (kind = .prober || isTerminal status.state) = true := by
    simp [service, alive]
  rw [checkVersion, if_neg checked]
  split
  · rename_i shutdown
    simp [shutdown]
  · rename_i wanted
    simp [wanted]

/-- A living task of a service is killed for one of the reasons acted on, and
for no other. -/
theorem kill_iff (target : statusTarget status.taskId = some (kind, hostname))
    (service : kind ≠ .prober) (alive : isTerminal status.state = false) :
    .killTask status.taskId ∈ (statusUpdate (R := R) s now status).2 ↔
      KillDue s hostname kind status := by
  have unfinished : status.state ≠ .finished := by
    intro finished
    rw [finished] at alive
    cases alive
  rw [calls_statusUpdate target, List.mem_append, version_check_kills service alive]
  by_cases running : status.state = .running
  · have needed := should_run_iff s hostname kind status
    simp only [KillDue, Surplus, Deviceless, running, true_or, true_and, ← needed]
    split
    · rename_i surplus
      simp [surplus]
    · rename_i wanted
      simp [wanted]
  · simp [KillDue, Surplus, Deviceless, running, unfinished]

/-- Every living task of a service but an outdated one is killed exactly when
shutdown is requested, another instance is recorded, its device is gone or its
version is not the target; an outdated one exactly when one of the first three
holds. No other task is ever killed. -/
theorem kill_decision_iff (s : Scheduler) (now : Int)
    (target : statusTarget status.taskId = some (kind, hostname)) (service : kind ≠ .prober)
    (alive : isTerminal status.state = false) :
    ((.killTask status.taskId ∈ (statusUpdate (R := R) s now status).2 ↔
        KillDue s hostname kind status ∨ Outdated s status) ∧
      ∀ id, .killTask id ∈ (statusUpdate (R := R) s now status).2 → id = status.taskId) ↔
    (Outdated s status → KillDue s hostname kind status) := by
  have own : ∀ id, .killTask id ∈ (statusUpdate (R := R) s now status).2 → id = status.taskId := by
    intro id made
    exact DriverCall.killTask.inj (statusUpdate_kills made)
  rw [kill_iff target service alive, and_iff_left own]
  constructor
  · intro decided outdated
    exact decided.mpr (.inr outdated)
  · intro covered
    exact ⟨.inl, fun reason => reason.elim id covered⟩

/-- A registry reports in on a host that has been offered. -/
def registryRuns : List (Callback TextResources) :=
  [.resourceOffers [(1, wideOffer "o1" "h1")],
    .statusUpdate 2 { taskId := "quobyte-registry-h1", state := .running }]

/-- An api on a second host. -/
def secondApi : TaskStatus where
  taskId := "quobyte-api-h2"
  state := .running

/-- A second api is killed while the first one runs. -/
theorem second_api_killed : ∃ s, Reachable defaultConfig s ∧
    .killTask secondApi.taskId ∈ (statusUpdate (R := TextResources) s 3 secondApi).2 := by
  have ran : (run (callbackStep defaultConfig) (Scheduler.fresh { targetVersion := "1" })
      [.statusUpdate 2 { taskId := "quobyte-api-h1", state := .running }]).next.map
      (fun s => ((s.record "h2" .api).state, (s.record "h2" .api).taskId)) =
      some (.running, "quobyte-api-h1") := by decide +kernel
  obtain ⟨s, reachable, viewed⟩ := reachable_of_run ran
  obtain ⟨running, named⟩ := Prod.mk.inj viewed
  have target : statusTarget secondApi.taskId = some (.api, "h2") :=
    target_iff.mpr ⟨rfl, by decide⟩
  have surplus : Surplus s "h2" .api secondApi := by
    refine ⟨rfl, rfl, running, ?_⟩
    rw [named]
    decide
  have decided := (kill_decision_iff (R := TextResources) s 3 target (by decide) rfl).mpr
    fun _ => .inr (.inl surplus)
  exact ⟨s, reachable, decided.1.mpr (.inl (.inr (.inl surplus)))⟩

/-- A running registry, as it reports in after a restart of the agent. -/
def outdatedRegistry : TaskStatus where
  taskId := "quobyte-registry-h1"
  state := .running
  labels := [⟨"docker_image_version", "0"⟩]

/-- A registry labelled with an older version than the target is not killed. -/
theorem outdated_registry_kept : ∃ s, Reachable defaultConfig s ∧
    statusTarget outdatedRegistry.taskId = some (.registry, "h1") ∧
    isTerminal outdatedRegistry.state = false ∧ Outdated s outdatedRegistry ∧
    ¬ (.killTask outdatedRegistry.taskId ∈ (statusUpdate (R := TextResources) s 3 outdatedRegistry).2 ↔
      KillDue s "h1" .registry outdatedRegistry ∨ Outdated s outdatedRegistry) := by
  have ran : (run (callbackStep defaultConfig) (Scheduler.fresh { targetVersion := "1" })
      registryRuns).next.map (fun s => (s.state.targetVersion,
        (statusUpdate (R := TextResources) s 3 outdatedRegistry).2)) = some ("1", []) := by
    decide +kernel
  obtain ⟨s, reachable, viewed⟩ := reachable_of_run ran
  obtain ⟨version, silent⟩ := Prod.mk.inj viewed
  have outdated : Outdated s outdatedRegistry := by
    refine ⟨⟨"docker_image_version", "0"⟩, List.mem_singleton_self _, rfl, ?_⟩
    rw [version]
    decide
  refine ⟨s, reachable, by decide +kernel, rfl, outdated, ?_⟩
  intro decided
  have killed := decided.mpr (.inr outdated)
  rw [silent] at killed
  cases killed

end QuobyteMesos.KillDecision
