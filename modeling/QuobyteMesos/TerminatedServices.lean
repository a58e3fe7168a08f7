import QuobyteMesos.ServiceRecords

/-! What a terminal update leaves of its record, and for how long.

Every terminal state but `finished` clears the record. A finished task is
handled in the branch of the running ones, so it clears nothing: it leaves the
record cleared only when the record was idle and the device is gone
(`FinishHarmless`). Once cleared, a record stays out of the running state until
its service is launched or reported running again. -/
namespace QuobyteMesos.TerminatedServices
open Mesos Machine SchedulerRuns SchedulerSteps RecordSteps ServiceRecords

variable {R : Type} [Resources R] {config : Config R} {s s' : Scheduler}
variable {hostname host : String} {kind : ServiceKind} {now : Int} {status : TaskStatus}
variable {input : Input R} {inputs : List (Input R)}

/-- A finished task is about a service whose device is gone and whose record was
not running. -/
def FinishHarmless (s : Scheduler) (hostname : String) (kind : ServiceKind) (status : TaskStatus) :
    Prop :=
  status.state = .finished →
    s.lacksDevice hostname kind = true ∧ (s.record hostname kind).state = .notRunning

/-- The record of a service is the one seen from either host. -/
def SameRecord (kind : ServiceKind) (hostname host : String) : Prop :=
  kind.clusterWide = true ∨ hostname = host

/-- A step at which every accepted terminal update of the record leaves it cleared. -/
def FinishesHarmlessly (hostname : String) (kind : ServiceKind) (s : Scheduler) : Input R → Prop
  | .statusUpdate _ status => ∀ host, statusTarget status.taskId = some (kind, host) →
      SameRecord kind hostname host → acceptsUpdate (s.record host kind) status = true →
        FinishHarmless s host kind status
  | .offer .. | .frameworkMessage .. | .registered _ | .reregistered | .postVersion _ => True

/-- The service is launched, or reported running. -/
def Revives (hostname : String) (kind : ServiceKind) : Event R → Prop
  | .called call => ∃ host, SameRecord kind hostname host ∧ taskId kind host ∈ call.launched
  | .delivered status => status.state = .running ∧
      ∃ host, SameRecord kind hostname host ∧ status.taskId = taskId kind host

private theorem shouldRun_of_accepted (inv : RecordInv s)
    (accepted : acceptsUpdate (s.record hostname kind) status = true) :
    s.shouldRun hostname kind status = !s.lacksDevice hostname kind := by
  have own : (s.record hostname kind).state = .running →
      (s.record hostname kind).taskId = status.taskId := by
    intro running
    have named := (inv.running hostname kind).mpr running
    simpa [acceptsUpdate, named, eq_comm] using accepted
  by_cases running : (s.record hostname kind).state = .running
  · simp [Scheduler.shouldRun, own running]
  · simp [Scheduler.shouldRun, running]

omit [Resources R] in
/-- An accepted terminal update leaves the record idle and without a task, unless
the task finished and the record had something to lose. -/
theorem cleared_iff (now : Int) (inv : RecordInv s)
    (target : statusTarget status.taskId = some (kind, hostname))
    (terminal : isTerminal status.state = true)
    (accepted : acceptsUpdate (s.record hostname kind) status = true) :
    (((statusUpdate (R := R) s now status).1.record hostname kind).state = .notRunning ∧
      ((statusUpdate (R := R) s now status).1.record hostname kind).taskId = "") ↔
      FinishHarmless s hostname kind status := by
  rw [record_statusUpdate target, shouldRun_of_accepted inv accepted]
  have alive : status.state ≠ .running := by
    intro running
    rw [running] at terminal
    cases terminal
  by_cases finished : status.state = .finished
  · have idle : (s.record hostname kind).state = .notRunning →
        (s.record hostname kind).taskId = "" := by
      intro idle
      by_contra named
      rw [(inv.running hostname kind).mp named] at idle
      cases idle
    cases lacks : s.lacksDevice hostname kind with
    | true => simpa [recordAfter, finished, lacks, FinishHarmless] using idle
    | false => simp [recordAfter, finished, accepted, lacks, FinishHarmless, recordSeen]
  · simp [recordAfter, alive, finished, terminal, accepted, recordTerminated, FinishHarmless]

/-! ### Until the service comes back -/

private theorem stays_down_step (down : (s.record hostname kind).state ≠ .running)
    (harmless : FinishesHarmlessly hostname kind s input)
    (stepped : (inputStep config s input).next = some s')
    (quiet : ∀ event ∈ (inputStep config s input).out, ¬ Revives hostname kind event) :
    (s'.record hostname kind).state ≠ .running := by
  have step := record_step stepped hostname kind
  generalize s'.record hostname kind = after at step ⊢
  generalize out : (inputStep config s input).out = events at step
  cases step with
  | kept state => rwa [state]
  | @launched now offer _ _ noted here known idle running id called =>
    obtain ⟨call, only, listed⟩ := called
    refine absurd ⟨offer.hostname, here, listed⟩ (quiet (.called call) ?_)
    rw [out, only]
    exact List.mem_singleton_self _
  | proberStarted isProber here resting starting =>
    rw [starting]
    decide
  | @seen now status host _ target here alive present accepted =>
    rcases alive with running | finished
    · refine absurd ⟨running, host, here, (target_iff.mp target).1⟩
        (quiet (.delivered status) ?_)
      simp [inputStep]
    · have same : s.record host kind = s.record hostname kind := by
        rcases here with shared | rfl
        · exact record_shared shared _ _
        · rfl
      have gone := (harmless host target here (by rw [same]; exact accepted) finished).1
      rw [present] at gone
      cases gone
  | terminated => simp [recordTerminated]

/-- A record that is not running stays so along every run in which no finished
task revives it, until its service is launched or reported running. -/
theorem stays_down (down : (s.record hostname kind).state ≠ .running)
    (harmless : Along (FinishesHarmlessly hostname kind) (inputStep config) s inputs)
    (ran : (run (inputStep config) s inputs).next = some s')
    (quiet : ∀ event ∈ (run (inputStep config) s inputs).out, ¬ Revives hostname kind event) :
    (s'.record hostname kind).state ≠ .running :=
  run_quiet (fun s => (s.record hostname kind).state ≠ .running)
    (fun _ _ _ => stays_down_step) down harmless ran quiet

/-- An accepted terminal update of a service clears its record exactly when it is
not a finished task with something to lose, and the record then stays out of the
running state, as long as finished tasks are harmless, until the service is
launched or reported running. -/
theorem terminated_cleared_iff (now : Int) (reachable : Reachable config s)
    (target : statusTarget status.taskId = some (kind, hostname))
    (terminal : isTerminal status.state = true)
    (accepted : acceptsUpdate (s.record hostname kind) status = true) :
    ((((statusUpdate (R := R) s now status).1.record hostname kind).state = .notRunning ∧
      ((statusUpdate (R := R) s now status).1.record hostname kind).taskId = "") ↔
        FinishHarmless s hostname kind status) ∧
    (FinishHarmless s hostname kind status → ∀ inputs s',
      Along (FinishesHarmlessly hostname kind) (inputStep config)
        (statusUpdate (R := R) s now status).1 inputs →
      (run (inputStep config) (statusUpdate (R := R) s now status).1 inputs).next = some s' →
      (∀ event ∈ (run (inputStep config) (statusUpdate (R := R) s now status).1 inputs).out,
        ¬ Revives hostname kind event) →
      (s'.record hostname kind).state ≠ .running) := by
  have cleared := cleared_iff (R := R) now (record_inv_reachable reachable) target terminal accepted
  refine ⟨cleared, ?_⟩
  intro harmless inputs s' along ran quiet
  refine stays_down ?_ along ran quiet
  rw [(cleared.mpr harmless).1]
  decide

/-- A registry that ran and failed: its record is cleared. -/
theorem failed_registry_cleared : ∃ s, Reachable defaultConfig s ∧
    ((statusUpdate (R := TextResources) s 3
      { taskId := "quobyte-registry-h1", state := .failed }).1.record "h1" .registry).taskId = "" := by
  have ran : (run (callbackStep defaultConfig) (Scheduler.fresh { targetVersion := "1" })
      [.resourceOffers [(1, wideOffer "o1" "h1")],
        .statusUpdate 2 { taskId := "quobyte-registry-h1", state := .running }]).next.map
      (fun s => (s.record "h1" .registry).taskId) = some "quobyte-registry-h1" := by decide +kernel
  obtain ⟨s, reachable, named⟩ := reachable_of_run ran
  have target : statusTarget (TaskStatus.mk "quobyte-registry-h1" .failed "" "" []).taskId =
      some (.registry, "h1") := by decide +kernel
  have cleared := (terminated_cleared_iff 3 reachable target rfl (by simp [acceptsUpdate, named])).1
  exact ⟨s, reachable, (cleared.mpr (fun finished => by cases finished)).2⟩

/-- A registry that ran and finished: its record still says that it is running. -/
theorem finished_registry_kept : ∃ s, Reachable defaultConfig s ∧
    isTerminal .finished = true ∧ (s.record "h1" .registry).taskId = "quobyte-registry-h1" ∧
    ((statusUpdate (R := TextResources) s 3
      { taskId := "quobyte-registry-h1", state := .finished }).1.record "h1" .registry).state =
      .running := by
  have ran : (run (callbackStep defaultConfig) (Scheduler.fresh { targetVersion := "1" })
      [.resourceOffers [(1, wideOffer "o1" "h1")],
        .statusUpdate 2 { taskId := "quobyte-registry-h1", state := .running }]).next.map
      (fun s => ((s.record "h1" .registry).taskId, ((statusUpdate (R := TextResources) s 3
        { taskId := "quobyte-registry-h1", state := .finished }).1.record "h1" .registry).state)) =
      some ("quobyte-registry-h1", .running) := by decide +kernel
  obtain ⟨s, reachable, viewed⟩ := reachable_of_run ran
  obtain ⟨named, kept⟩ := Prod.mk.inj viewed
  exact ⟨s, reachable, rfl, named, kept⟩

end QuobyteMesos.TerminatedServices
