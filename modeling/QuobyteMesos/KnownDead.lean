import QuobyteMesos.CoreLaunches

/-! What was last heard of a core task when it is launched.

An idle record stands for a task whose last report was that it is over. One
update breaks this: a core task that reports running while its record is idle
and its device is known to be missing is answered with a kill, and the record
goes on saying that the task does not run. If the device is listed again before
the kill has been reported, the task is launched once more. In every run without
such an update a launch finds its task last reported as over. -/
namespace QuobyteMesos.KnownDead
open Mesos Machine SchedulerRuns SchedulerSteps RecordSteps ServiceRecords LaunchExclusion CoreLaunches

variable {R : Type} [Resources R] {config : Config R} {s s' : Scheduler} {state : SchedulerState}
variable {hostname id : String} {kind : ServiceKind} {status : TaskStatus} {event : Event R}
variable {trace later pre post : List (Event R)} {callbacks : List (Callback R)} {input : Input R}

/-- What a delivered update says about a task that runs or is over. -/
def report (id : String) : Event R → Option TaskState
  | .delivered status =>
    if status.taskId = id ∧ (status.state = .running ∨ isTerminal status.state = true) then
      some status.state
    else none
  | .called _ => none

/-- The latest such report of a task. -/
def lastReport (id : String) (trace : List (Event R)) : Option TaskState :=
  (trace.filterMap (report id)).getLast?

/-- The task has been reported, and the latest report says that it is over. -/
def ReportedOver (id : String) (trace : List (Event R)) : Prop :=
  ∃ state, lastReport id trace = some state ∧ isTerminal state = true

/-- An update of a running core service does not find its record idle on a host
that lacks the device. -/
def NoIdleKill (s : Scheduler) : Input R → Prop
  | .statusUpdate _ status => status.state = .running → ∀ kind hostname, kind.core = true →
      statusTarget status.taskId = some (kind, hostname) →
        (s.record hostname kind).state = .notRunning → s.lacksDevice hostname kind = false
  | .offer .. | .frameworkMessage .. | .registered _ | .reregistered | .postVersion _ => True

/-- What an idle record stands for. -/
def IdleReportedOver (trace : List (Event R)) (s : Scheduler) : Prop :=
  ∀ hostname kind, kind.core = true → (s.record hostname kind).state = .notRunning →
    '-' ∉ hostname.toList ∧ ReportedOver (taskId kind hostname) trace

/-! ### Reports -/

omit [Resources R] in
/-- What says nothing about the task leaves its latest report. -/
theorem over_append_silent (silent : ∀ event ∈ later, report id event = none)
    (ended : ReportedOver id trace) : ReportedOver id (trace ++ later) := by
  have nothing : later.filterMap (report id) = [] := List.filterMap_eq_nil_iff.mpr silent
  simpa [ReportedOver, lastReport, nothing] using ended

omit [Resources R] in
/-- A terminal update is the latest report until another one follows. -/
theorem over_of_terminal (terminal : isTerminal status.state = true)
    (silent : ∀ event ∈ later, report status.taskId event = none) :
    ReportedOver status.taskId (trace ++ .delivered status :: later) := by
  have nothing : later.filterMap (report status.taskId) = [] := List.filterMap_eq_nil_iff.mpr silent
  exact ⟨status.state, by simp [lastReport, report, nothing, terminal], terminal⟩

omit [Resources R] in
private theorem calls_report_nothing (id : String) (calls : List (DriverCall R)) :
    ∀ event ∈ calls.map Event.called, report id event = none := by
  intro event member
  obtain ⟨call, _, rfl⟩ := List.mem_map.mp member
  rfl

/-! ### Idle records -/

/-- An input other than an update makes no report and leaves no further record of
a core service idle. -/
private theorem idle_step_quiet (idle : IdleReportedOver trace s)
    (quiet : ∀ now status, input ≠ .statusUpdate now status)
    (silent : ∀ id, ∀ event ∈ (inputStep config s input).out, report id event = none)
    (stepped : (inputStep config s input).next = some s') :
    IdleReportedOver (trace ++ (inputStep config s input).out) s' := by
  intro hostname kind isCore resting
  have before : (s.record hostname kind).state = .notRunning := by
    have step := record_step stepped hostname kind
    generalize s'.record hostname kind = after at step resting
    cases step with
    | kept state => rw [← state, resting]
    | launched noted here known idle => exact idle
    | proberStarted isProber =>
      rw [isProber] at isCore
      cases isCore
    | seen | terminated => exact absurd rfl (quiet _ _)
  obtain ⟨plain, ended⟩ := idle hostname kind isCore before
  exact ⟨plain, over_append_silent (silent _) ended⟩

omit [Resources R] in
/-- An update of the service itself that leaves its record idle reported the task
as over, or is no report at all. -/
private theorem idle_own_update (now : Int) (inv : RecordInv s) (idle : IdleReportedOver trace s)
    (met : NoIdleKill (R := R) s (.statusUpdate now status)) (isCore : kind.core = true)
    (target : statusTarget status.taskId = some (kind, hostname))
    (resting : ((statusUpdate (R := R) s now status).1.record hostname kind).state = .notRunning) :
    ReportedOver status.taskId
      (trace ++ .delivered status :: (statusUpdate (R := R) s now status).2.map .called) := by
  have quiet := calls_report_nothing status.taskId (statusUpdate (R := R) s now status).2
  by_cases terminal : isTerminal status.state = true
  · exact over_of_terminal terminal quiet
  have own := ServiceKind.clusterWide_of_core isCore
  rw [record_statusUpdate target, recordAfter, own_update_accepted inv target own] at resting
  by_cases running : status.state = .running
  · cases runs : s.shouldRun hostname kind status with
    | true => simp [running, runs, recordSeen] at resting
    | false =>
      -- the task is killed, which the condition rules out for an idle record
      simp only [running, true_or, if_true, runs, Bool.false_and, Bool.false_eq_true,
        if_false] at resting
      have present := met running kind hostname isCore target resting
      simp [Scheduler.shouldRun, own, present] at runs
  · have unfinished : status.state ≠ .finished := by
      intro finished
      rw [finished] at terminal
      exact terminal rfl
    have before : (s.record hostname kind).state = .notRunning := by
      simpa [running, unfinished, terminal] using resting
    have ended := (idle hostname kind isCore before).2
    rw [← (target_iff.mp target).1] at ended
    refine over_append_silent ?_ ended
    intro event member
    rcases List.mem_cons.mp member with rfl | called
    · simp [report, running, terminal]
    · exact quiet event called

/-- An update of anything else leaves the record and says nothing of its task. -/
private theorem idle_foreign_update (config : Config R) (now : Int) (idle : IdleReportedOver trace s)
    (isCore : kind.core = true) (foreign : statusTarget status.taskId ≠ some (kind, hostname))
    (resting : ((statusUpdate (R := R) s now status).1.record hostname kind).state = .notRunning) :
    '-' ∉ hostname.toList ∧ ReportedOver (taskId kind hostname)
      (trace ++ .delivered status :: (statusUpdate (R := R) s now status).2.map .called) := by
  have stepped : (inputStep config s (.statusUpdate now status)).next =
    some (statusUpdate (R := R) s now status).1 := rfl
  have before : (s.record hostname kind).state = .notRunning := by
    have step := record_step stepped hostname kind
    generalize (statusUpdate (R := R) s now status).1.record hostname kind = after at step resting
    cases step with
    | kept state => rw [← state, resting]
    | @seen _ _ host _ found here | @terminated _ _ host _ found here =>
      rcases here with shared | rfl
      · rw [ServiceKind.clusterWide_of_core isCore] at shared
        cases shared
      · exact absurd found foreign
  obtain ⟨plain, ended⟩ := idle hostname kind isCore before
  refine ⟨plain, over_append_silent ?_ ended⟩
  intro event member
  rcases List.mem_cons.mp member with rfl | called
  · have other : status.taskId ≠ taskId kind hostname := fun same =>
      foreign (target_iff.mpr ⟨same, plain⟩)
    simp [report, other]
  · exact calls_report_nothing _ _ event called

/-- Every input that meets the condition keeps the meaning of idle records. -/
private theorem idle_step (inv : RecordInv s) (idle : IdleReportedOver trace s)
    (met : NoIdleKill s input) (stepped : (inputStep config s input).next = some s') :
    IdleReportedOver (trace ++ (inputStep config s input).out) s' := by
  cases input with
  | statusUpdate now status =>
    cases stepped
    intro hostname kind isCore resting
    by_cases target : statusTarget status.taskId = some (kind, hostname)
    · obtain ⟨id, plain⟩ := target_iff.mp target
      rw [← id]
      exact ⟨plain, idle_own_update now inv idle met isCore target resting⟩
    · exact idle_foreign_update config now idle isCore target resting
  | offer now offer =>
    refine idle_step_quiet idle (fun _ _ same => by cases same) ?_ stepped
    obtain ⟨calls, _, out⟩ := offer_step stepped
    rw [out]
    exact fun id => calls_report_nothing id calls
  | registered | reregistered =>
    exact idle_step_quiet idle (fun _ _ same => by cases same)
      (fun id => calls_report_nothing id _) stepped
  | frameworkMessage | postVersion =>
    exact idle_step_quiet idle (fun _ _ same => by cases same)
      (fun _ _ member => by cases member) stepped

omit [Resources R] in
private theorem idle_fresh (state : SchedulerState) :
    IdleReportedOver ([] : List (Event R)) (Scheduler.fresh state) := by
  intro hostname kind isCore resting
  cases kind <;> cases isCore <;> cases resting

/-! ### Launches -/

/-- In every run in which no running core task is answered with a kill while its
record is idle, a core service is launched only when its task has been reported
and was last reported as over. -/
theorem launched_reported_over (config : Config R) (state : SchedulerState)
    (met : Throughout (fun _ => NoIdleKill) (inputStep config) (Scheduler.fresh state)
      (callbacks.flatMap Callback.inputs))
    (split : (run (callbackStep config) (Scheduler.fresh state) callbacks).out = pre ++ event :: post)
    (isCore : kind.core = true) (started : Starts kind hostname event) :
    ReportedOver (taskId kind hostname) pre := by
  rw [callback_runs] at split
  have keeps : ∀ (_ : List (Input R)) out s input s', (RecordInv s ∧ IdleReportedOver out s) →
      NoIdleKill s input → (inputStep config s input).next = some s' →
      RecordInv s' ∧ IdleReportedOver (out ++ (inputStep config s input).out) s' :=
    fun _ _ _ _ _ held met stepped =>
      ⟨record_inv_step held.1 stepped, idle_step held.1 held.2 met stepped⟩
  obtain ⟨_, input, s, out, head, tail, held, _, emitted, rfl⟩ := emitted_within
    (fun _ out s => RecordInv s ∧ IdleReportedOver out s) keeps
    ⟨record_inv_fresh state, idle_fresh state⟩ met split
  obtain ⟨nothing, _, _, now, offer, _, _, rfl, launches⟩ := launched_alone started emitted
  rw [nothing, List.append_nil]
  cases launches with
  | prober => cases isCore
  | service other due ran listed idle => exact (held.2 _ kind isCore idle).2

/-! ### A registry launched again -/

/-- A sufficient check of the condition: no update is about a missing device. -/
def devicePresent (s : Scheduler) : Input R → Bool
  | .statusUpdate _ status =>
    (statusTarget status.taskId).all fun target => !s.lacksDevice target.2 target.1
  | .offer .. | .frameworkMessage .. | .registered _ | .reregistered | .postVersion _ => true

omit [Resources R] in
private theorem no_idle_kill_of_present (present : devicePresent s input = true) :
    NoIdleKill s input := by
  cases input with
  | statusUpdate now status =>
    intro _ kind hostname _ target _
    simpa [devicePresent, target] using present
  | offer | frameworkMessage | registered | reregistered | postVersion => trivial

omit [Resources R] in
private theorem last_starts (trace : List (Event R)) (n : ℕ)
    (launched : (trace.drop n).map Event.launched = [["quobyte-registry-h1"]]) :
    ∃ event, trace = trace.take n ++ event :: [] ∧ Starts .registry "h1" event := by
  obtain ⟨event, last, ids⟩ := List.map_eq_singleton_iff.mp launched
  refine ⟨event, ?_, ?_⟩
  · rw [← last]
    exact (List.take_append_drop n trace).symm
  · rw [Starts, ids]
    decide

/-- The registry is launched, runs and fails; the next offer launches it again. -/
def registryFails : List (Callback TextResources) :=
  registryOnce ++
    [.statusUpdate 3 { taskId := "quobyte-registry-h1", state := .running },
      .statusUpdate 4 { taskId := "quobyte-registry-h1", state := .failed },
      .resourceOffers [(5, wideOffer "o3" "h1")]]

/-- Each launch finds the registry reported lost or failed. -/
theorem failed_registry_over : ∃ pre event post,
    (run (callbackStep defaultConfig) (Scheduler.fresh { targetVersion := "1" })
      registryFails).out = pre ++ event :: post ∧
    lastReport "quobyte-registry-h1" pre = some .failed ∧
    Starts .registry "h1" event ∧ ReportedOver "quobyte-registry-h1" pre := by
  have checked : throughoutCheck (fun _ => devicePresent) (inputStep defaultConfig) []
      (Scheduler.fresh { targetVersion := "1" }) (registryFails.flatMap Callback.inputs) = true := by
    decide +kernel
  have implies : ∀ (_ : List (Input TextResources)) s (input : Input TextResources),
      devicePresent s input = true → NoIdleKill s input := fun _ _ _ => no_idle_kill_of_present
  have met := throughout_of_check _ implies checked
  obtain ⟨event, split, started⟩ := last_starts (run (callbackStep defaultConfig)
    (Scheduler.fresh { targetVersion := "1" }) registryFails).out 6 (by decide +kernel)
  exact ⟨_, event, [], split, by decide +kernel, started,
    launched_reported_over defaultConfig _ met split rfl started⟩

/-- The device of a launched registry disappears from the probes, the registry
reports running and is told to stop, and the device appears again. -/
def registryKilled : List (Callback TextResources) :=
  [.resourceOffers [(1, wideOffer "o1" "h1")],
    .statusUpdate 1 { taskId := "quobyte-registry-h1", state := .lost },
    .frameworkMessage 1 "agent-h1" (some {}),
    .statusUpdate 2 { taskId := "quobyte-registry-h1", state := .running },
    .frameworkMessage 3 "agent-h1" (some { deviceType := [.registry] }),
    .resourceOffers [(4, wideOffer "o2" "h1")]]

/-- The registry is launched though it was last reported running. -/
theorem running_registry_launched : ∃ pre event post,
    (run (callbackStep defaultConfig) (Scheduler.fresh { targetVersion := "1" })
      registryKilled).out = pre ++ event :: post ∧
    Starts .registry "h1" event ∧ ¬ ReportedOver "quobyte-registry-h1" pre := by
  obtain ⟨event, split, started⟩ := last_starts (run (callbackStep defaultConfig)
    (Scheduler.fresh { targetVersion := "1" }) registryKilled).out 5 (by decide +kernel)
  have reported : lastReport "quobyte-registry-h1" ((run (callbackStep defaultConfig)
      (Scheduler.fresh { targetVersion := "1" }) registryKilled).out.take 5) = some .running := by
    decide +kernel
  refine ⟨_, event, [], split, started, ?_⟩
  rintro ⟨state, last, terminal⟩
  rw [reported] at last
  cases last
  cases terminal

end QuobyteMesos.KnownDead
