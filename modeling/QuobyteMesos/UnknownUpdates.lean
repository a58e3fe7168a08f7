import QuobyteMesos.SchedulerSteps

/-! Status updates of tasks that are none of the framework's.

An id without a dash is dropped at once. With one, the host is looked up before the
service, and an entry is made for whatever follows the last dash; only then is the
service found to be unknown. Such an update leaves no trace exactly if there was an
entry already, and a run whose foreign updates all meet that is the run without
them. -/
namespace QuobyteMesos.UnknownUpdates
open Mesos Machine SchedulerRuns SchedulerSteps

variable {R : Type} {s : Scheduler} {now : Int} {status : TaskStatus}

/-- The id has no dash, or none of the eight services stands before the last. -/
def Foreign (status : TaskStatus) : Prop :=
  ∀ service hostname, splitTaskId status.taskId = some (service, hostname) →
    ∀ kind : ServiceKind, service ≠ kind.taskName

/-- What follows the last dash of the id, if there is one, has an entry. -/
def HostKnown (s : Scheduler) (status : TaskStatus) : Prop :=
  ∀ service hostname, splitTaskId status.taskId = some (service, hostname) → hostname ∈ s.nodes

/-- A call into the scheduler that delivers an update of an unknown task. -/
def deliversForeign : Callback R → Bool
  | .statusUpdate _ status => (statusTarget status.taskId).isNone
  | .resourceOffers _ | .frameworkMessage .. | .registered _ | .reregistered | .postVersion _ => false

/-- The driver calls among the events. -/
def driverCall : Event R → Option (DriverCall R)
  | .called call => some call
  | .delivered _ => none

theorem foreign_iff : Foreign status ↔ statusTarget status.taskId = none := by
  unfold Foreign statusTarget
  cases split : splitTaskId status.taskId with
  | none => simp
  | some parts =>
    obtain ⟨service, hostname⟩ := parts
    simp only [Option.some.injEq, Prod.mk.injEq, Option.bind_some, Option.map_eq_none_iff]
    constructor
    · intro foreign
      by_contra named
      obtain ⟨kind, found⟩ := Option.ne_none_iff_exists'.mp named
      exact foreign service hostname ⟨rfl, rfl⟩ kind (getService_eq_some_iff.mp found)
    · rintro unnamed _ _ ⟨rfl, rfl⟩ kind rfl
      rw [getService_eq_some_iff.mpr rfl] at unnamed
      cases unnamed

private theorem createHost_eq_iff {hostname slaveId : String} :
    s.createHost hostname slaveId = s ↔ hostname ∈ s.nodes := by
  constructor
  · intro same
    rw [← same]
    simp [Scheduler.createHost]
  · exact fun known => createHost_known known slaveId

/-- A foreign update makes no call, and leaves the scheduler as it was exactly if what
follows the last dash of its id is known. -/
theorem foreign_update (s : Scheduler) (now : Int) (foreign : Foreign status) :
    (statusUpdate (R := R) s now status).2 = [] ∧
      ((statusUpdate (R := R) s now status).1 = s ↔ HostKnown s status) := by
  cases split : splitTaskId status.taskId with
  | none =>
    have dropped : statusUpdate (R := R) s now status = (s, []) := by
      simp only [statusUpdate, split]
    rw [dropped]
    exact ⟨rfl, iff_of_true rfl fun service hostname found => by rw [split] at found; cases found⟩
  | some parts =>
    obtain ⟨service, hostname⟩ := parts
    have unnamed : getService service = none := by
      have untargeted := foreign_iff.mp foreign
      simpa [statusTarget, split] using untargeted
    rw [statusUpdate_unnamed s now split unnamed]
    refine ⟨rfl, createHost_eq_iff.trans ?_⟩
    simp [HostKnown, split]

variable [Resources R]

/-- The condition on a call into the scheduler. -/
def Traceless (s : Scheduler) (callback : Callback R) : Prop :=
  ∀ now status, callback = .statusUpdate now status → Foreign status → HostKnown s status

/-- A foreign update is answered by no call, and leaves every entry and record as it
was if and only if its id has no dash or an entry is there for what follows the last
one. A run in which that holds of every foreign update ends in the same state and
makes the same calls as the run without these updates. -/
theorem foreign_updates_traceless (config : Config R) :
    (∀ s now status, Foreign status →
      (statusUpdate (R := R) s now status).2 = [] ∧
        ((statusUpdate (R := R) s now status).1 = s ↔ HostKnown s status)) ∧
    ∀ s callbacks, Along Traceless (callbackStep config) s callbacks →
      (run (callbackStep config) s (callbacks.filter fun callback => !deliversForeign callback)).next =
          (run (callbackStep config) s callbacks).next ∧
        (run (callbackStep config) s
          (callbacks.filter fun callback => !deliversForeign callback)).out.filterMap driverCall =
            (run (callbackStep config) s callbacks).out.filterMap driverCall := by
  refine ⟨fun s now status => foreign_update s now, fun s callbacks all => ?_⟩
  refine run_filter deliversForeign driverCall ?_ all
  intro s callback idle traceless
  cases callback with
  | statusUpdate now status =>
    have foreign : Foreign status := foreign_iff.mpr (Option.isNone_iff_eq_none.mp idle)
    obtain ⟨silent, unchanged⟩ := foreign_update (R := R) s now foreign
    have same := unchanged.mpr (traceless now status rfl foreign)
    refine ⟨congrArg some same, ?_⟩
    simp only [callbackStep, inputStep, silent]
    rfl
  | resourceOffers | frameworkMessage | registered | reregistered | postVersion => cases idle

/-! ### An update of somebody else's task -/

/-- The update is about a task of another framework that runs on an offered host. -/
def otherTaskSeen : List (Callback TextResources) :=
  [.resourceOffers [(1, wideOffer "o1" "h1")],
    .statusUpdate 2 { taskId := "other-h1", state := .running }]

/-- A sufficient check of the condition. -/
def hostEntered (s : Scheduler) : Callback R → Bool
  | .statusUpdate _ status => (splitTaskId status.taskId).all fun parts => s.nodes.contains parts.2
  | .resourceOffers _ | .frameworkMessage .. | .registered _ | .reregistered | .postVersion _ => true

omit [Resources R] in
private theorem traceless_of_entered {callback : Callback R} (entered : hostEntered s callback = true) :
    Traceless s callback := by
  rintro now status rfl _ service hostname split
  simpa [hostEntered, split] using entered

/-- It leaves no trace, as its host has been offered. -/
theorem other_task_traceless :
    (run (callbackStep defaultConfig) (Scheduler.fresh {}) otherTaskSeen).next =
      (run (callbackStep defaultConfig) (Scheduler.fresh {}) (otherTaskSeen.take 1)).next := by
  have checked : alongCheck hostEntered (callbackStep defaultConfig) (Scheduler.fresh {})
      otherTaskSeen = true := by decide +kernel
  have traceless : Along Traceless (callbackStep defaultConfig) (Scheduler.fresh {}) otherTaskSeen :=
    along_of_check hostEntered (fun _ _ => traceless_of_entered) checked
  have erased : otherTaskSeen.filter (fun callback => !deliversForeign callback) =
      otherTaskSeen.take 1 := rfl
  have left := ((foreign_updates_traceless defaultConfig).2 _ _ traceless).1
  rw [erased] at left
  exact left.symm

/-- The master's answer about the registry of a host whose name has a dash. -/
def dashedRegistryLost : TaskStatus :=
  { taskId := "quobyte-registry-agent-1", state := .lost, slaveId := "S1" }

/-- The answer leaves an entry for a host of the name "1", and the first offer of a
host of that name is not reconciled any more. -/
theorem dashed_host_leaves_entry :
    Foreign dashedRegistryLost ∧ ¬ HostKnown (Scheduler.fresh {}) dashedRegistryLost ∧
    (statusUpdate (R := TextResources) (Scheduler.fresh {}) 1 dashedRegistryLost).1.nodes["1"]? =
      some (Scheduler.newNode "1" "S1") ∧
    (statusUpdate (R := TextResources) (Scheduler.fresh {}) 1 dashedRegistryLost).1 ≠
      Scheduler.fresh {} ∧
    reconciles defaultConfig (Scheduler.fresh {}) 2 (wideOffer "o1" "1") = true ∧
    reconciles defaultConfig
      (statusUpdate (R := TextResources) (Scheduler.fresh {}) 1 dashedRegistryLost).1 2
      (wideOffer "o1" "1") = false := by
  have foreign : Foreign dashedRegistryLost := foreign_iff.mpr (by decide +kernel)
  have split : splitTaskId dashedRegistryLost.taskId = some ("quobyte-registry-agent", "1") := by
    decide +kernel
  have unknown : ¬ HostKnown (Scheduler.fresh {}) dashedRegistryLost := by
    intro known
    have present := known _ _ split
    simp [Scheduler.fresh] at present
  refine ⟨foreign, unknown, by decide +kernel, ?_, by decide +kernel, by decide +kernel⟩
  exact mt (foreign_update _ 1 foreign).2.mp unknown

end QuobyteMesos.UnknownUpdates
