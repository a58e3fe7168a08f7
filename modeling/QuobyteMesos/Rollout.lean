import QuobyteMesos.LaunchExclusion
import QuobyteMesos.TaskSettings

/-! What the tasks of a run say about the version and the framework.

The scheduler keeps the version posted last and the framework id confirmed last
(`state_run`). The task of a service carries that version in its image, its label and
its discovery information (`launches_versioned`); the task of a prober starts an
executor named after that id, and the executor is later asked under the same name
(`executors_agree`). -/
namespace QuobyteMesos.Rollout
open Mesos Machine SchedulerRuns SchedulerSteps LaunchSteps RecordSteps LaunchExclusion TaskSettings

variable {R : Type}

/-- The version an input posts. -/
def posted : Input R → Option String
  | .postVersion version => some version
  | .offer .. | .statusUpdate .. | .frameworkMessage .. | .registered _ | .reregistered => none

/-- The framework id an input confirms. -/
def confirmed : Input R → Option String
  | .registered frameworkId => some frameworkId
  | .offer .. | .statusUpdate .. | .frameworkMessage .. | .reregistered | .postVersion _ => none

/-- What inputs make of the state that is stored. -/
def stateAfter (state : SchedulerState) (inputs : List (Input R)) : SchedulerState where
  frameworkIdValue := (inputs.filterMap confirmed).getLastD state.frameworkIdValue
  targetVersion := (inputs.filterMap posted).getLastD state.targetVersion

variable [Resources R] {config : Config R} {s s' : Scheduler} {input : Input R} {inputs : List (Input R)}
variable {callbacks : List (Callback R)} {kind : ServiceKind} {hostname : String} {task : TaskInfo R}
variable {now : Int} {offer : Offer R}

/-! ### The stored state -/

theorem state_step (stepped : (inputStep config s input).next = some s') :
    s'.state = stateAfter s.state [input] := by
  cases input with
  | offer now offer =>
    obtain ⟨calls, answered, _⟩ := offer_step stepped
    cases answered <;> rfl
  | statusUpdate now status =>
    cases stepped
    cases target : statusTarget status.taskId with
    | none =>
      rcases (statusUpdate_of_no_target (R := R) s now target).2 with same | ⟨_, added⟩
      · rw [same]
        rfl
      · rw [added]
        rfl
    | some found =>
      obtain ⟨node, _, ran⟩ := statusUpdate_of_target (R := R) s now target
      rw [ran]
      rfl
  | frameworkMessage now slaveId data =>
    cases stepped
    cases data <;> rfl
  | registered | reregistered | postVersion =>
    cases stepped
    rfl

/-- The scheduler keeps the version posted last and the id confirmed last. -/
theorem state_run (ran : (run (inputStep config) s inputs).next = some s') :
    s'.state = stateAfter s.state inputs := by
  refine run_fed (fun inputs after => after.state = stateAfter s.state inputs)
    (fun inputs middle input after before (_ : True) stepped => ?_) rfl (fun _ _ _ _ _ _ => trivial) ran
  rw [state_step stepped, before]
  cases posts : posted input <;> cases confirms : confirmed input <;>
    simp [stateAfter, posts, confirms]

/-! ### The version of a service -/

/-- The task runs the version, says so in its label, and is discovered under it. -/
structure Versioned (config : Config R) (kind : ServiceKind) (version : String) (task : TaskInfo R) :
    Prop where
  wanted : version ≠ ""
  image : task.container.map (·.docker.image) = some (config.flags.dockerImage ++ ":" ++ version)
  labels : task.labels = [⟨kDockerImageVersion, version⟩]
  discovery : task.discovery.map (fun info => (info.name, info.version, info.labels)) =
    some (kind.serviceId, version, [⟨kDockerImageVersion, version⟩])

private theorem made_versioned {version : String} (wanted : version ≠ "")
    (built : madeTask config version kind offer = .ok task) : Versioned config kind version task := by
  obtain ⟨text, _, rfl⟩ := except_map_ok built
  exact ⟨wanted, rfl, rfl, rfl⟩

private theorem handled_of_emitted {call : DriverCall R}
    (emitted : .called call ∈ (inputStep config s (.offer now offer)).out) :
    ∃ s' calls, handleOffer config s now offer = .ok (s', calls) ∧ call ∈ calls := by
  cases handled : handleOffer config s now offer with
  | error abort => simp [inputStep, offerOutcome, Outcome.mapOut, handled] at emitted
  | ok answer =>
    refine ⟨answer.1, answer.2, rfl, ?_⟩
    simpa [inputStep, offerOutcome, Outcome.mapOut, handled] using emitted

/-- A task that is launched for one of the six services carries the version there is. -/
theorem launched_versioned {id : String} {tasks : List (TaskInfo R)} {head tail : List (Event R)}
    (split : (inputStep config s input).out = head ++ .called (.launchTasks id tasks) :: tail)
    (member : task ∈ tasks) (named : task.taskId = taskId kind hostname) (made : byMakeTask kind = true) :
    head = [] ∧ ∃ now offer, input = .offer now offer ∧ offer.hostname = hostname ∧
      Versioned config kind s.state.targetVersion task := by
  have started : Starts kind hostname (.called (.launchTasks id tasks)) := by
    rw [Starts, ← named]
    exact List.mem_map_of_mem member
  obtain ⟨rfl, _, s', now, offer, stepped, rfl, here, launches⟩ := launched_alone started split
  refine ⟨rfl, now, offer, rfl, here, ?_⟩
  have launched : .called (.launchTasks id tasks) ∈ (inputStep config s (.offer now offer)).out := by
    simp [split]
  obtain ⟨s', calls, answered, call⟩ := handled_of_emitted launched
  have built := launched_made answered call member (named.trans (by rw [here])) made
  cases launches with
  | prober => cases made
  | service _ due => exact made_versioned due.wanted built

/-- Every task that is launched for one of the six services behind the versions posted
so far carries the last of them, and it is not empty. -/
theorem launches_versioned {id : String} {tasks : List (TaskInfo R)} {left right : List (Event R)}
    (split : (run (callbackStep config) s callbacks).out =
      left ++ .called (.launchTasks id tasks) :: right)
    (member : task ∈ tasks) (named : task.taskId = taskId kind hostname) (made : byMakeTask kind = true) :
    ∃ before now offer after,
      callbacks.flatMap Callback.inputs = before ++ .offer now offer :: after ∧
      left = (run (inputStep config) s before).out ∧ offer.hostname = hostname ∧
      Versioned config kind ((before.filterMap posted).getLastD s.state.targetVersion) task := by
  rw [callback_runs] at split
  obtain ⟨before, input, after, middle, pre, post, inputs, ran, emitted, rfl⟩ := emitted_at split
  obtain ⟨rfl, now, offer, rfl, here, versioned⟩ := launched_versioned emitted member named made
  rw [state_run ran] at versioned
  exact ⟨before, now, offer, after, inputs, by simp, here, versioned⟩

/-! ### The executor of a prober -/

private theorem prober_executor {calls : List (DriverCall R)} {id : String} {tasks : List (TaskInfo R)}
    (handled : handleOffer config s now offer = .ok (s', calls))
    (launched : .launchTasks id tasks ∈ calls) (member : task ∈ tasks)
    (named : task.taskId = taskId .prober hostname) :
    task.executor.map ExecutorInfo.executorId = some (kExecutorId ++ s.state.frameworkIdValue) := by
  unfold handleOffer at handled
  split at handled
  · cases handled
    cases List.mem_singleton.mp launched
  · split at handled
    · cases handled
      simp at launched
    · rename_i node known
      unfold handleKnownHost at handled
      split at handled
      · obtain ⟨built, created, same⟩ := except_map_ok handled
        obtain ⟨rfl, rfl⟩ := Prod.mk.inj same
        cases List.mem_singleton.mp launched
        rw [List.mem_singleton.mp member]
        unfold createProberTaskInfo at created
        split at created
        · cases created
        · cases created
          rfl
      · split at handled
        · cases handled
          simp at launched
        · split at handled
          · obtain ⟨round, ran, same⟩ := except_map_ok handled
            obtain ⟨rfl, rfl⟩ := Prod.mk.inj same
            split at launched
            · cases List.mem_singleton.mp launched
              rcases (progress_steps (start_services_steps ran)).tasks task member with
                earlier | ⟨kind, other, built, _⟩
              · cases earlier
              · exact absurd (taskId_injective (built.id.symm.trans named)).1 other
            · cases List.mem_singleton.mp launched
          · cases handled
            rcases List.mem_append.mp launched with killed | declined
            · obtain ⟨_, same⟩ := killServices_kills killed
              cases same
            · cases List.mem_singleton.mp declined

/-- A probe names the executor, and asks it to initialize nothing. -/
theorem probe_sent {executor agent : String} {request : ProbeRequest}
    (emitted : .called (.sendFrameworkMessage executor agent request) ∈
      (inputStep config s input).out) :
    executor = kExecutorId ++ s.state.frameworkIdValue ∧
      request = { clientDirectory := config.flags.clientMountPoint } := by
  cases input with
  | offer now offer =>
    obtain ⟨s', stepped⟩ := continues_of_emitted emitted
    obtain ⟨calls, answered, out⟩ := offer_step stepped
    rw [out] at emitted
    obtain ⟨call, made, same⟩ := List.mem_map.mp emitted
    obtain rfl := Event.called.inj same
    cases answered with
    | restricted => simp at made
    | discovered => simp [reconcileHost] at made
    | prober => simp at made
    | probe node known =>
      simp only [triggerProbe, reconcileHost, List.cons_append, List.nil_append, List.mem_cons,
        reduceCtorEq, List.not_mem_nil, or_false] at made
      obtain ⟨rfl, _, rfl⟩ := DriverCall.sendFrameworkMessage.inj made
      exact ⟨rfl, rfl⟩
    | launch => split at made <;> simp at made
    | shutdown =>
      rcases List.mem_append.mp made with killed | declined
      · obtain ⟨_, same⟩ := killServices_kills killed
        cases same
      · simp at declined
  | statusUpdate now status =>
    have made : .sendFrameworkMessage executor agent request ∈
        (QuobyteMesos.statusUpdate (R := R) s now status).2 := by simpa [inputStep] using emitted
    cases statusUpdate_kills made
  | frameworkMessage | postVersion => cases emitted
  | registered | reregistered =>
    simp [inputStep, QuobyteMesos.registered, QuobyteMesos.reregistered] at emitted

/-- As long as the master confirms the framework id, every prober starts an executor
of the same name, and every probe is sent to an executor of this name. -/
theorem executors_agree
    (confirms : ∀ id ∈ (callbacks.flatMap Callback.inputs).filterMap confirmed,
      id = s.state.frameworkIdValue) :
    (∀ id tasks, .called (.launchTasks id tasks) ∈ (run (callbackStep config) s callbacks).out →
      ∀ task ∈ tasks, ∀ hostname, task.taskId = taskId .prober hostname →
        task.executor.map ExecutorInfo.executorId = some (kExecutorId ++ s.state.frameworkIdValue)) ∧
    ∀ executor agent request,
      .called (.sendFrameworkMessage executor agent request) ∈ (run (callbackStep config) s callbacks).out →
        executor = kExecutorId ++ s.state.frameworkIdValue := by
  rw [callback_runs]
  -- wherever something is emitted, the scheduler still has the id
  have known {event : Event R} (emitted : event ∈
      (run (inputStep config) s (callbacks.flatMap Callback.inputs)).out) : ∃ middle input,
      middle.state.frameworkIdValue = s.state.frameworkIdValue ∧
        event ∈ (inputStep config middle input).out := by
    obtain ⟨left, right, split⟩ := List.append_of_mem emitted
    obtain ⟨before, input, after, middle, pre, post, inputs, ran, here, _⟩ := emitted_at split
    refine ⟨middle, input, ?_, by rw [here]; simp⟩
    rw [state_run ran, stateAfter, List.getLastD_eq_getLast?]
    cases last : (before.filterMap confirmed).getLast? with
    | none => rfl
    | some id =>
      rw [Option.getD_some]
      apply confirms
      rw [inputs, List.filterMap_append]
      exact List.mem_append_left _ (List.mem_of_getLast? last)
  constructor
  · intro id tasks emitted task member hostname named
    obtain ⟨middle, input, same, emitted⟩ := known emitted
    obtain ⟨s', stepped⟩ := continues_of_emitted emitted
    have started : taskId .prober hostname ∈ (DriverCall.launchTasks id tasks).launched := by
      rw [← named]
      exact List.mem_map_of_mem member
    obtain ⟨now, offer, _, rfl, _⟩ := launch_origin stepped emitted started
    obtain ⟨_, calls, handled, call⟩ := handled_of_emitted emitted
    rw [prober_executor handled call member named, same]
  · intro executor agent request emitted
    obtain ⟨middle, input, same, emitted⟩ := known emitted
    rw [(probe_sent emitted).1, same]

/-! ### A version posted between two offers -/

/-- The version changes while the api of the host is to be launched, and later the
prober is lost, launched and asked. -/
def versionChanged : List (Callback TextResources) :=
  [.registered "f1", .resourceOffers [(1, wideOffer "o1" "h1")],
    .statusUpdate 1 { taskId := "quobyte-api-h1", state := .lost },
    .frameworkMessage 1 "agent-h1" (some {}),
    .postVersion "2",
    .resourceOffers [(2, wideOffer "o2" "h1"), (70, wideOffer "o3" "h1")],
    .statusUpdate 71 { taskId := "quobyte-device-prober-h1", state := .finished },
    .resourceOffers [(200, wideOffer "o4" "h1")]]

private def startsTask (name : String) : Event TextResources → Bool
  | .called (.launchTasks _ tasks) => tasks.any fun task => task.taskId = name
  | .called _ | .delivered _ => false

private theorem task_of_starts {name : String} {event : Event TextResources}
    (starts : startsTask name event = true) : ∃ id tasks task,
      event = .called (.launchTasks id tasks) ∧ task ∈ tasks ∧ task.taskId = name := by
  cases event with
  | delivered => cases starts
  | called call =>
    cases call with
    | launchTasks id tasks =>
      obtain ⟨task, member, named⟩ := List.any_eq_true.mp starts
      exact ⟨id, tasks, task, rfl, member, of_decide_eq_true named⟩
    | declineOffer | killTask | reconcileTasks | sendFrameworkMessage => cases starts

private theorem launched_in (state : SchedulerState) (name : String)
    (starts : (run (callbackStep defaultConfig) (Scheduler.fresh state) versionChanged).out.any
      (startsTask name) = true) : ∃ id tasks task,
    .called (.launchTasks id tasks) ∈
      (run (callbackStep defaultConfig) (Scheduler.fresh state) versionChanged).out ∧
    task ∈ tasks ∧ task.taskId = name := by
  obtain ⟨event, emitted, started⟩ := List.any_eq_true.mp starts
  obtain ⟨id, tasks, task, rfl, member, named⟩ := task_of_starts started
  exact ⟨id, tasks, task, emitted, member, named⟩

/-- The api is launched behind the second version, and says what was posted last. -/
theorem changed_version_launched : ∃ before task,
    task.taskId = "quobyte-api-h1" ∧ before <+: versionChanged.flatMap Callback.inputs ∧
    Versioned defaultConfig .api ((before.filterMap posted).getLastD "1") task := by
  obtain ⟨id, tasks, task, emitted, member, named⟩ :=
    launched_in ⟨"f1", "1"⟩ "quobyte-api-h1" (by decide +kernel)
  obtain ⟨left, right, split⟩ := List.append_of_mem emitted
  obtain ⟨before, now, offer, after, inputs, _, _, versioned⟩ :=
    launches_versioned split member (named.trans (show _ = taskId .api "h1" from rfl)) rfl
  exact ⟨before, task, named, ⟨_, inputs.symm⟩, versioned⟩

private def probes : Event TextResources → Bool
  | .called (.sendFrameworkMessage ..) => true
  | .called _ | .delivered _ => false

private theorem probe_of_probes {event : Event TextResources} (asks : probes event = true) :
    ∃ executor agent request, event = .called (.sendFrameworkMessage executor agent request) := by
  cases event with
  | delivered => cases asks
  | called call =>
    cases call with
    | sendFrameworkMessage executor agent request => exact ⟨executor, agent, request, rfl⟩
    | launchTasks | declineOffer | killTask | reconcileTasks => cases asks

/-- The prober starts the executor that is asked later. -/
theorem launched_executor_asked : ∃ task : TaskInfo TextResources, ∃ executor agent request,
    task.taskId = "quobyte-device-prober-h1" ∧
    task.executor.map ExecutorInfo.executorId = some (kExecutorId ++ "f1") ∧
    .called (.sendFrameworkMessage executor agent request) ∈
      (run (callbackStep defaultConfig) (Scheduler.fresh ⟨"f1", "1"⟩) versionChanged).out ∧
    executor = kExecutorId ++ "f1" := by
  have confirms : ∀ id ∈ (versionChanged.flatMap Callback.inputs).filterMap confirmed,
      id = (Scheduler.fresh ⟨"f1", "1"⟩).state.frameworkIdValue := by
    simp [versionChanged, Callback.inputs, confirmed, Scheduler.fresh]
  obtain ⟨launches, asks⟩ := @executors_agree _ _ defaultConfig _ _ confirms
  obtain ⟨id, tasks, task, emitted, member, named⟩ :=
    launched_in ⟨"f1", "1"⟩ "quobyte-device-prober-h1" (by decide +kernel)
  have probed : (run (callbackStep defaultConfig) (Scheduler.fresh ⟨"f1", "1"⟩)
      versionChanged).out.any probes = true := by decide +kernel
  obtain ⟨event, sent, asked⟩ := List.any_eq_true.mp probed
  obtain ⟨executor, agent, request, rfl⟩ := probe_of_probes asked
  exact ⟨task, executor, agent, request, named,
    launches id tasks emitted task member "h1" (named.trans (show _ = taskId .prober "h1" from rfl)),
    sent, asks executor agent request sent⟩

end QuobyteMesos.Rollout
