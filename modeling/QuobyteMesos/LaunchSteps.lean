import QuobyteMesos.Scheduler
import Mathlib.Logic.Relation

/-! What the launch branch of `resourceOffers` can do, said once.

`StartStep` is one change of the branch's locals: a launch that is recorded, a
launch of a core service, which is not, or a message about missing resources.
`start_services_steps` reads every successful run of the branch as a sequence
of such steps, and `Progress` collects what any sequence of them leaves true
about the records and the task list. -/
namespace QuobyteMesos.LaunchSteps
open Mesos Relation

variable {R : Type} [Resources R] {config : Config R} {targetVersion : String} {offer : Offer R}
variable {start round round' : LaunchRound R}

theorem except_bind_ok {ε α β : Type} {first : Except ε α} {rest : α → Except ε β} {result : β}
    (ran : first.bind rest = .ok result) : ∃ middle, first = .ok middle ∧ rest middle = .ok result := by
  cases first with
  | error e => cases ran
  | ok middle => exact ⟨middle, rfl, ran⟩

theorem except_map_ok {ε α β : Type} {first : Except ε α} {f : α → β} {result : β}
    (ran : first.map f = .ok result) : ∃ middle, first = .ok middle ∧ f middle = result := by
  cases first with
  | error e => cases ran
  | ok middle => exact ⟨middle, rfl, Except.ok.inj ran⟩

theorem except_any_ok {ε α : Type} {result : Except ε α} {p : α → Bool}
    (found : result.toOption.any p = true) : ∃ value, result = .ok value ∧ p value = true := by
  cases result with
  | error e => cases found
  | ok value => exact ⟨value, rfl, found⟩

/-- A service is started only on a probed node and only when it is recorded as
not running. -/
theorem starts_when_not_running {kind : ServiceKind} {node : NodeState}
    {state : ServiceState.TaskState} (starts : doStartService kind node state = true) :
    node.deviceTypesValid = true ∧ state = .notRunning := by
  unfold doStartService at starts
  cases valid : node.deviceTypesValid with
  | false => simp [valid] at starts
  | true =>
    rw [valid] at starts
    cases state <;> simp [shouldServiceBeStarted] at starts ⊢

/-- The core service a device asks for. -/
def requiredBy : DeviceType → Option ServiceKind
  | .registry => some .registry
  | .metadata => some .metadata
  | .data => some .data
  | .bootstrap | .client | .other _ => none

theorem core_of_required {device : DeviceType} {kind : ServiceKind}
    (required : requiredBy device = some kind) : kind.core = true := by
  cases device <;> cases required <;> rfl

/-- A task built for a service on the offering host. The client's carries no
resources. -/
structure TaskFor (config : Config R) (offer : Offer R) (kind : ServiceKind) (task : TaskInfo R) :
    Prop where
  id : task.taskId = taskId kind offer.hostname
  agent : task.slaveId = offer.slaveId
  resources : task.resources = if kind = .client then Resources.empty else config.resources kind

/-- One change the launch branch makes. -/
inductive StartStep (config : Config R) (offer : Offer R) :
    LaunchRound R → LaunchRound R → Prop where
  | recorded {round : LaunchRound R} {kind : ServiceKind} {task : TaskInfo R}
      (noted : kind.clusterWide = true ∨ kind = .client)
      (fits : Resources.contains round.remainingResources (config.resources kind) = true)
      (starts : doStartService kind round.records.node (round.records.service kind).state = true)
      (mounted : kind = .client → round.records.node.clientMountPoint = true)
      (built : TaskFor config offer kind task) :
      StartStep config offer round
        ((round.addTask task (config.resources kind)).recordRunning kind (taskId kind offer.hostname))
  | core {round : LaunchRound R} {kind : ServiceKind} {device : DeviceType} {task : TaskInfo R}
      (listed : device ∈ round.records.node.deviceType) (required : requiredBy device = some kind)
      (fits : Resources.contains round.remainingResources (config.resources kind) = true)
      (starts : doStartService kind round.records.node (round.records.service kind).state = true)
      (built : TaskFor config offer kind task) :
      StartStep config offer round (round.addTask task (config.resources kind))
  | shortage {round : LaunchRound R} {kind : ServiceKind} (message : String)
      (core : kind.core = true) :
      StartStep config offer round { round with
        records := round.records.setService kind
          { round.records.service kind with lastMessage := message } }

/-! ### Every run of the branch is made of such steps -/

private theorem start_cluster_service_steps {kind : ServiceKind} {rpcPort httpPort : UInt16}
    (shared : kind.clusterWide = true)
    (ran : startClusterService config targetVersion offer kind rpcPort httpPort round = .ok round') :
    ReflTransGen (StartStep config offer) round round' := by
  unfold startClusterService at ran
  split at ran
  · rename_i guard
    simp only [Bool.and_eq_true] at guard
    obtain ⟨task, built, rfl⟩ := except_map_ok ran
    obtain ⟨id, agent, resources⟩ := makeTask_fields built
    refine ReflTransGen.single (.recorded (.inl shared) guard.1.1 guard.1.2 ?_ ⟨id, agent, ?_⟩)
    · rintro rfl
      cases shared
    · rw [resources, if_neg]
      rintro rfl
      cases shared
  · cases ran
    exact .refl

private theorem start_s3_steps (ran : startS3 config targetVersion offer round = .ok round') :
    ReflTransGen (StartStep config offer) round round' := by
  unfold startS3 at ran
  split at ran
  · cases ran
    exact .refl
  · exact start_cluster_service_steps rfl ran

private theorem start_client_steps (round : LaunchRound R) :
    ReflTransGen (StartStep config offer) round (startClient config offer round) := by
  unfold startClient
  split
  · rename_i guard
    simp only [Bool.and_eq_true] at guard
    exact ReflTransGen.single
      (.recorded (.inr rfl) guard.1.1 guard.1.2 (fun _ => guard.2) ⟨rfl, rfl, rfl⟩)
  · exact .refl

private theorem start_core_service_steps {kind : ServiceKind} {device : DeviceType}
    {rpcPort httpPort : UInt16} (listed : device ∈ round.records.node.deviceType)
    (required : requiredBy device = some kind)
    (ran : startCoreService config targetVersion offer kind rpcPort httpPort round = .ok round') :
    ReflTransGen (StartStep config offer) round round' := by
  have isCore := core_of_required required
  unfold startCoreService at ran
  split at ran
  · rename_i starts
    split at ran
    · rename_i fits
      obtain ⟨task, built, rfl⟩ := except_map_ok ran
      obtain ⟨id, agent, resources⟩ := makeTask_fields built
      refine ReflTransGen.single (.core listed required fits starts ⟨id, agent, ?_⟩)
      rw [resources, if_neg]
      rintro rfl
      cases isCore
    · cases ran
      exact ReflTransGen.single (.shortage _ isCore)
  · cases ran
    exact .refl

private theorem start_device_steps {device : DeviceType}
    (listed : device ∈ round.records.node.deviceType)
    (ran : startDevice config targetVersion offer device round = .ok round') :
    ReflTransGen (StartStep config offer) round round' := by
  cases device with
  | registry => exact start_core_service_steps listed rfl ran
  | metadata => exact start_core_service_steps listed rfl ran
  | data => exact start_core_service_steps listed rfl ran
  | bootstrap | client | other =>
    cases ran
    exact .refl

/-- No step changes the devices of the node. -/
theorem steps_keep_devices (steps : ReflTransGen (StartStep config offer) round round') :
    round'.records.node.deviceType = round.records.node.deviceType := by
  induction steps with
  | refl => rfl
  | tail _ step ih =>
    rw [← ih]
    cases step with
    | recorded => simp [LaunchRound.addTask, LaunchRound.recordRunning]
    | core => rfl
    | shortage => simp

private theorem start_devices_steps (devices : List DeviceType)
    (listed : ∀ device ∈ devices, device ∈ round.records.node.deviceType)
    (ran : startDevices config targetVersion offer devices round = .ok round') :
    ReflTransGen (StartStep config offer) round round' := by
  induction devices generalizing round with
  | nil =>
    cases ran
    exact .refl
  | cons device devices ih =>
    obtain ⟨middle, first, later⟩ := except_bind_ok ran
    have head := start_device_steps (listed device List.mem_cons_self) first
    refine head.trans (ih (fun other member => ?_) later)
    rw [steps_keep_devices head]
    exact listed other (List.mem_cons_of_mem _ member)

/-- The launch branch, run to its end, is a sequence of single steps. -/
theorem start_services_steps (ran : startServices config targetVersion offer round = .ok round') :
    ReflTransGen (StartStep config offer) round round' := by
  obtain ⟨afterApi, api, ran⟩ := except_bind_ok ran
  obtain ⟨afterS3, s3, ran⟩ := except_bind_ok ran
  obtain ⟨afterConsole, console, ran⟩ := except_bind_ok ran
  have client : ReflTransGen (StartStep config offer) afterConsole _ :=
    start_client_steps afterConsole
  have devices := start_devices_steps _ (fun _ member => by
    rw [steps_keep_devices client]
    exact member) ran
  exact (start_cluster_service_steps rfl api).trans <| (start_s3_steps s3).trans <|
    (start_cluster_service_steps rfl console).trans <| client.trans devices

/-! ### What the steps leave true -/

/-- A launch changes a record only from not running to running under the id of
the new task. -/
def RecordKept (offer : Offer R) (kind : ServiceKind) (before after : ServiceState)
    (tasks : List (TaskInfo R)) : Prop :=
  (after.state = before.state ∧ after.taskId = before.taskId) ∨
    ((kind.clusterWide = true ∨ kind = .client) ∧ before.state = .notRunning ∧
      after.state = .running ∧ after.taskId = taskId kind offer.hostname ∧
      taskId kind offer.hostname ∈ tasks.map TaskInfo.taskId)

/-- A task was started for a service that was not running on a probed node, and
a core task for a device of the node. -/
def Justified (config : Config R) (offer : Offer R) (records : Records) (task : TaskInfo R) : Prop :=
  ∃ kind, kind ≠ .prober ∧ TaskFor config offer kind task ∧
    (records.service kind).state = .notRunning ∧ records.node.deviceTypesValid = true ∧
    (kind.core = true → ∃ device ∈ records.node.deviceType, requiredBy device = some kind)

/-- What a sequence of launch steps leaves true: outside the four service
records the node is untouched, every record is kept or names a new task, every
new task is justified by the records at the start, and a task of a recorded
service is named by its record. -/
structure Progress (config : Config R) (offer : Offer R) (start round : LaunchRound R) : Prop where
  node : round.records.node = { start.records.node with
    registry := round.records.node.registry
    metadata := round.records.node.metadata
    data := round.records.node.data
    client := round.records.node.client }
  records : ∀ kind, RecordKept offer kind (start.records.service kind)
    (round.records.service kind) round.tasksToStart
  tasks : ∀ task ∈ round.tasksToStart,
    task ∈ start.tasksToStart ∨ Justified config offer start.records task
  named : ∀ kind, kind.clusterWide = true ∨ kind = .client →
    taskId kind offer.hostname ∈ round.tasksToStart.map TaskInfo.taskId →
    taskId kind offer.hostname ∈ start.tasksToStart.map TaskInfo.taskId ∨
      (round.records.service kind).state = .running ∧
        (round.records.service kind).taskId = taskId kind offer.hostname

omit [Resources R] in
private theorem kept_append {kind : ServiceKind} {before after : ServiceState}
    {tasks : List (TaskInfo R)} (task : TaskInfo R) (kept : RecordKept offer kind before after tasks) :
    RecordKept offer kind before after (tasks ++ [task]) := by
  rcases kept with same | ⟨noted, idle, running, id, listed⟩
  · exact .inl same
  · refine .inr ⟨noted, idle, running, id, ?_⟩
    rw [List.map_append]
    exact List.mem_append_left _ listed

omit [Resources R] in
private theorem kept_idle {kind : ServiceKind} {before after : ServiceState}
    {tasks : List (TaskInfo R)} (kept : RecordKept offer kind before after tasks)
    (idle : after.state = .notRunning) : before.state = .notRunning := by
  rcases kept with ⟨state, _⟩ | ⟨_, before, _⟩
  · rw [← state, idle]
  · exact before

private theorem justified_append {kind : ServiceKind} {task : TaskInfo R}
    (progress : Progress config offer start round) (service : kind ≠ .prober)
    (starts : doStartService kind round.records.node (round.records.service kind).state = true)
    (built : TaskFor config offer kind task)
    (device : kind.core = true →
      ∃ device ∈ round.records.node.deviceType, requiredBy device = some kind) :
    ∀ other ∈ round.tasksToStart ++ [task],
      other ∈ start.tasksToStart ∨ Justified config offer start.records other := by
  intro other member
  rcases List.mem_append.mp member with earlier | last
  · exact progress.tasks other earlier
  · obtain ⟨valid, idle⟩ := starts_when_not_running starts
    have node := progress.node
    rw [List.mem_singleton.mp last]
    rw [node] at valid device
    exact .inr ⟨kind, service, built, kept_idle (progress.records kind) idle, valid, device⟩

private theorem listed_before {kind other : ServiceKind} {task : TaskInfo R}
    {tasks : List (TaskInfo R)} (built : TaskFor config offer kind task) (different : other ≠ kind)
    (listed : taskId other offer.hostname ∈ (tasks ++ [task]).map TaskInfo.taskId) :
    taskId other offer.hostname ∈ tasks.map TaskInfo.taskId := by
  rw [List.map_append] at listed
  rcases List.mem_append.mp listed with earlier | last
  · exact earlier
  · have same : taskId other offer.hostname = task.taskId := by simpa using last
    rw [built.id] at same
    exact absurd (taskId_injective same).1 different

private theorem progress_recorded {kind : ServiceKind} {task : TaskInfo R}
    (progress : Progress config offer start round)
    (noted : kind.clusterWide = true ∨ kind = .client)
    (starts : doStartService kind round.records.node (round.records.service kind).state = true)
    (built : TaskFor config offer kind task) :
    Progress config offer start ((round.addTask task (config.resources kind)).recordRunning kind
      (taskId kind offer.hostname)) := by
  have outside : kind ≠ .prober ∧ kind.core = false := by
    rcases noted with shared | rfl
    · cases kind <;> cases shared <;> decide
    · decide
  constructor
  · rcases noted with shared | rfl
    · cases kind <;> cases shared <;> exact progress.node
    · have node := progress.node
      simp only [LaunchRound.addTask, LaunchRound.recordRunning, Records.setService]
      rw [node]
  · intro other
    by_cases same : other = kind
    · subst other
      have idle := kept_idle (progress.records kind) (starts_when_not_running starts).2
      refine .inr ⟨noted, idle, ?_⟩
      simp [LaunchRound.recordRunning, LaunchRound.addTask, built.id]
    · simpa [LaunchRound.recordRunning, LaunchRound.addTask, same] using
        kept_append task (progress.records other)
  · exact justified_append progress outside.1 starts built
      (fun isCore => by rw [outside.2] at isCore; cases isCore)
  · intro other noted listed
    by_cases same : other = kind
    · subst other
      right
      simp [LaunchRound.recordRunning, LaunchRound.addTask]
    · simpa [LaunchRound.recordRunning, LaunchRound.addTask, same] using
        progress.named other noted (listed_before built same listed)

omit [Resources R] in
/-- The services whose launch is recorded are none of the core services. -/
private theorem noted_ne_core {kind other : ServiceKind} (isCore : kind.core = true)
    (noted : other.clusterWide = true ∨ other = .client) : other ≠ kind := by
  rintro rfl
  rcases noted with shared | rfl
  · rw [ServiceKind.clusterWide_of_core isCore] at shared
    cases shared
  · cases isCore

private theorem progress_core {kind : ServiceKind} {device : DeviceType} {task : TaskInfo R}
    (progress : Progress config offer start round)
    (listed : device ∈ round.records.node.deviceType) (required : requiredBy device = some kind)
    (starts : doStartService kind round.records.node (round.records.service kind).state = true)
    (built : TaskFor config offer kind task) :
    Progress config offer start (round.addTask task (config.resources kind)) := by
  have isCore := core_of_required required
  constructor
  · exact progress.node
  · intro other
    exact kept_append task (progress.records other)
  · refine justified_append progress ?_ starts built (fun _ => ⟨device, listed, required⟩)
    rintro rfl
    cases isCore
  · intro other noted listed
    exact progress.named other noted (listed_before built (noted_ne_core isCore noted) listed)

private theorem progress_shortage {kind : ServiceKind} (message : String)
    (progress : Progress config offer start round) (isCore : kind.core = true) :
    Progress config offer start { round with
      records := round.records.setService kind
        { round.records.service kind with lastMessage := message } } := by
  constructor
  · have node := progress.node
    cases kind <;> cases isCore <;> simp only [Records.setService] <;> rw [node]
  · intro other
    by_cases same : other = kind
    · subst other
      simpa [RecordKept] using progress.records kind
    · simpa [same] using progress.records other
  · exact progress.tasks
  · intro other noted listed
    simpa [noted_ne_core isCore noted] using progress.named other noted listed

/-- One more step keeps what the earlier ones left true. -/
theorem progress_step (progress : Progress config offer start round)
    (step : StartStep config offer round round') : Progress config offer start round' := by
  cases step with
  | recorded noted _ starts _ built => exact progress_recorded progress noted starts built
  | core listed required _ starts built => exact progress_core progress listed required starts built
  | shortage message isCore => exact progress_shortage message progress isCore

theorem progress_steps (steps : ReflTransGen (StartStep config offer) start round) :
    Progress config offer start round := by
  induction steps with
  | refl =>
    exact ⟨rfl, fun _ => .inl ⟨rfl, rfl⟩, fun _ member => .inl member, fun _ _ listed => .inl listed⟩
  | tail _ step ih => exact progress_step ih step

end QuobyteMesos.LaunchSteps
