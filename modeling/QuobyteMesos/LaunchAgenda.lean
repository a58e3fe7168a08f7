import QuobyteMesos.LaunchSteps
import QuobyteMesos.ResourceQueue
import QuobyteMesos.SchedulerSteps

/-! The launch branch as a list of wishes served from the offer.

The branch asks for the api, s3, the webconsole and the client, and then for one
core service per listed device. Whether a service is admitted can be read off
the records the branch starts from: a launch changes the record of its own
service alone, and that of a core service not at all. `start_services_serves`
makes the branch an instance of `serve`. -/
namespace QuobyteMesos.LaunchAgenda
open Mesos ResourcePool SchedulerSteps LaunchSteps

variable {R : Type} [Resources R] {config : Config R} {targetVersion : String} {offer : Offer R}
variable {round round' : LaunchRound R} {kind other : ServiceKind} {records : Records}
variable {kinds : List ServiceKind}

/-- The conditions of a branch beside the resources. -/
def admits (config : Config R) (records : Records) (kind : ServiceKind) (remaining : R) : Bool :=
  match kind with
  | .api | .webconsole =>
    doStartService kind records.node (records.service kind).state &&
      onPublicSlave config.flags remaining
  | .s3 =>
    config.flags.s3Hostname ≠ "" && doStartService .s3 records.node (records.service .s3).state &&
      onPublicSlave config.flags remaining
  | .client =>
    doStartService .client records.node records.node.client.state && records.node.clientMountPoint
  | .registry | .metadata | .data =>
    doStartService kind records.node (records.service kind).state
  | .prober => false

/-- The services asked for first, in the order of their branches. -/
def outerKinds : List ServiceKind := [.api, .s3, .webconsole, .client]

/-- The services the listed devices ask for. -/
def coreWishes (node : NodeState) : List ServiceKind := node.deviceType.filterMap requiredBy

omit [Resources R] in
theorem core_of_wished {node : NodeState} (wished : kind ∈ coreWishes node) : kind.core = true := by
  obtain ⟨device, _, required⟩ := List.mem_filterMap.mp wished
  exact core_of_required required

/-- One branch: the service is started if it is admitted and fits, and no other
service is admitted differently afterwards. -/
structure Attempt (config : Config R) (offer : Offer R) (kind : ServiceKind)
    (round round' : LaunchRound R) : Prop where
  outcome :
    if admits config round.records kind round.remainingResources &&
        Resources.contains round.remainingResources (config.resources kind) then
      ∃ task, TaskFor config offer kind task ∧
        round'.tasksToStart = round.tasksToStart ++ [task] ∧
        round'.remainingResources = Resources.sub round.remainingResources (config.resources kind)
    else
      round'.tasksToStart = round.tasksToStart ∧
        round'.remainingResources = round.remainingResources
  guards : ∀ other : ServiceKind, other ≠ kind ∨ kind.core = true →
    admits config round'.records other = admits config round.records other
  devices : round'.records.node.deviceType = round.records.node.deviceType

/-- Branches one after the other. -/
inductive Attempts (config : Config R) (offer : Offer R) :
    List ServiceKind → LaunchRound R → LaunchRound R → Prop where
  | nil (round : LaunchRound R) : Attempts config offer [] round round
  | cons {kind : ServiceKind} {kinds : List ServiceKind} {round middle round' : LaunchRound R}
      (first : Attempt config offer kind round middle)
      (later : Attempts config offer kinds middle round') :
      Attempts config offer (kind :: kinds) round round'

/-! ### Every branch is an attempt -/

/-- Recording a launch does not change how another service is admitted. -/
private theorem admits_recorded {service : ServiceState} (noted : kind.clusterWide = true ∨ kind = .client)
    (apart : other ≠ kind ∨ kind.core = true) :
    admits config (records.setService kind service) other = admits config records other := by
  have different : other ≠ kind := by
    rcases apart with different | isCore
    · exact different
    · rcases noted with shared | rfl
      · rw [ServiceKind.clusterWide_of_core isCore] at shared
        cases shared
      · cases isCore
  rcases noted with shared | rfl
  · cases kind <;> cases shared <;> cases other <;> first | rfl | exact absurd rfl different
  · cases other <;> first | rfl | exact absurd rfl different

/-- A message about a core service changes nothing about admission. -/
private theorem admits_message (message : String) (isCore : kind.core = true) :
    admits config (records.setService kind { records.service kind with lastMessage := message })
      other = admits config records other := by
  cases kind <;> cases isCore <;> cases other <;> rfl

private theorem skipped (refused : (admits config round.records kind round.remainingResources &&
      Resources.contains round.remainingResources (config.resources kind)) = false) :
    Attempt config offer kind round round := by
  refine ⟨?_, fun _ _ => rfl, rfl⟩
  rw [if_neg (by simp [refused])]
  exact ⟨rfl, rfl⟩

private theorem cluster_attempt {rpcPort httpPort : UInt16} (shared : kind.clusterWide = true)
    (guard : admits config round.records kind round.remainingResources =
      (doStartService kind round.records.node (round.records.service kind).state &&
        onPublicSlave config.flags round.remainingResources))
    (ran : startClusterService config targetVersion offer kind rpcPort httpPort round = .ok round') :
    Attempt config offer kind round round' := by
  have notClient : kind ≠ .client := by
    rintro rfl
    cases shared
  unfold startClusterService at ran
  split at ran
  · rename_i taken
    obtain ⟨task, built, rfl⟩ := except_map_ok ran
    obtain ⟨id, agent, resources⟩ := makeTask_fields built
    refine ⟨?_, fun other apart => admits_recorded (.inl shared) apart, ?_⟩
    · simp only [Bool.and_eq_true] at taken
      rw [guard, if_pos (by simp [taken])]
      exact ⟨task, ⟨id, agent, by rw [resources, if_neg notClient]⟩, rfl, rfl⟩
    · simp [LaunchRound.recordRunning, LaunchRound.addTask]
  · rename_i refused
    cases ran
    apply skipped
    rw [guard]
    simpa [and_comm, and_left_comm] using refused

private theorem s3_attempt (ran : startS3 config targetVersion offer round = .ok round') :
    Attempt config offer .s3 round round' := by
  unfold startS3 at ran
  split at ran
  · rename_i unnamed
    cases ran
    apply skipped
    simp [admits, unnamed]
  · rename_i named
    exact cluster_attempt rfl (by simp [admits, named]) ran

private theorem client_attempt (round : LaunchRound R) :
    Attempt config offer .client round (startClient config offer round) := by
  unfold startClient
  split
  · rename_i taken
    refine ⟨?_, fun other apart => admits_recorded (.inr rfl) apart, rfl⟩
    simp only [Bool.and_eq_true] at taken
    rw [if_pos (by simp [admits, taken])]
    exact ⟨_, ⟨rfl, rfl, rfl⟩, rfl, rfl⟩
  · rename_i refused
    apply skipped
    simpa [admits, and_comm, and_left_comm] using refused

private theorem core_attempt {rpcPort httpPort : UInt16} (isCore : kind.core = true)
    (ran : startCoreService config targetVersion offer kind rpcPort httpPort round = .ok round') :
    Attempt config offer kind round round' := by
  have guard : admits config round.records kind round.remainingResources =
      doStartService kind round.records.node (round.records.service kind).state := by
    cases kind <;> cases isCore <;> rfl
  have notClient : kind ≠ .client := by
    rintro rfl
    cases isCore
  unfold startCoreService at ran
  split at ran
  · rename_i starts
    split at ran
    · rename_i fits
      obtain ⟨task, built, rfl⟩ := except_map_ok ran
      obtain ⟨id, agent, resources⟩ := makeTask_fields built
      refine ⟨?_, fun _ _ => rfl, rfl⟩
      rw [guard, if_pos (by simp [starts, fits])]
      exact ⟨task, ⟨id, agent, by rw [resources, if_neg notClient]⟩, rfl, rfl⟩
    · rename_i short
      cases ran
      refine ⟨?_, fun _ _ => admits_message _ isCore, by simp⟩
      rw [if_neg (by simp [short])]
      exact ⟨rfl, rfl⟩
  · rename_i rests
    cases ran
    apply skipped
    simp [guard, rests]

private theorem devices_attempts (devices : List DeviceType)
    (ran : startDevices config targetVersion offer devices round = .ok round') :
    Attempts config offer (devices.filterMap requiredBy) round round' := by
  induction devices generalizing round with
  | nil =>
    cases ran
    exact .nil _
  | cons device devices ih =>
    obtain ⟨middle, first, later⟩ := except_bind_ok ran
    cases device with
    | registry | metadata | data => exact .cons (core_attempt rfl first) (ih later)
    | bootstrap | client | other =>
      cases first
      exact ih later

/-- The services the branch asks for, in its order. -/
def agenda (node : NodeState) : List ServiceKind := outerKinds ++ coreWishes node

theorem start_services_attempts (ran : startServices config targetVersion offer round = .ok round') :
    Attempts config offer (agenda round.records.node) round round' := by
  obtain ⟨afterApi, api, ran⟩ := except_bind_ok ran
  obtain ⟨afterS3, s3, ran⟩ := except_bind_ok ran
  obtain ⟨afterConsole, console, ran⟩ := except_bind_ok ran
  have first : Attempt config offer .api round afterApi := cluster_attempt rfl rfl api
  have second : Attempt config offer .s3 afterApi afterS3 := s3_attempt s3
  have third : Attempt config offer .webconsole afterS3 afterConsole := cluster_attempt rfl rfl console
  have fourth : Attempt config offer .client afterConsole _ := client_attempt afterConsole
  have devices := devices_attempts _ ran
  rw [third.devices, second.devices, first.devices] at devices
  exact .cons first (.cons second (.cons third (.cons fourth devices)))

/-! ### The branch serves its agenda -/

/-- No service is asked for a second time, but for core services. -/
def Ordered (kinds : List ServiceKind) : Prop :=
  kinds.Pairwise fun earlier later => later ≠ earlier ∨ earlier.core = true

theorem agenda_ordered (node : NodeState) : Ordered (agenda node) := by
  refine List.pairwise_append.mpr ⟨by decide, ?_, ?_⟩
  · exact List.pairwise_of_forall_mem_list fun kind wished _ _ => .inr (core_of_wished wished)
  · intro outer listed kind wished
    left
    rintro rfl
    have outside : ∀ outer ∈ outerKinds, outer.core = false := by decide
    exact absurd (core_of_wished wished) (by rw [outside kind listed]; decide)

variable [ScalarPorts R]

/-- Attempts start the tasks of the wishes that are served and leave what serving
them leaves. -/
theorem attempts_serve (attempts : Attempts config offer kinds round round') (ordered : Ordered kinds) :
    round'.remainingResources = (serve config.resources (admits config round.records) kinds
        round.remainingResources).2 ∧
      ∃ tasks, round'.tasksToStart = round.tasksToStart ++ tasks ∧
        List.Forall₂ (TaskFor config offer) (serve config.resources (admits config round.records)
          kinds round.remainingResources).1 tasks := by
  induction attempts with
  | nil round => exact ⟨rfl, [], (List.append_nil _).symm, .nil⟩
  | @cons kind kinds round middle round' first later ih =>
    obtain ⟨apart, ordered⟩ := List.pairwise_cons.mp ordered
    obtain ⟨left, tasks, listed, built⟩ := ih ordered
    rw [serve_congr fun other member => first.guards other (apart other member)] at left built
    have outcome := first.outcome
    rw [serve]
    split at outcome
    · rename_i taken
      obtain ⟨task, builtFirst, joined, deducted⟩ := outcome
      rw [deducted] at left built
      have served : (admits config round.records kind round.remainingResources &&
          Pool.contains round.remainingResources (config.resources kind)) = true := taken
      rw [if_pos served]
      refine ⟨left, task :: tasks, ?_, .cons builtFirst built⟩
      rw [listed, joined, List.append_assoc, List.singleton_append]
    · rename_i refused
      rw [outcome.2] at left built
      have passed : ¬ (admits config round.records kind round.remainingResources &&
          Pool.contains round.remainingResources (config.resources kind)) = true := refused
      rw [if_neg passed]
      exact ⟨left, tasks, by rw [listed, outcome.1], built⟩

/-- The launch branch, run to its end, has served its agenda from the offer. -/
theorem start_services_serves (ran : startServices config targetVersion offer round = .ok round')
    (empty : round.tasksToStart = []) :
    round'.remainingResources = (serve config.resources (admits config round.records)
        (agenda round.records.node) round.remainingResources).2 ∧
      List.Forall₂ (TaskFor config offer) (serve config.resources (admits config round.records)
        (agenda round.records.node) round.remainingResources).1 round'.tasksToStart := by
  obtain ⟨left, tasks, listed, built⟩ :=
    attempts_serve (start_services_attempts ran) (agenda_ordered _)
  rw [empty, List.nil_append] at listed
  rw [listed]
  exact ⟨left, built⟩

omit [ScalarPorts R] in
/-- What an offer that reaches the branch is answered with. -/
theorem services_handled {s : Scheduler} {now : Int} {node : NodeState}
    (due : ServicesDue config s now offer node) :
    handleOffer config s now offer =
      launchServices config s offer { node with lastOfferS := now } := by
  simp only [handleOffer, due.admitted, Bool.false_eq_true, if_false, due.known, handleKnownHost,
    due.proberCared, due.probed]
  rw [if_pos due.wanted]

omit [ScalarPorts R] in
/-- The time of an offer is not asked about. -/
theorem admits_offered {s : Scheduler} {node : NodeState} (now : Int) :
    admits config (s.records { node with lastOfferS := now }) = admits config (s.records node) := by
  funext kind remaining
  cases kind <;> rfl

/-- The entry of the offered host if the offer reaches the branch. -/
def launchNode (config : Config R) (s : Scheduler) (now : Int) (offer : Offer R) :
    Option NodeState :=
  s.nodes[offer.hostname]?.filter fun node =>
    !ignoresHost config.flags offer.hostname && s.state.targetVersion ≠ "" &&
      !(proberDue config.flags now { node with lastOfferS := now } &&
        Resources.contains offer.resources (config.resources .prober)) &&
      !probeDue config.flags now { node with lastOfferS := now }

omit [ScalarPorts R] in
theorem due_of_launchNode {s : Scheduler} {now : Int} {node : NodeState}
    (found : launchNode config s now offer = some node) : ServicesDue config s now offer node := by
  obtain ⟨known, guards⟩ := Option.filter_eq_some_iff.mp found
  simp only [Bool.and_eq_true, Bool.not_eq_true', decide_eq_true_eq] at guards
  obtain ⟨⟨⟨admitted, wanted⟩, cared⟩, probed⟩ := guards
  exact ⟨admitted, known, cared, probed, wanted⟩

end QuobyteMesos.LaunchAgenda
