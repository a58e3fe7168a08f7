import QuobyteMesos.LaunchSteps
import QuobyteMesos.SchedulerRuns

/-! What one input can do to the scheduler, said once for every later proof.

`target_iff` decodes the task id of an update. `Updated` and `Answered` list the
cases of `statusUpdate` and of one offer with everything each case checked.
`record_step` reads every input from the side of a single record: it is kept,
launched, taken over from a running task, or cleared. -/
namespace QuobyteMesos
open Mesos StdString Machine

/-- The entry of a host; without one, the empty entry. -/
def Scheduler.node (s : Scheduler) (hostname : String) : NodeState := s.nodes[hostname]?.getD {}

/-- The record of a service as seen from a host. -/
def Scheduler.record (s : Scheduler) (hostname : String) (kind : ServiceKind) : ServiceState :=
  (s.records (s.node hostname)).service kind

/-- The devices of the host are known and the one the service needs is not among
them. -/
def Scheduler.lacksDevice (s : Scheduler) (hostname : String) (kind : ServiceKind) : Bool :=
  (s.node hostname).deviceTypesValid && deviceMissing (s.node hostname) kind

/-- `service_should_run` for an update that names the service on the host: no
other instance of a cluster service is recorded, and the device is not missing. -/
def Scheduler.shouldRun (s : Scheduler) (hostname : String) (kind : ServiceKind)
    (status : TaskStatus) : Bool :=
  !(kind.clusterWide && (s.record hostname kind).state = .running &&
    (s.record hostname kind).taskId ≠ status.taskId) && !s.lacksDevice hostname kind

namespace SchedulerSteps
open SchedulerRuns LaunchSteps

variable {R : Type} {s s' : Scheduler} {node : NodeState} {records : Records}
variable {hostname host : String} {kind : ServiceKind} {now : Int} {status : TaskStatus}

/-! ### Records under the elementary changes -/

theorem record_of_node (known : s.nodes[hostname]? = some node) :
    s.record hostname kind = (s.records node).service kind := by
  simp [Scheduler.record, Scheduler.node, known]

/-- A cluster-wide record is the same from every host. -/
theorem record_shared (shared : kind.clusterWide = true) (hostname host : String) :
    s.record hostname kind = s.record host kind := by
  cases kind <;> cases shared <;> rfl

/-- Writing the records of a host back changes the node's own records there and
the cluster-wide ones everywhere. -/
theorem record_store (s : Scheduler) (records : Records) :
    (s.store hostname records).record host kind =
      if kind.clusterWide = true ∨ host = hostname then records.service kind
      else s.record host kind := by
  by_cases here : host = hostname
  · subst host
    cases kind <;> simp [Scheduler.record, Scheduler.node, Scheduler.store, Scheduler.records,
      Records.service]
  · cases kind <;> simp [Scheduler.record, Scheduler.node, Scheduler.store, Scheduler.records,
      Records.service, ServiceKind.clusterWide, Std.ExtTreeMap.getElem?_insert, here, Ne.symm here]

/-- Writing back what was read leaves a record as it was. -/
theorem record_store_same (known : s.nodes[hostname]? = some node)
    (same : records.service kind = (s.records node).service kind) :
    (s.store hostname records).record host kind = s.record host kind := by
  rw [record_store]
  split
  · rename_i within
    rw [same, ← record_of_node known]
    rcases within with shared | rfl
    · exact record_shared shared hostname host
    · rfl
  · rfl

@[simp] theorem record_createHost (slaveId : String) :
    (s.createHost hostname slaveId).record host kind = s.record host kind := by
  simp only [Scheduler.record, Scheduler.node, Scheduler.createHost, Scheduler.records,
    Std.ExtTreeMap.getElem?_insertIfNew, Std.compare_eq_iff_eq]
  split
  · rename_i added
    obtain ⟨rfl, absent⟩ := added
    rw [Std.ExtTreeMap.getElem?_eq_none absent]
    cases kind <;> rfl
  · rfl

@[simp] theorem lacksDevice_createHost (s : Scheduler) (hostname host : String) (kind : ServiceKind)
    (slaveId : String) : (s.createHost hostname slaveId).lacksDevice host kind = s.lacksDevice host kind := by
  simp only [Scheduler.lacksDevice, Scheduler.node, Scheduler.createHost,
    Std.ExtTreeMap.getElem?_insertIfNew, Std.compare_eq_iff_eq]
  split
  · rename_i added
    obtain ⟨rfl, absent⟩ := added
    rw [Std.ExtTreeMap.getElem?_eq_none absent]
    rfl
  · rfl

/-- A framework message leaves the state and the task id of every record. -/
theorem record_frameworkMessage (s : Scheduler) (now : Int) (hostname : String) (kind : ServiceKind)
    (slaveId : String) (data : Option ProbeResponse) :
    ((QuobyteMesos.frameworkMessage s now slaveId data).record hostname kind).state =
        (s.record hostname kind).state ∧
      ((QuobyteMesos.frameworkMessage s now slaveId data).record hostname kind).taskId =
        (s.record hostname kind).taskId := by
  cases data with
  | none => exact ⟨rfl, rfl⟩
  | some response =>
    simp only [QuobyteMesos.frameworkMessage, Scheduler.record, Scheduler.node, Scheduler.records,
      Std.ExtTreeMap.getElem?_map]
    cases s.nodes[hostname]? with
    | none => exact ⟨rfl, rfl⟩
    | some node =>
      simp only [Option.map_some, Option.getD_some]
      split <;> cases kind <;> exact ⟨rfl, rfl⟩

/-! ### Decoding a task id -/

theorem getService_eq_some_iff {service : String} :
    getService service = some kind ↔ service = kind.taskName := by
  constructor
  · intro found
    unfold getService at found
    repeat' split at found
    all_goals first
      | (cases found; assumption)
      | cases found
  · rintro rfl
    cases kind <;> decide

theorem splitTaskId_eq_some_iff {id service : String} :
    splitTaskId id = some (service, hostname) ↔
      id = service ++ "-" ++ hostname ∧ '-' ∉ hostname.toList := by
  constructor
  · intro found
    unfold splitTaskId at found
    obtain ⟨pos, position, parts⟩ := Option.map_eq_some_iff.mp found
    obtain ⟨rfl, rfl⟩ := Prod.mk.inj parts
    obtain ⟨joined, last⟩ := split_at_rfind position
    refine ⟨String.toList_inj.mp ?_, by simpa using last⟩
    simpa using joined.symm
  · rintro ⟨rfl, last⟩
    have letters : (service ++ "-" ++ hostname).toList =
        service.toList ++ '-' :: hostname.toList := by simp
    have tail : (service.toList ++ '-' :: hostname.toList).drop (service.toList.length + 1) =
        hostname.toList := by
      rw [← List.drop_drop, List.drop_left, List.drop_one, List.tail_cons]
    unfold splitTaskId
    rw [letters, rfind_append_cons _ last, Option.map_some, tail]
    simp [substr]

/-- The record an update is about: the service its task id names and the host
that follows. -/
def statusTarget (id : String) : Option (ServiceKind × String) :=
  (splitTaskId id).bind fun parts => (getService parts.1).map (·, parts.2)

/-- An update is about a record exactly when its id is the one built for that
service and host, and the host has no dash of its own. -/
theorem target_iff {id : String} :
    statusTarget id = some (kind, hostname) ↔
      id = taskId kind hostname ∧ '-' ∉ hostname.toList := by
  constructor
  · intro found
    obtain ⟨⟨service, host⟩, split, named⟩ := Option.bind_eq_some_iff.mp found
    obtain ⟨kind', service', same⟩ := Option.map_eq_some_iff.mp named
    obtain ⟨rfl, rfl⟩ := Prod.mk.inj same
    rw [getService_eq_some_iff] at service'
    rw [splitTaskId_eq_some_iff] at split
    subst service'
    exact split
  · intro built
    have split := splitTaskId_eq_some_iff.mpr built
    simp only [statusTarget, split, Option.bind_some]
    rw [getService_eq_some_iff.mpr rfl, Option.map_some]

/-! ### statusUpdate -/

/-- The record of an update's service once the update has been handled. -/
def recordAfter (shouldRun : Bool) (now : Int) (status : TaskStatus) (service : ServiceState) :
    ServiceState :=
  if status.state = .running ∨ status.state = .finished then
    if shouldRun && acceptsUpdate service status then recordSeen now status service else service
  else
    if isTerminal status.state && acceptsUpdate service status then
      recordTerminated now status service
    else service

/-- An update writes one record and answers with at most one kill. -/
theorem updateService_eq :
    updateService (R := R) now status kind records =
      (records.setService kind
        (recordAfter (serviceShouldRun records kind status) now status (records.service kind)),
      if (status.state = .running ∨ status.state = .finished) ∧
          serviceShouldRun records kind status = false then
        [.killTask status.taskId]
      else []) := by
  unfold updateService recordAfter
  dsimp only
  by_cases alive : status.state = .running ∨ status.state = .finished
  · rw [if_pos alive, if_pos alive]
    cases serviceShouldRun records kind status <;>
      cases acceptsUpdate (records.service kind) status <;> simp [alive]
  · rw [if_neg alive, if_neg alive]
    split <;> simp [not_or.mp alive]

/-- An update that changes its record takes it over from a living task or clears
it after a dead one. -/
theorem recordAfter_cases (shouldRun : Bool) (now : Int) (status : TaskStatus)
    (service : ServiceState) :
    recordAfter shouldRun now status service = service ∨
    ((status.state = .running ∨ status.state = .finished) ∧ shouldRun = true ∧
      acceptsUpdate service status = true ∧
      recordAfter shouldRun now status service = recordSeen now status service) ∨
    (isTerminal status.state = true ∧ status.state ≠ .finished ∧
      acceptsUpdate service status = true ∧
      recordAfter shouldRun now status service = recordTerminated now status service) := by
  unfold recordAfter
  split
  · rename_i alive
    split
    · rename_i taken
      simp only [Bool.and_eq_true] at taken
      exact .inr (.inl ⟨alive, taken.1, taken.2, rfl⟩)
    · exact .inl rfl
  · rename_i dead
    split
    · rename_i cleared
      simp only [Bool.and_eq_true] at cleared
      exact .inr (.inr ⟨cleared.1, fun finished => dead (.inr finished), cleared.2, rfl⟩)
    · exact .inl rfl

/-- Creating a host that is known changes nothing. -/
theorem createHost_known (present : hostname ∈ s.nodes) (slaveId : String) :
    s.createHost hostname slaveId = s := by
  have nodes : s.nodes.insertIfNew hostname (Scheduler.newNode hostname slaveId) = s.nodes := by
    apply Std.ExtTreeMap.ext_getElem?
    intro host
    simp only [Std.ExtTreeMap.getElem?_insertIfNew, Std.compare_eq_iff_eq]
    rw [if_neg (fun added => added.2 present)]
  simp [Scheduler.createHost, nodes]

/-- The scheduler an update continues with once it has looked the host up. -/
theorem findOrCreate_spec (s : Scheduler) (hostname slaveId : String) :
    (findOrCreate s hostname slaveId).1 = s.createHost hostname slaveId ∧
      (s.createHost hostname slaveId).nodes[hostname]? =
        some (findOrCreate s hostname slaveId).2 := by
  unfold findOrCreate
  cases known : s.nodes[hostname]? with
  | none =>
    refine ⟨rfl, ?_⟩
    have absent : hostname ∉ s.nodes := by
      rw [Std.ExtTreeMap.mem_iff_isSome_getElem?, known]
      simp
    simp only [Scheduler.createHost, Std.ExtTreeMap.getElem?_insertIfNew, Std.compare_eq_iff_eq]
    rw [if_pos ⟨trivial, absent⟩]
  | some node =>
    have present : hostname ∈ s.nodes := by
      rw [Std.ExtTreeMap.mem_iff_isSome_getElem?, known]
      rfl
    rw [createHost_known present]
    exact ⟨rfl, known⟩

/-- An update about a record is applied to it, at the host it names. -/
theorem statusUpdate_of_target (s : Scheduler) (now : Int) (target : statusTarget status.taskId = some (kind, hostname)) :
    ∃ node, (s.createHost hostname status.slaveId).nodes[hostname]? = some node ∧
      statusUpdate (R := R) s now status =
        ((s.createHost hostname status.slaveId).store hostname
            (updateService (R := R) now status kind
              ((s.createHost hostname status.slaveId).records node)).1,
          (updateService now status kind
              ((s.createHost hostname status.slaveId).records node)).2 ++
            checkVersion s.state kind status) := by
  obtain ⟨id, last⟩ := target_iff.mp target
  have split : splitTaskId status.taskId = some (kind.taskName, hostname) :=
    splitTaskId_eq_some_iff.mpr ⟨id, last⟩
  have named : getService kind.taskName = some kind := getService_eq_some_iff.mpr rfl
  obtain ⟨created, known⟩ := findOrCreate_spec s hostname status.slaveId
  refine ⟨_, known, ?_⟩
  simp only [statusUpdate, split, named, created]
  rfl

/-- An update of an unknown service still adds an entry for the text behind its last
dash, if there is none. -/
theorem statusUpdate_unnamed (s : Scheduler) (now : Int) {service : String}
    (split : splitTaskId status.taskId = some (service, hostname))
    (unnamed : getService service = none) :
    statusUpdate (R := R) s now status = (s.createHost hostname status.slaveId, []) := by
  have created := (findOrCreate_spec s hostname status.slaveId).1
  simp only [statusUpdate, split, unnamed, created]

/-- An update about no record leaves every record as it was, though it may add
an entry for the text behind its last dash. -/
theorem statusUpdate_of_no_target (s : Scheduler) (now : Int) (none : statusTarget status.taskId = none) :
    (statusUpdate (R := R) s now status).2 = [] ∧
      ((statusUpdate (R := R) s now status).1 = s ∨
        ∃ host, (statusUpdate (R := R) s now status).1 = s.createHost host status.slaveId) := by
  cases split : splitTaskId status.taskId with
  | none =>
    have untouched : statusUpdate (R := R) s now status = (s, []) := by simp only [statusUpdate, split]
    rw [untouched]
    exact ⟨rfl, .inl rfl⟩
  | some parts =>
    obtain ⟨service, host⟩ := parts
    have unnamed : getService service = Option.none := by
      simpa [statusTarget, split] using none
    rw [statusUpdate_unnamed s now split unnamed]
    exact ⟨rfl, .inr ⟨host, rfl⟩⟩

/-- For an update that names a service on a host, the records of the entry are
the records of the host. -/
private theorem update_within (kind : ServiceKind)
    (known : (s.createHost hostname status.slaveId).nodes[hostname]? = some node) :
    ((s.createHost hostname status.slaveId).records node).service kind = s.record hostname kind ∧
      serviceShouldRun ((s.createHost hostname status.slaveId).records node) kind status =
        s.shouldRun hostname kind status := by
  have before : ((s.createHost hostname status.slaveId).records node).service kind =
      s.record hostname kind := by
    rw [← record_of_node known, record_createHost]
  have lacks := lacksDevice_createHost s hostname hostname kind status.slaveId
  simp only [Scheduler.lacksDevice, Scheduler.node, known, Option.getD_some] at lacks
  refine ⟨before, ?_⟩
  have shared : (kind = .api || kind = .webconsole || kind = .s3 : Bool) = kind.clusterWide := by
    cases kind <;> rfl
  simp only [serviceShouldRun, Scheduler.shouldRun, before, shared]
  congr 2

/-- What becomes of the record an update names. -/
theorem record_statusUpdate (target : statusTarget status.taskId = some (kind, hostname)) :
    (statusUpdate (R := R) s now status).1.record hostname kind =
      recordAfter (s.shouldRun hostname kind status) now status (s.record hostname kind) := by
  obtain ⟨node, known, ran⟩ := statusUpdate_of_target (R := R) s now target
  obtain ⟨before, needed⟩ := update_within kind known
  rw [ran, record_store, if_pos (.inr rfl), updateService_eq, before, needed]
  exact Records.service_setService_self

/-- Every other record is left alone. -/
theorem record_statusUpdate_other {other : ServiceKind}
    (target : statusTarget status.taskId = some (kind, hostname))
    (apart : other = kind → kind.clusterWide = false ∧ host ≠ hostname) :
    (statusUpdate (R := R) s now status).1.record host other = s.record host other := by
  obtain ⟨node, known, ran⟩ := statusUpdate_of_target (R := R) s now target
  rw [ran, record_store]
  split
  · rename_i within
    have different : other ≠ kind := by
      rintro rfl
      obtain ⟨own, away⟩ := apart rfl
      rcases within with shared | here
      · rw [own] at shared
        cases shared
      · exact away here
    rw [updateService_eq, Records.service_setService_ne different, (update_within other known).1]
    rcases within with shared | rfl
    · exact record_shared shared _ _
    · rfl
  · exact record_createHost _

/-- What an update about a record is answered with. -/
theorem calls_statusUpdate (target : statusTarget status.taskId = some (kind, hostname)) :
    (statusUpdate (R := R) s now status).2 =
      (if (status.state = .running ∨ status.state = .finished) ∧
          s.shouldRun hostname kind status = false then
        [.killTask status.taskId]
      else []) ++ checkVersion s.state kind status := by
  obtain ⟨node, known, ran⟩ := statusUpdate_of_target (R := R) s now target
  rw [ran, updateService_eq, (update_within kind known).2]

/-- An update is answered by nothing but kills of its own task. -/
theorem statusUpdate_kills {call : DriverCall R} (made : call ∈ (statusUpdate s now status).2) :
    call = .killTask status.taskId := by
  cases target : statusTarget status.taskId with
  | none =>
    rw [(statusUpdate_of_no_target s now target).1] at made
    cases made
  | some found =>
    obtain ⟨kind, hostname⟩ := found
    rw [calls_statusUpdate target] at made
    rcases List.mem_append.mp made with surplus | version
    · split at surplus
      · exact List.mem_singleton.mp surplus
      · cases surplus
    · unfold checkVersion at version
      repeat' split at version
      all_goals first
        | exact List.mem_singleton.mp version
        | cases version

/-! ### One offer -/

/-- The shutdown branch makes nothing but kills. -/
theorem killServices_kills {call : DriverCall R} (made : call ∈ killServices hostname records) :
    ∃ id, call = .killTask id := by
  obtain ⟨kind, _, killed⟩ := List.mem_flatMap.mp made
  unfold killServiceIfRunning at killed
  split at killed
  · exact ⟨_, List.mem_singleton.mp killed⟩
  · cases killed

variable [Resources R] {config : Config R} {offer : Offer R}

/-- The offer reaches the launch branch. -/
structure ServicesDue (config : Config R) (s : Scheduler) (now : Int) (offer : Offer R)
    (node : NodeState) : Prop where
  admitted : ignoresHost config.flags offer.hostname = false
  known : s.nodes[offer.hostname]? = some node
  proberCared : (proberDue config.flags now { node with lastOfferS := now } &&
    Resources.contains offer.resources (config.resources .prober)) = false
  probed : probeDue config.flags now { node with lastOfferS := now } = false
  wanted : s.state.targetVersion ≠ ""

/-- The cases of an offer, each with what it found and what it answers. -/
inductive Answered (config : Config R) (s : Scheduler) (now : Int) (offer : Offer R) :
    Scheduler → List (DriverCall R) → Prop where
  | restricted (ignored : ignoresHost config.flags offer.hostname = true) :
      Answered config s now offer s [.declineOffer offer.id]
  | discovered (unknown : s.nodes[offer.hostname]? = none) :
      Answered config s now offer (s.createHost offer.hostname offer.slaveId)
        ((reconcileHost s offer).2 ++ [.declineOffer offer.id])
  | prober (node : NodeState) {task : TaskInfo R}
      (known : s.nodes[offer.hostname]? = some node)
      (due : proberDue config.flags now { node with lastOfferS := now } = true)
      (fits : Resources.contains offer.resources (config.resources .prober) = true)
      (id : task.taskId = taskId .prober offer.hostname) (agent : task.slaveId = offer.slaveId)
      (resources : task.resources = config.resources .prober) :
      Answered config s now offer
        (s.store offer.hostname (s.records { node with
          lastOfferS := now
          prober := { node.prober with state := .starting, lastUpdateS := now } }))
        [.launchTasks offer.id [task]]
  | probe (node : NodeState) (known : s.nodes[offer.hostname]? = some node)
      (due : probeDue config.flags now { node with lastOfferS := now } = true) :
      Answered config s now offer
        (triggerProbe config s now offer { node with lastOfferS := now }).1
        (triggerProbe config s now offer { node with lastOfferS := now }).2
  | launch (node : NodeState) {round : LaunchRound R}
      (due : ServicesDue config s now offer node)
      (ran : startServices config s.state.targetVersion offer
        { records := s.records { node with lastOfferS := now }
          remainingResources := offer.resources } = .ok round) :
      Answered config s now offer (s.store offer.hostname round.records)
        (if round.tasksToStart ≠ [] then [.launchTasks offer.id round.tasksToStart]
          else [.declineOffer offer.id])
  | shutdown (node : NodeState) (known : s.nodes[offer.hostname]? = some node)
      (unwanted : s.state.targetVersion = "") :
      Answered config s now offer
        (s.store offer.hostname (s.records { node with lastOfferS := now }))
        (killServices offer.hostname (s.records { node with lastOfferS := now }) ++
          [.declineOffer offer.id])

/-- Every offer that does not end the process is answered in one of these ways. -/
theorem offer_cases {calls : List (DriverCall R)}
    (handled : handleOffer config s now offer = .ok (s', calls)) :
    Answered config s now offer s' calls := by
  unfold handleOffer at handled
  split at handled
  · rename_i ignored
    cases handled
    exact .restricted ignored
  · rename_i admitted
    split at handled
    · rename_i unknown
      cases handled
      exact .discovered unknown
    · rename_i node known
      unfold handleKnownHost at handled
      split at handled
      · rename_i guard
        simp only [Bool.and_eq_true] at guard
        obtain ⟨task, _, answer⟩ := except_map_ok handled
        cases answer
        exact .prober node known guard.1 guard.2 rfl rfl rfl
      · rename_i cared
        split at handled
        · rename_i due
          cases handled
          exact .probe node known due
        · rename_i probed
          split at handled
          · rename_i wanted
            obtain ⟨round, ran, answer⟩ := except_map_ok handled
            cases answer
            exact .launch node ⟨Bool.of_not_eq_true admitted, known, Bool.of_not_eq_true cared,
              Bool.of_not_eq_true probed, wanted⟩ ran
          · rename_i unwanted
            cases handled
            exact .shutdown node known (not_not.mp unwanted)

/-- What a launch holds: the prober alone, or what the launch branch started. -/
inductive LaunchedTasks (config : Config R) (s : Scheduler) (now : Int) (offer : Offer R) :
    List (TaskInfo R) → Prop where
  | prober (node : NodeState) {task : TaskInfo R}
      (known : s.nodes[offer.hostname]? = some node)
      (due : proberDue config.flags now { node with lastOfferS := now } = true)
      (fits : Resources.contains offer.resources (config.resources .prober) = true)
      (id : task.taskId = taskId .prober offer.hostname) (agent : task.slaveId = offer.slaveId)
      (resources : task.resources = config.resources .prober) :
      LaunchedTasks config s now offer [task]
  | services (node : NodeState) {round : LaunchRound R}
      (due : ServicesDue config s now offer node)
      (ran : startServices config s.state.targetVersion offer
        { records := s.records { node with lastOfferS := now }
          remainingResources := offer.resources } = .ok round) :
      LaunchedTasks config s now offer round.tasksToStart

theorem launch_cases {calls : List (DriverCall R)} {id : String} {tasks : List (TaskInfo R)}
    (handled : handleOffer config s now offer = .ok (s', calls))
    (launched : .launchTasks id tasks ∈ calls) : LaunchedTasks config s now offer tasks := by
  cases offer_cases handled with
  | restricted => cases List.mem_singleton.mp launched
  | discovered => simp [reconcileHost] at launched
  | prober node known due fits id agent resources =>
    cases List.mem_singleton.mp launched
    exact .prober node known due fits id agent resources
  | probe => simp [triggerProbe, reconcileHost] at launched
  | launch node due ran =>
    split at launched
    · cases List.mem_singleton.mp launched
      exact .services node due ran
    · cases List.mem_singleton.mp launched
  | shutdown =>
    rcases List.mem_append.mp launched with killed | declined
    · obtain ⟨task, same⟩ := killServices_kills killed
      cases same
    · cases List.mem_singleton.mp declined

/-- Whether the offer is answered with a launch whose tasks pass a check. -/
def launchesWith (config : Config R) (s : Scheduler) (now : Int) (offer : Offer R)
    (check : List (TaskInfo R) → Bool) : Bool :=
  (handleOffer config s now offer).toOption.any fun answer =>
    answer.2.any fun call => match call with
      | .launchTasks _ tasks => check tasks
      | .reconcileTasks _ | .declineOffer _ | .killTask _ | .sendFrameworkMessage .. => false

theorem launch_of_check {check : List (TaskInfo R) → Bool}
    (passed : launchesWith config s now offer check = true) :
    ∃ s' calls id tasks, handleOffer config s now offer = .ok (s', calls) ∧
      .launchTasks id tasks ∈ calls ∧ check tasks = true := by
  obtain ⟨⟨s', calls⟩, handled, found⟩ := except_any_ok passed
  obtain ⟨call, made, checked⟩ := List.any_eq_true.mp found
  cases call with
  | launchTasks id tasks => exact ⟨s', calls, id, tasks, handled, made, checked⟩
  | reconcileTasks | declineOffer | killTask | sendFrameworkMessage => cases checked

/-- A run behind which an offer launches a task of a given name. -/
theorem task_of_run {state : SchedulerState} {callbacks : List (Callback R)} {name : String}
    (ran : (run (callbackStep config) (Scheduler.fresh state) callbacks).next.map (fun s =>
      launchesWith config s now offer fun tasks => tasks.any fun task => task.taskId = name) =
      some true) :
    ∃ s s' calls id tasks task, Reachable config s ∧
      handleOffer config s now offer = .ok (s', calls) ∧ .launchTasks id tasks ∈ calls ∧
      task ∈ tasks ∧ task.taskId = name := by
  obtain ⟨s, reachable, passed⟩ := reachable_of_run ran
  obtain ⟨s', calls, id, tasks, handled, launched, found⟩ := launch_of_check passed
  obtain ⟨task, member, named⟩ := List.any_eq_true.mp found
  exact ⟨s, s', calls, id, tasks, task, reachable, handled, launched, member,
    of_decide_eq_true named⟩

/-- An offer input that leaves a state answered its offer. -/
theorem offer_step (stepped : (inputStep config s (.offer now offer)).next = some s') :
    ∃ calls, Answered config s now offer s' calls ∧
      (inputStep config s (.offer now offer)).out = calls.map .called := by
  simp only [inputStep, Outcome.mapOut] at stepped ⊢
  cases handled : handleOffer config s now offer with
  | error abort =>
    rw [handled] at stepped
    cases stepped
  | ok answer =>
    obtain ⟨after, calls⟩ := answer
    rw [handled] at stepped
    cases stepped
    exact ⟨calls, offer_cases handled, rfl⟩

/-- An offer that ends the process makes no call. -/
theorem offer_ended (ended : (inputStep config s (.offer now offer)).next = none) :
    (inputStep config s (.offer now offer)).out = [] := by
  simp only [inputStep, Outcome.mapOut] at ended ⊢
  cases handled : handleOffer config s now offer with
  | error abort => rfl
  | ok answer =>
    rw [handled] at ended
    cases ended

/-- Whether handling the offer asks about the tasks of its host. -/
def reconciles (config : Config R) (s : Scheduler) (now : Int) (offer : Offer R) : Bool :=
  (handleOffer config s now offer).toOption.any fun answer =>
    answer.2.any fun call => match call with
      | .reconcileTasks _ => true
      | .launchTasks .. | .declineOffer _ | .killTask _ | .sendFrameworkMessage .. => false

end SchedulerSteps

end QuobyteMesos
