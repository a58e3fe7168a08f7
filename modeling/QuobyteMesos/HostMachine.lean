import QuobyteMesos.NodeSteps
import QuobyteMesos.RecordSteps

/-! One host as a machine of its own.

What the scheduler keeps of a host, but for its client and the messages of its
records, depends on the inputs about this host alone. `hostStep` is the machine
that they drive, and `host_refines` says that the scheduler is the product of these
machines, whatever the other hosts do in between. A machine whose prober has been
launched waits for an update of it: until then nothing is probed, reconciled or
launched anew (`starting_prober_blocks`). -/
namespace QuobyteMesos.HostMachine
open Mesos Machine SchedulerRuns SchedulerSteps NodeSteps LaunchSteps RecordSteps

/-! ### The machine -/

/-- What is kept of one service but its message. -/
structure ServiceFacts where
  state : ServiceState.TaskState := .unknown
  lastUpdateS : Int := 0
  lastSeenS : Int := 0
  taskId : String := ""
  deriving DecidableEq, Repr

/-- What is kept of one host but its client and the messages. -/
structure HostState where
  slaveIdValue : String
  prober : ServiceFacts := {}
  registry : ServiceFacts := {}
  metadata : ServiceFacts := {}
  data : ServiceFacts := {}
  deviceType : List DeviceType := []
  clientMountPoint : Bool := false
  deviceTypesValid : Bool := false
  lastProbeS : Int := 0
  lastOfferS : Int := 0
  deriving DecidableEq, Repr

/-- The services a host has a machine for: its prober and its core services. -/
def own : ServiceKind → Bool
  | .prober | .registry | .metadata | .data => true
  | .api | .s3 | .webconsole | .client => false

namespace HostState

def service (host : HostState) : ServiceKind → ServiceFacts
  | .prober => host.prober
  | .registry => host.registry
  | .metadata => host.metadata
  | .data => host.data
  | .api | .s3 | .webconsole | .client => {}

def setService (host : HostState) (kind : ServiceKind) (service : ServiceFacts) : HostState :=
  match kind with
  | .prober => { host with prober := service }
  | .registry => { host with registry := service }
  | .metadata => { host with metadata := service }
  | .data => { host with data := service }
  | .api | .s3 | .webconsole | .client => host

/-- The devices are known and the one of the service is not among them. -/
def lacks (host : HostState) (kind : ServiceKind) : Bool :=
  host.deviceTypesValid && match kind with
    | .registry => !host.deviceType.contains .registry
    | .metadata => !host.deviceType.contains .metadata
    | .data => !host.deviceType.contains .data
    | .prober | .api | .s3 | .webconsole | .client => false

variable {host : HostState} {kind other : ServiceKind} {service : ServiceFacts}

@[simp] theorem service_setService_self (isOwn : own kind = true) :
    (host.setService kind service).service kind = service := by
  cases kind <;> cases isOwn <;> rfl

@[simp] theorem service_setService_ne (apart : other ≠ kind) :
    (host.setService kind service).service other = host.service other := by
  cases kind <;> cases other <;> first | rfl | exact absurd rfl apart

@[simp] theorem setService_slaveIdValue :
    (host.setService kind service).slaveIdValue = host.slaveIdValue := by
  cases kind <;> rfl

@[simp] theorem setService_deviceType :
    (host.setService kind service).deviceType = host.deviceType := by
  cases kind <;> rfl

@[simp] theorem setService_deviceTypesValid :
    (host.setService kind service).deviceTypesValid = host.deviceTypesValid := by
  cases kind <;> rfl

@[simp] theorem setService_lastProbeS :
    (host.setService kind service).lastProbeS = host.lastProbeS := by
  cases kind <;> rfl

end HostState

/-- What an update about a service makes of it. -/
def ServiceFacts.after (shouldRun : Bool) (now : Int) (status : TaskStatus) (service : ServiceFacts) :
    ServiceFacts :=
  let accepted := status.taskId = service.taskId || service.taskId = ""
  if status.state = .running ∨ status.state = .finished then
    if shouldRun && accepted then
      { state := .running, lastUpdateS := now, lastSeenS := now, taskId := status.taskId }
    else service
  else if isTerminal status.state && accepted then
    { service with state := .notRunning, lastUpdateS := now, taskId := "" }
  else service

variable {R : Type} [Resources R]

/-- An offer of the host: it is declined, starts the prober or triggers a probe, or
goes on to the services, which leave no trace here. -/
def offerHost (config : Config R) (now : Int) (offer : Offer R) : Option HostState → Option HostState
  | none => some { slaveIdValue := offer.slaveId }
  | some host =>
    let host := { host with lastOfferS := now }
    if now - host.prober.lastSeenS > config.flags.probeExecutorKeepaliveIntervalS &&
        host.prober.state ≠ .running && host.prober.state ≠ .starting &&
        Resources.contains offer.resources (config.resources .prober) then
      some { host with prober := { host.prober with state := .starting, lastUpdateS := now } }
    else if host.prober.state = .running && now - host.lastProbeS > config.flags.probeIntervalS then
      some { host with lastProbeS := now }
    else
      some host

/-- An update for the host, behind the service it names. -/
def updateHost (now : Int) (status : TaskStatus) (service : String) (host : Option HostState) :
    HostState :=
  let host := host.getD { slaveIdValue := status.slaveId }
  match getService service with
  | none => host
  | some kind =>
    host.setService kind ((host.service kind).after (!host.lacks kind) now status)

/-- A response of an agent, which may be that of the host. -/
def probeHost (now : Int) (slaveId : String) (response : ProbeResponse) (host : HostState) :
    HostState :=
  if host.slaveIdValue = slaveId then
    { host with
      deviceType := response.deviceType
      clientMountPoint := response.clientMountPoint
      prober := { host.prober with lastSeenS := now }
      deviceTypesValid := true }
  else
    host

/-- One input about the host. -/
def hostStep (config : Config R) (host : Option HostState) : Input R → Option HostState
  | .offer now offer =>
    if ignoresHost config.flags offer.hostname then host else offerHost config now offer host
  | .statusUpdate now status =>
    match splitTaskId status.taskId with
    | none => host
    | some (service, _) => some (updateHost now status service host)
  | .frameworkMessage now slaveId data =>
    match data with
    | none => host
    | some response => host.map (probeHost now slaveId response)
  | .registered _ | .reregistered | .postVersion _ => host

/-- The input is about the host; a framework message names an agent, so that it may
be. -/
def concerns (hostname : String) : Input R → Bool
  | .offer _ offer => offer.hostname = hostname
  | .statusUpdate _ status => (splitTaskId status.taskId).any fun parts => parts.2 = hostname
  | .frameworkMessage .. => true
  | .registered _ | .reregistered | .postVersion _ => false

/-! ### What the scheduler keeps of a host -/

def facts (service : ServiceState) : ServiceFacts :=
  ⟨service.state, service.lastUpdateS, service.lastSeenS, service.taskId⟩

def hostState (node : NodeState) : HostState where
  slaveIdValue := node.slaveIdValue
  prober := facts node.prober
  registry := facts node.registry
  metadata := facts node.metadata
  data := facts node.data
  deviceType := node.deviceType
  clientMountPoint := node.clientMountPoint
  deviceTypesValid := node.deviceTypesValid
  lastProbeS := node.lastProbeS
  lastOfferS := node.lastOfferS

def view (hostname : String) (s : Scheduler) : Option HostState :=
  s.nodes[hostname]?.map hostState

variable {config : Config R} {s s' : Scheduler} {hostname host : String} {kind : ServiceKind}
variable {node : NodeState} {records : Records} {now : Int} {status : TaskStatus} {offer : Offer R}
variable {input : Input R}

omit [Resources R] in
theorem facts_record (isOwn : own kind = true) :
    facts (records.service kind) = (hostState records.node).service kind := by
  cases kind <;> cases isOwn <;> rfl

omit [Resources R] in
theorem hostState_setService {service : ServiceState} :
    hostState (records.setService kind service).node =
      (hostState records.node).setService kind (facts service) := by
  cases kind <;> rfl

omit [Resources R] in
theorem facts_recordAfter (shouldRun : Bool) (service : ServiceState) :
    facts (recordAfter shouldRun now status service) =
      (facts service).after shouldRun now status := by
  unfold recordAfter ServiceFacts.after
  rw [apply_ite facts, apply_ite facts, apply_ite facts]
  rfl

omit [Resources R] in
theorem view_store : view host (s.store hostname records) =
    if hostname = host then some (hostState records.node) else view host s := by
  simp only [view, Scheduler.store, Std.ExtTreeMap.getElem?_insert, Std.compare_eq_iff_eq]
  split <;> rfl

omit [Resources R] in
theorem view_createHost (slaveId : String) : view host (s.createHost hostname slaveId) =
    if hostname = host then some ((view host s).getD { slaveIdValue := slaveId }) else view host s := by
  simp only [view, Scheduler.createHost, Std.ExtTreeMap.getElem?_insertIfNew, Std.compare_eq_iff_eq]
  by_cases here : hostname = host
  · subst here
    cases known : s.nodes[hostname]? with
    | none =>
      have absent : hostname ∉ s.nodes := by
        rw [Std.ExtTreeMap.mem_iff_isSome_getElem?, known]
        simp
      rw [if_pos ⟨rfl, absent⟩, if_pos rfl]
      rfl
    | some node =>
      have present : hostname ∈ s.nodes := by
        rw [Std.ExtTreeMap.mem_iff_isSome_getElem?, known]
        rfl
      rw [if_neg (fun added => added.2 present), if_pos rfl]
      rfl
  · rw [if_neg (fun added => here added.1), if_neg here]

/-! ### One input -/

/-- The launch branch leaves no trace in the machine of the host. -/
private theorem hostState_steps {start round : LaunchRound R}
    (steps : Relation.ReflTransGen (StartStep config offer) start round) :
    hostState round.records.node = hostState start.records.node := by
  induction steps with
  | refl => rfl
  | tail _ step ih =>
    rw [← ih]
    cases step with
    | recorded noted =>
      rcases noted with shared | rfl
      · rename_i kind _ _ _ _ _
        cases kind <;> cases shared <;> rfl
      · rfl
    | core => rfl
    | shortage message isCore =>
      rename_i kind
      cases kind <;> cases isCore <;> rfl

private theorem view_known {calls : List (DriverCall R)}
    (handled : handleKnownHost config s now offer { node with lastOfferS := now } = .ok (s', calls)) :
    view offer.hostname s' = offerHost config now offer (some (hostState node)) := by
  have stored (records : Records) :
      view offer.hostname (s.store offer.hostname records) = some (hostState records.node) := by
    rw [view_store, if_pos rfl]
  unfold handleKnownHost at handled
  split at handled
  · rename_i guard
    obtain ⟨task, _, answer⟩ := except_map_ok handled
    cases answer
    exact (stored _).trans (if_pos guard).symm
  · rename_i cared
    refine Eq.trans ?_ (if_neg cared).symm
    split at handled
    · rename_i due
      cases handled
      refine (view_createHost offer.slaveId).trans ?_
      rw [if_pos rfl, stored]
      exact (if_pos due).symm
    · rename_i probed
      refine Eq.trans ?_ (if_neg probed).symm
      split at handled
      · obtain ⟨round, ran, answer⟩ := except_map_ok handled
        cases answer
        rw [stored, hostState_steps (start_services_steps ran)]
        rfl
      · cases handled
        exact stored _

/-- An offer that leaves the process running does to its host what the machine does. -/
theorem view_offer {calls : List (DriverCall R)}
    (handled : handleOffer config s now offer = .ok (s', calls)) :
    view offer.hostname s' = hostStep config (view offer.hostname s) (.offer now offer) := by
  unfold handleOffer at handled
  simp only [hostStep]
  split at handled
  · rename_i ignored
    cases handled
    rw [if_pos ignored]
  · rename_i admitted
    rw [if_neg admitted]
    split at handled
    · rename_i unknown
      cases handled
      refine (view_createHost offer.slaveId).trans ?_
      rw [if_pos rfl, view, unknown]
      rfl
    · rename_i node known
      have before : view offer.hostname s = some (hostState node) := by
        rw [view, known]
        rfl
      rw [before]
      exact view_known handled

omit [Resources R] in
/-- An update does to the host it names what the machine does. -/
theorem view_update {service : String} (split : splitTaskId status.taskId = some (service, hostname)) :
    view hostname (statusUpdate (R := R) s now status).1 =
      some (updateHost now status service (view hostname s)) := by
  obtain ⟨created, known⟩ := findOrCreate_spec s hostname status.slaveId
  have before : hostState (findOrCreate s hostname status.slaveId).2 =
      (view hostname s).getD { slaveIdValue := status.slaveId } := by
    have added : view hostname (s.createHost hostname status.slaveId) = _ :=
      view_createHost status.slaveId
    rw [if_pos rfl, view, known] at added
    exact Option.some.inj added
  unfold updateHost
  rw [← before]
  cases named : getService service with
  | none =>
    simp only [statusUpdate, split, named, created]
    rw [view, known]
    rfl
  | some kind =>
    simp only [statusUpdate, split, named, created]
    rw [view_store, if_pos rfl, updateService_eq, hostState_setService, facts_recordAfter]
    congr 1
    cases isOwn : own kind with
    | true =>
      rw [facts_record isOwn]
      cases kind <;> cases isOwn <;> rfl
    | false => cases kind <;> cases isOwn <;> rfl

omit [Resources R] in
private theorem view_message (hostname slaveId : String) (response : ProbeResponse) :
    view hostname (frameworkMessage s now slaveId (some response)) =
      (view hostname s).map (probeHost now slaveId response) := by
  simp only [view, nodes_frameworkMessage, Option.map_map]
  congr 1
  funext node
  rw [Function.comp, apply_ite hostState]
  rfl

/-- An input that is not about a host leaves its machine alone. -/
theorem view_unconcerned (apart : concerns hostname input = false)
    (stepped : (inputStep config s input).next = some s') : view hostname s' = view hostname s := by
  cases input with
  | offer now offer =>
    have away : offer.hostname ≠ hostname := by simpa [concerns] using apart
    have stored (s : Scheduler) (records : Records) :
        view hostname (s.store offer.hostname records) = view hostname s := by
      rw [view_store, if_neg away]
    have created (s : Scheduler) :
        view hostname (s.createHost offer.hostname offer.slaveId) = view hostname s := by
      rw [view_createHost, if_neg away]
    obtain ⟨calls, answered, _⟩ := offer_step stepped
    cases answered with
    | restricted => rfl
    | discovered => exact created s
    | prober | launch | shutdown => exact stored s _
    | probe => exact (created _).trans (stored s _)
  | statusUpdate now status =>
    cases stepped
    cases split : splitTaskId status.taskId with
    | none => simp only [statusUpdate, split]
    | some parts =>
      obtain ⟨service, host⟩ := parts
      have away : host ≠ hostname := by simpa [concerns, split] using apart
      have created : view hostname (s.createHost host status.slaveId) = view hostname s := by
        rw [view_createHost, if_neg away]
      have same := (findOrCreate_spec s host status.slaveId).1
      cases named : getService service with
      | none => simp only [statusUpdate, split, named, same, created]
      | some kind => simp only [statusUpdate, split, named, same, view_store, if_neg away, created]
  | frameworkMessage => cases apart
  | registered | reregistered | postVersion =>
    cases stepped
    rfl

/-- An input about a host is a step of its machine. -/
theorem view_concerned (about : concerns hostname input = true)
    (stepped : (inputStep config s input).next = some s') :
    view hostname s' = hostStep config (view hostname s) input := by
  cases input with
  | offer now offer =>
    have here : offer.hostname = hostname := by simpa [concerns] using about
    subst here
    simp only [inputStep, Outcome.mapOut] at stepped
    cases handled : handleOffer config s now offer with
    | error abort =>
      rw [handled] at stepped
      cases stepped
    | ok answer =>
      rw [handled] at stepped
      cases stepped
      exact view_offer handled
  | statusUpdate now status =>
    cases stepped
    cases split : splitTaskId status.taskId with
    | none => simp [concerns, split] at about
    | some parts =>
      obtain ⟨service, host⟩ := parts
      have here : host = hostname := by simpa [concerns, split] using about
      subst here
      simp only [hostStep, split]
      exact view_update split
  | frameworkMessage now slaveId data =>
    cases stepped
    cases data with
    | none => rfl
    | some response => exact view_message hostname slaveId response
  | registered | reregistered | postVersion => cases about

/-! ### Whole runs -/

/-- What the scheduler keeps of a host at the end of a run is what the machine of the
host comes to on the inputs about it, whatever stands between them. -/
theorem host_refines {callbacks : List (Callback R)}
    (ran : (run (callbackStep config) s callbacks).next = some s') (hostname : String) :
    view hostname s' = ((callbacks.flatMap Callback.inputs).filter (concerns hostname)).foldl
      (hostStep config) (view hostname s) := by
  rw [callback_runs] at ran
  exact run_view (view hostname) (hostStep config) (concerns hostname)
    (fun _ _ _ apart stepped => view_unconcerned apart stepped)
    (fun _ _ _ about stepped => view_concerned about stepped) ran

/-- The machine of the host of `apiLaunched`. -/
theorem api_host_followed : ∃ s', (run (callbackStep defaultConfig)
      (Scheduler.fresh { targetVersion := "1" }) apiLaunched).next = some s' ∧
    view "h1" s' = some { slaveIdValue := "agent-h1", prober := { lastSeenS := 1 }
                          deviceTypesValid := true, lastOfferS := 2 } := by
  have runs : (run (callbackStep defaultConfig) (Scheduler.fresh { targetVersion := "1" })
      apiLaunched).next.isSome = true := by decide +kernel
  obtain ⟨s', ran⟩ := Option.isSome_iff_exists.mp runs
  refine ⟨s', ran, ?_⟩
  rw [host_refines ran "h1"]
  decide +kernel

/-! ### A prober that has been launched -/

/-- The scheduler looks after the host: it starts its prober, sends a request to an
executor, or asks about tasks. -/
def LooksAfter (hostname : String) : Event R → Prop
  | .called (.launchTasks _ tasks) => taskId .prober hostname ∈ tasks.map TaskInfo.taskId
  | .called (.reconcileTasks _) | .called (.sendFrameworkMessage ..) => True
  | .called (.declineOffer _) | .called (.killTask _) | .delivered _ => False

/-- An input that is no update of the host's prober. -/
def Silent (hostname : String) : Input R → Prop
  | .statusUpdate _ status => statusTarget status.taskId ≠ some (.prober, hostname)
  | .offer .. | .frameworkMessage .. | .registered _ | .reregistered | .postVersion _ => True

private theorem starting_step (starting : (s.record hostname .prober).state = .starting)
    (silent : Silent hostname input) (stepped : (inputStep config s input).next = some s') :
    (s'.record hostname .prober).state = .starting := by
  have step := record_step stepped hostname .prober
  generalize s'.record hostname .prober = after at step ⊢
  cases step with
  | kept state => rw [state, starting]
  | launched noted => rcases noted with shared | other <;> contradiction
  | proberStarted _ _ _ started => exact started
  | seen target here | terminated target here =>
    rcases here with shared | rfl
    · cases shared
    · exact absurd target silent

private theorem starting_offer (starting : (s.record offer.hostname .prober).state = .starting) :
    ∀ event ∈ (inputStep config s (.offer now offer)).out, ¬ LooksAfter offer.hostname event := by
  intro event emitted looks
  obtain ⟨s', stepped⟩ := continues_of_emitted emitted
  obtain ⟨calls, answered, out⟩ := offer_step stepped
  rw [out] at emitted
  obtain ⟨call, made, rfl⟩ := List.mem_map.mp emitted
  cases answered with
  | restricted =>
    rw [List.mem_singleton.mp made] at looks
    exact looks
  | discovered unknown =>
    rw [Scheduler.record, Scheduler.node, unknown] at starting
    cases starting
  | prober node known due =>
    rw [record_of_node known] at starting
    simp only [proberDue, Bool.and_eq_true, decide_eq_true_eq] at due
    exact due.2 starting
  | probe node known due =>
    rw [record_of_node known] at starting
    simp only [probeDue, Bool.and_eq_true, decide_eq_true_eq] at due
    exact absurd (starting.symm.trans due.1) (by decide)
  | launch node due ran =>
    split at made
    · rw [List.mem_singleton.mp made] at looks
      obtain ⟨task, member, named⟩ := List.mem_map.mp looks
      rcases (progress_steps (start_services_steps ran)).tasks task member with
        earlier | ⟨kind, other, built, _⟩
      · cases earlier
      · rw [built.id] at named
        exact other (taskId_injective named).1
    · rw [List.mem_singleton.mp made] at looks
      exact looks
  | shutdown =>
    rcases List.mem_append.mp made with killed | declined
    · obtain ⟨id, rfl⟩ := killServices_kills killed
      exact looks
    · rw [List.mem_singleton.mp declined] at looks
      exact looks

/-- Once its prober is recorded as launched, a host is not looked after before an
update of the prober has been delivered, whatever else happens. -/
theorem starting_prober_blocks {before : List (Input R)} {middle : Scheduler}
    (starting : (s.record offer.hostname .prober).state = .starting)
    (silent : ∀ input ∈ before, Silent offer.hostname input)
    (ran : (run (inputStep config) s before).next = some middle) (now : Int) :
    (middle.record offer.hostname .prober).state = .starting ∧
      ∀ event ∈ (inputStep config middle (.offer now offer)).out,
        ¬ LooksAfter offer.hostname event := by
  have keeps : ∀ (s : Scheduler) (input : Input R) (s' : Scheduler),
      (s.record offer.hostname .prober).state = .starting → Silent offer.hostname input →
      (inputStep config s input).next = some s' →
      (s'.record offer.hostname .prober).state = .starting :=
    fun _ _ _ starting silent stepped => starting_step starting silent stepped
  have waits := run_invariant_along keeps starting (along_of_all fun _ => silent) ran
  exact ⟨waits, starting_offer waits⟩

/-- The prober of a host is reported lost and launched on the next offer. -/
def proberLaunched : List (Callback TextResources) :=
  [.resourceOffers [(1, wideOffer "o1" "h1")],
    .statusUpdate 1 { taskId := "quobyte-device-prober-h1", state := .lost },
    .resourceOffers [(100, wideOffer "o2" "h1")]]

/-- A day later the host is still waiting, although its tasks have been asked about. -/
theorem launched_prober_awaited : ∃ s, Reachable defaultConfig s ∧
    (s.record "h1" .prober).state = .starting ∧ ∃ middle,
      (run (inputStep defaultConfig) s [.reregistered,
        .statusUpdate 200 { taskId := "quobyte-data-h1", state := .lost }]).next = some middle ∧
      ∀ event ∈ (inputStep defaultConfig middle (.offer 86400 (wideOffer "o3" "h1"))).out,
        ¬ LooksAfter "h1" event := by
  have runs : (run (callbackStep defaultConfig) (Scheduler.fresh { targetVersion := "1" })
      proberLaunched).next.map (fun s => (decide ((s.record "h1" .prober).state = .starting),
        (run (inputStep defaultConfig) s [.reregistered,
          .statusUpdate 200 { taskId := "quobyte-data-h1", state := .lost }]).next.isSome)) =
      some (true, true) := by decide +kernel
  obtain ⟨s, reachable, viewed⟩ := reachable_of_run runs
  obtain ⟨waits, continues⟩ := Prod.mk.inj viewed
  obtain ⟨middle, ran⟩ := Option.isSome_iff_exists.mp continues
  have starting := of_decide_eq_true waits
  have silent : ∀ input ∈ [Input.reregistered,
      .statusUpdate 200 { taskId := "quobyte-data-h1", state := .lost }],
      Silent (R := TextResources) (wideOffer "o3" "h1").hostname input := by
    intro input member
    simp only [List.mem_cons, List.not_mem_nil, or_false] at member
    rcases member with rfl | rfl
    · trivial
    · show statusTarget "quobyte-data-h1" ≠ _
      decide +kernel
  have blocked : _ ∧ ∀ event ∈ (inputStep defaultConfig middle
      (.offer 86400 (wideOffer "o3" "h1"))).out, ¬ LooksAfter "h1" event :=
    starting_prober_blocks starting silent ran 86400
  exact ⟨s, reachable, starting, middle, ran, blocked.2⟩

end QuobyteMesos.HostMachine
