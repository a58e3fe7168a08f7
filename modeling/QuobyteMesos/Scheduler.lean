import QuobyteMesos.Machine
import QuobyteMesos.Tasks
import Std.Data.ExtTreeMap.Lemmas

/-! The scheduler's state and callbacks, translated from `scheduler.cpp`.

A callback takes the state and returns the next one with the driver calls it
made, in order. `now()` is an argument: every offer of a batch is paired with
the clock reading under which the loop body handles it. Log output is left out.
`ParseFromString` belongs to the protocol buffer library, so a framework
message arrives as the response it parses to, or as nothing when it does not
parse. -/
namespace QuobyteMesos
open Mesos StdString Machine

/-! ## State -/

/-- The members of `QuobyteScheduler`; `state` is what the state proxy holds in
memory. -/
structure Scheduler where
  state : SchedulerState
  apiState : ServiceState := {}
  consoleState : ServiceState := {}
  s3State : ServiceState := {}
  nodes : Std.ExtTreeMap String NodeState := ∅

/-- A newly constructed scheduler over the recovered persistent state. -/
def Scheduler.fresh (state : SchedulerState) : Scheduler := { state := state }

/-- The records within reach while one host is handled: its node and the three
records the whole cluster shares. -/
structure Records where
  node : NodeState
  apiState : ServiceState
  consoleState : ServiceState
  s3State : ServiceState
  deriving DecidableEq, Repr

namespace Records

/-- The record of a service. -/
def service (records : Records) : ServiceKind → ServiceState
  | .prober => records.node.prober
  | .registry => records.node.registry
  | .metadata => records.node.metadata
  | .data => records.node.data
  | .api => records.apiState
  | .s3 => records.s3State
  | .webconsole => records.consoleState
  | .client => records.node.client

def setService (records : Records) (kind : ServiceKind) (service : ServiceState) : Records :=
  match kind with
  | .prober => { records with node := { records.node with prober := service } }
  | .registry => { records with node := { records.node with registry := service } }
  | .metadata => { records with node := { records.node with metadata := service } }
  | .data => { records with node := { records.node with data := service } }
  | .api => { records with apiState := service }
  | .s3 => { records with s3State := service }
  | .webconsole => { records with consoleState := service }
  | .client => { records with node := { records.node with client := service } }

variable {records : Records} {kind kind' : ServiceKind} {service : ServiceState}

@[simp] theorem service_setService_self :
    (records.setService kind service).service kind = service := by
  cases kind <;> rfl

@[simp] theorem service_setService_ne (other : kind' ≠ kind) :
    (records.setService kind service).service kind' = records.service kind' := by
  cases kind <;> cases kind' <;> first | rfl | exact absurd rfl other

@[simp] theorem setService_service : records.setService kind (records.service kind) = records := by
  cases kind <;> rfl

@[simp] theorem setService_deviceType :
    (records.setService kind service).node.deviceType = records.node.deviceType := by
  cases kind <;> rfl

end Records

namespace Scheduler

def records (s : Scheduler) (node : NodeState) : Records :=
  ⟨node, s.apiState, s.consoleState, s.s3State⟩

/-- Writing the records of a host back. -/
def store (s : Scheduler) (hostname : String) (records : Records) : Scheduler where
  state := s.state
  apiState := records.apiState
  consoleState := records.consoleState
  s3State := records.s3State
  nodes := s.nodes.insert hostname records.node

/-- The entry `createHost` makes for a host it has not seen. -/
def newNode (hostname slaveId : String) : NodeState :=
  { hostname := hostname, slaveIdValue := slaveId }

/-- An entry that exists is kept. -/
def createHost (s : Scheduler) (hostname slaveId : String) : Scheduler :=
  { s with nodes := s.nodes.insertIfNew hostname (newNode hostname slaveId) }

end Scheduler

/-! ## Classification -/

def isTerminal : TaskState → Bool
  | .staging | .starting | .running => false
  | .finished | .failed | .killed | .lost | .error => true

def shouldServiceBeStarted : ServiceState.TaskState → Bool
  | .starting | .running | .unknown => false
  | .notRunning => true

/-- The local counter of `doStartService`. -/
def coreServicesRunning (node : NodeState) : ℕ :=
  (if node.registry.state = .running then 1 else 0) +
    (if node.metadata.state = .running then 1 else 0) +
    (if node.data.state = .running then 1 else 0)

def doStartService (serviceType : ServiceKind) (node : NodeState)
    (state : ServiceState.TaskState) : Bool :=
  if !node.deviceTypesValid then
    false
  else if coreServicesRunning node ≠ node.deviceType.length ∧ serviceType ≠ .registry ∧
      serviceType ≠ .metadata ∧ serviceType ≠ .data then
    false
  else
    shouldServiceBeStarted state

/-- The pointer `getService` returns, as the service it points to; the names are
those in front of the host in a task id. -/
def getService (service : String) : Option ServiceKind :=
  if service = "quobyte-device-prober" then some .prober
  else if service = "quobyte-registry" then some .registry
  else if service = "quobyte-metadata" then some .metadata
  else if service = "quobyte-data" then some .data
  else if service = "quobyte-api" then some .api
  else if service = "quobyte-s3" then some .s3
  else if service = "quobyte-webconsole" then some .webconsole
  else if service = "quobyte-client" then some .client
  else none

/-- The id split at its last dash. A message, and with it the id, is shorter
than 2^31 bytes, so the `int` that holds the position is exact. -/
def splitTaskId (id : String) : Option (String × String) :=
  (rfind '-' id.toList).map fun pos =>
    (String.ofList (substr 0 pos id.toList), String.ofList (id.toList.drop (pos + 1)))

variable {R : Type} [Resources R]

/-! ## resourceOffers -/

/-- The task ids `reconcileHost` asks about, in its order. -/
def reconciledKinds : List ServiceKind :=
  [.prober, .registry, .metadata, .data, .webconsole, .api, .s3]

def reconcileHost (s : Scheduler) (offer : Offer R) : Scheduler × List (DriverCall R) :=
  (s.createHost offer.hostname offer.slaveId,
    [.reconcileTasks (reconciledKinds.map fun kind =>
      { taskId := taskId kind offer.hostname, state := .lost })])

/-- A restriction is looked up by substring search in the flag. -/
def ignoresHost (flags : Flags) (hostname : String) : Bool :=
  flags.restrictHosts ≠ "" && (find hostname.toList flags.restrictHosts.toList).isNone

def proberDue (flags : Flags) (now : Int) (node : NodeState) : Bool :=
  now - node.prober.lastSeenS > flags.probeExecutorKeepaliveIntervalS &&
    node.prober.state ≠ .running && node.prober.state ≠ .starting

def probeDue (flags : Flags) (now : Int) (node : NodeState) : Bool :=
  node.prober.state = .running && now - node.lastProbeS > flags.probeIntervalS

/-- The locals of the launch branch and the records it writes through. -/
structure LaunchRound (R : Type) where
  records : Records
  remainingResources : R
  tasksToStart : List (TaskInfo R) := []

namespace LaunchRound

/-- A task joins the list and its reservation is deducted. -/
def addTask (round : LaunchRound R) (task : TaskInfo R) (reserved : R) : LaunchRound R :=
  { round with
    remainingResources := Resources.sub round.remainingResources reserved
    tasksToStart := round.tasksToStart ++ [task] }

/-- The record of a launched service names its task. -/
def recordRunning (round : LaunchRound R) (kind : ServiceKind) (id : String) : LaunchRound R :=
  { round with
    records := round.records.setService kind
      { round.records.service kind with state := .running, taskId := id } }

end LaunchRound

section Launch

variable (config : Config R) (targetVersion : String) (offer : Offer R)

def onPublicSlave (flags : Flags) (remaining : R) : Bool :=
  flags.publicSlaveRole = "" || Resources.reserved remaining flags.publicSlaveRole > 0

/-- The branch shared by api, s3 and webconsole. -/
def startClusterService (kind : ServiceKind) (rpcPort httpPort : UInt16)
    (round : LaunchRound R) : Except Abort (LaunchRound R) :=
  if Resources.contains round.remainingResources (config.resources kind) &&
      doStartService kind round.records.node (round.records.service kind).state &&
      onPublicSlave config.flags round.remainingResources then
    (makeTask config targetVersion kind kind.taskName (taskId kind offer.hostname)
      offer.hostname rpcPort httpPort offer.slaveId).map fun task =>
      (round.addTask task (config.resources kind)).recordRunning kind (taskId kind offer.hostname)
  else
    .ok round

def startApi : LaunchRound R → Except Abort (LaunchRound R) :=
  startClusterService config targetVersion offer .api
    (toPort (config.flags.portRangeBase + 6)) (toPort (config.flags.portRangeBase + 7))

/-- Without a host name for s3 the branch is not entered. -/
def startS3 (round : LaunchRound R) : Except Abort (LaunchRound R) :=
  if config.flags.s3Hostname = "" then
    .ok round
  else
    startClusterService config targetVersion offer .s3
      (toPort (config.flags.portRangeBase + 10)) (toPort (config.flags.portRangeBase + 11)) round

def startWebconsole : LaunchRound R → Except Abort (LaunchRound R) :=
  startClusterService config targetVersion offer .webconsole
    (toPort (config.flags.portRangeBase + 8)) (toPort (config.flags.portRangeBase + 9))

/-- The client's task is built without resources; its reservation is deducted
all the same. -/
def startClient (round : LaunchRound R) : LaunchRound R :=
  if Resources.contains round.remainingResources (config.resources .client) &&
      doStartService .client round.records.node round.records.node.client.state &&
      round.records.node.clientMountPoint then
    (round.addTask
      { createClientTaskInfo config.flags with
        name := ServiceKind.client.taskName
        taskId := taskId .client offer.hostname
        slaveId := offer.slaveId }
      (config.resources .client)).recordRunning .client (taskId .client offer.hostname)
  else
    round

/-- The branch shared by registry, metadata and data. A launch leaves the record
as it is; missing resources leave a message. -/
def startCoreService (kind : ServiceKind) (rpcPort httpPort : UInt16)
    (round : LaunchRound R) : Except Abort (LaunchRound R) :=
  if doStartService kind round.records.node (round.records.service kind).state then
    if Resources.contains round.remainingResources (config.resources kind) then
      (makeTask config targetVersion kind kind.taskName (taskId kind offer.hostname)
        offer.hostname rpcPort httpPort offer.slaveId).map fun task =>
        round.addTask task (config.resources kind)
    else
      .ok { round with
        records := round.records.setService kind { round.records.service kind with
          lastMessage := "Could not start " ++ kind.serviceId ++ ": insufficient resources" } }
  else
    .ok round

/-- The body of the loop over the node's devices. -/
def startDevice (deviceType : DeviceType) (round : LaunchRound R) :
    Except Abort (LaunchRound R) :=
  match deviceType with
  | .registry => startCoreService config targetVersion offer .registry
      (toPort config.flags.portRangeBase) (toPort (config.flags.portRangeBase + 1)) round
  | .metadata => startCoreService config targetVersion offer .metadata
      (toPort (config.flags.portRangeBase + 2)) (toPort (config.flags.portRangeBase + 3)) round
  | .data => startCoreService config targetVersion offer .data
      (toPort (config.flags.portRangeBase + 4)) (toPort (config.flags.portRangeBase + 5)) round
  | .bootstrap | .client | .other _ => .ok round

def startDevices : List DeviceType → LaunchRound R → Except Abort (LaunchRound R)
  | [], round => .ok round
  | deviceType :: rest, round =>
    (startDevice config targetVersion offer deviceType round).bind (startDevices rest)

/-- The launch branch: the cluster services, the client, then every device. -/
def startServices (round : LaunchRound R) : Except Abort (LaunchRound R) :=
  (startApi config targetVersion offer round).bind fun round =>
    (startS3 config targetVersion offer round).bind fun round =>
      (startWebconsole config targetVersion offer round).bind fun round =>
        startDevices config targetVersion offer round.records.node.deviceType
          (startClient config offer round)

end Launch

def killServiceIfRunning (taskIdValue : String) (service : ServiceState) : List (DriverCall R) :=
  if service.state = .running then [.killTask taskIdValue] else []

/-- The shutdown branch, for the services and in the order the source lists. -/
def killServices (hostname : String) (records : Records) : List (DriverCall R) :=
  [ServiceKind.registry, .data, .metadata, .api, .s3, .webconsole].flatMap fun kind =>
    killServiceIfRunning (taskId kind hostname) (records.service kind)

/-- The prober branch, entered with enough resources. -/
def launchProber (config : Config R) (s : Scheduler) (now : Int) (offer : Offer R)
    (node : NodeState) : Except Abort (Scheduler × List (DriverCall R)) :=
  (createProberTaskInfo config.flags s.state.frameworkIdValue).map fun (task : TaskInfo R) =>
    (s.store offer.hostname (s.records
      { node with prober := { node.prober with state := .starting, lastUpdateS := now } }),
      [.launchTasks offer.id [{ task with
        name := ServiceKind.prober.taskName
        taskId := taskId .prober offer.hostname
        slaveId := offer.slaveId
        resources := config.resources .prober }]])

/-- The probe branch: ask the executor for the devices and reconcile the host. -/
def triggerProbe (config : Config R) (s : Scheduler) (now : Int) (offer : Offer R)
    (node : NodeState) : Scheduler × List (DriverCall R) :=
  let (s, reconciled) := reconcileHost
    (s.store offer.hostname (s.records { node with lastProbeS := now })) offer
  (s, .sendFrameworkMessage (kExecutorId ++ s.state.frameworkIdValue) offer.slaveId
      { clientDirectory := config.flags.clientMountPoint } ::
    reconciled ++ [.declineOffer offer.id])

/-- The launch branch with the answer to the offer. -/
def launchServices (config : Config R) (s : Scheduler) (offer : Offer R) (node : NodeState) :
    Except Abort (Scheduler × List (DriverCall R)) :=
  (startServices config s.state.targetVersion offer
    { records := s.records node, remainingResources := offer.resources }).map fun round =>
    (s.store offer.hostname round.records,
      if round.tasksToStart ≠ [] then [.launchTasks offer.id round.tasksToStart]
      else [.declineOffer offer.id])

/-- An offer of a host that is known and not restricted. -/
def handleKnownHost (config : Config R) (s : Scheduler) (now : Int) (offer : Offer R)
    (node : NodeState) : Except Abort (Scheduler × List (DriverCall R)) :=
  if proberDue config.flags now node &&
      Resources.contains offer.resources (config.resources .prober) then
    launchProber config s now offer node
  else if probeDue config.flags now node then
    .ok (triggerProbe config s now offer node)
  else if s.state.targetVersion ≠ "" then
    launchServices config s offer node
  else
    .ok (s.store offer.hostname (s.records node),
      killServices offer.hostname (s.records node) ++ [.declineOffer offer.id])

/-- The body of the loop over the offers. -/
def handleOffer (config : Config R) (s : Scheduler) (now : Int) (offer : Offer R) :
    Except Abort (Scheduler × List (DriverCall R)) :=
  if ignoresHost config.flags offer.hostname then
    .ok (s, [.declineOffer offer.id])
  else
    match s.nodes[offer.hostname]? with
    | none =>
      let (s, reconciled) := reconcileHost s offer
      .ok (s, reconciled ++ [.declineOffer offer.id])
    | some node => handleKnownHost config s now offer { node with lastOfferS := now }

/-- An abort ends the process; the calls of the offer it happened in come last in
every branch and are not reached. -/
def offerOutcome : Except Abort (Scheduler × List (DriverCall R)) → Outcome Scheduler (DriverCall R)
  | .ok (s, calls) => ⟨some s, calls⟩
  | .error _ => ⟨none, []⟩

def resourceOffers (config : Config R) (s : Scheduler) (offers : List (Int × Offer R)) :
    Outcome Scheduler (DriverCall R) :=
  run (fun s offer => offerOutcome (handleOffer config s offer.1 offer.2)) s offers

/-! ## statusUpdate -/

/-- Whether the node still has what the service needs; only looked at once the
devices are known. -/
def deviceMissing (node : NodeState) : ServiceKind → Bool
  | .registry => !node.deviceType.contains .registry
  | .metadata => !node.deviceType.contains .metadata
  | .data => !node.deviceType.contains .data
  | .client => !node.clientMountPoint
  | .prober | .api | .s3 | .webconsole => false

/-- `service_should_run`: no second instance of a cluster service, and no
service without its device. -/
def serviceShouldRun (records : Records) (kind : ServiceKind) (status : TaskStatus) : Bool :=
  !((kind = .api || kind = .webconsole || kind = .s3) &&
    (records.service kind).state = .running && (records.service kind).taskId ≠ status.taskId) &&
  !(records.node.deviceTypesValid && deviceMissing records.node kind)

/-- The update is taken over when the record names its task, or none. -/
def acceptsUpdate (service : ServiceState) (status : TaskStatus) : Bool :=
  status.taskId = service.taskId || service.taskId = ""

/-- What a running or finished task makes of its record. -/
def recordSeen (now : Int) (status : TaskStatus) (service : ServiceState) : ServiceState :=
  { service with
    state := .running, lastUpdateS := now, lastSeenS := now
    lastMessage := status.message, taskId := status.taskId }

/-- What any other terminal task makes of its record. -/
def recordTerminated (now : Int) (status : TaskStatus) (service : ServiceState) : ServiceState :=
  { service with
    state := .notRunning, lastUpdateS := now, lastMessage := status.message, taskId := "" }

/-- The two branches that compare the update with the record. -/
def updateService (now : Int) (status : TaskStatus) (kind : ServiceKind) (records : Records) :
    Records × List (DriverCall R) :=
  let service := records.service kind
  if status.state = .running ∨ status.state = .finished then
    if !serviceShouldRun records kind status then
      (records, [.killTask status.taskId])
    else if acceptsUpdate service status then
      (records.setService kind (recordSeen now status service), [])
    else
      (records, [])
  else if isTerminal status.state && acceptsUpdate service status then
    (records.setService kind (recordTerminated now status service), [])
  else
    (records, [])

/-- The version label of an update, empty when it has none. -/
def labelledVersion (status : TaskStatus) : String :=
  ((status.labels.find? (·.key = kDockerImageVersion)).map Label.value).getD ""

/-- The version check that ends `statusUpdate`. A version mismatch is only
logged. -/
def checkVersion (state : SchedulerState) (kind : ServiceKind) (status : TaskStatus) :
    List (DriverCall R) :=
  if kind = .prober || isTerminal status.state then
    []
  else if state.targetVersion = "" then
    [.killTask status.taskId]
  else if labelledVersion status ≠ "" && labelledVersion status ≠ state.targetVersion then
    []
  else
    []

/-- The entry of the host, created if there is none. -/
def findOrCreate (s : Scheduler) (hostname slaveId : String) : Scheduler × NodeState :=
  match s.nodes[hostname]? with
  | some node => (s, node)
  | none => (s.createHost hostname slaveId, Scheduler.newNode hostname slaveId)

def statusUpdate (s : Scheduler) (now : Int) (status : TaskStatus) :
    Scheduler × List (DriverCall R) :=
  match splitTaskId status.taskId with
  | none => (s, [])
  | some (service, hostname) =>
    let (s, node) := findOrCreate s hostname status.slaveId
    match getService service with
    | none => (s, [])
    | some kind =>
      let (records, kills) := updateService now status kind (s.records node)
      (s.store hostname records, kills ++ checkVersion s.state kind status)

/-! ## The other callbacks -/

/-- Every node of the agent takes over the devices of a response that parses. -/
def frameworkMessage (s : Scheduler) (now : Int) (slaveId : String)
    (data : Option ProbeResponse) : Scheduler :=
  match data with
  | none => s
  | some response =>
    { s with nodes := s.nodes.map fun _ node =>
        if node.slaveIdValue = slaveId then
          { node with
            deviceType := response.deviceType
            clientMountPoint := response.clientMountPoint
            prober := { node.prober with lastSeenS := now }
            deviceTypesValid := true }
        else
          node }

def setFrameworkId (s : Scheduler) (id : String) : Scheduler :=
  { s with state := { s.state with frameworkIdValue := id } }

def setTargetVersion (s : Scheduler) (version : String) : Scheduler :=
  { s with state := { s.state with targetVersion := version } }

/-- An empty list asks the master about every task it knows. -/
def registered (s : Scheduler) (frameworkId : String) : Scheduler × List (DriverCall R) :=
  (setFrameworkId s frameworkId, [.reconcileTasks []])

def reregistered (s : Scheduler) : Scheduler × List (DriverCall R) :=
  (s, [.reconcileTasks []])

end QuobyteMesos
