import Mathlib.Data.List.Basic

/-! The messages of the framework: its own protocol buffers and the part of the
Mesos messages it reads and fills in. Optional fields carry their protocol
buffer defaults; serialization is left to the libraries on both sides. -/
namespace QuobyteMesos

/-! ## quobyte.proto -/

/-- The persistent state; an empty target version asks for a shutdown. -/
structure SchedulerState where
  frameworkIdValue : String := ""
  targetVersion : String := ""
  deriving DecidableEq, Repr

/-- The repeated field holds plain numbers. The parser sets one that the
enumeration does not name aside; it is `other` all the same, so that nothing
rests on the parser. -/
inductive DeviceType where
  | bootstrap
  | registry
  | metadata
  | data
  | client
  | other (number : Int)
  deriving DecidableEq, Repr

structure ProbeRequest where
  clientDirectory : String := ""
  initializePath : String := ""
  deriving DecidableEq, Repr

structure ProbeResponse where
  deviceType : List DeviceType := []
  clientMountPoint : Bool := false
  deriving DecidableEq, Repr

/-- `ServiceState_TaskState`; the schema comments ask to reconcile an unknown
service and to start one that is not running. -/
inductive ServiceState.TaskState where
  | unknown
  | notRunning
  | starting
  | running
  deriving DecidableEq, Repr

/-- What the scheduler remembers of one service. -/
structure ServiceState where
  state : ServiceState.TaskState := .unknown
  lastUpdateS : Int := 0
  lastSeenS : Int := 0
  lastMessage : String := ""
  taskId : String := ""
  deriving DecidableEq, Repr

/-- What the scheduler remembers of one host. -/
structure NodeState where
  hostname : String := ""
  slaveIdValue : String := ""
  prober : ServiceState := {}
  registry : ServiceState := {}
  metadata : ServiceState := {}
  data : ServiceState := {}
  client : ServiceState := {}
  deviceType : List DeviceType := []
  clientMountPoint : Bool := false
  deviceTypesValid : Bool := false
  lastProbeS : Int := 0
  lastOfferS : Int := 0
  deriving DecidableEq, Repr

/-! ## Mesos -/

namespace Mesos

/-- The task states the framework can be sent; later additions of Mesos go to
frameworks that opt in, which this one does not. -/
inductive TaskState where
  | staging
  | starting
  | running
  | finished
  | failed
  | killed
  | lost
  | error
  deriving DecidableEq, Repr

structure Label where
  key : String
  value : String
  deriving DecidableEq, Repr

structure TaskStatus where
  taskId : String
  state : TaskState
  slaveId : String := ""
  message : String := ""
  labels : List Label := []
  deriving DecidableEq, Repr

/-- An offer of one agent; `R` is the type of its resources. -/
structure Offer (R : Type) where
  id : String
  hostname : String
  slaveId : String
  resources : R
  deriving DecidableEq, Repr

structure Volume where
  containerPath : String
  hostPath : String
  readWrite : Bool
  deriving DecidableEq, Repr

structure DockerInfo where
  privileged : Bool
  hostNetwork : Bool
  image : String
  parameters : List Label := []
  deriving DecidableEq, Repr

/-- Every container of the framework is a Docker container. -/
structure ContainerInfo where
  volumes : List Volume := []
  docker : DockerInfo
  deriving DecidableEq, Repr

structure CommandInfo where
  value : String
  shell : Bool
  deriving DecidableEq, Repr

structure ExecutorInfo where
  executorId : String
  source : String
  container : ContainerInfo
  command : CommandInfo
  deriving DecidableEq, Repr

structure Port where
  number : UInt16
  name : String
  protocol : String
  deriving DecidableEq, Repr

/-- Discovery information, always of external visibility. -/
structure DiscoveryInfo where
  name : String
  version : String
  labels : List Label := []
  ports : List Port := []
  deriving DecidableEq, Repr

structure TaskInfo (R : Type) where
  name : String
  taskId : String
  slaveId : String
  resources : R
  executor : Option ExecutorInfo := none
  container : Option ContainerInfo := none
  command : Option CommandInfo := none
  labels : List Label := []
  discovery : Option DiscoveryInfo := none
  deriving DecidableEq, Repr

/-- The calls the scheduler makes on its driver. -/
inductive DriverCall (R : Type) where
  | launchTasks (offerId : String) (tasks : List (TaskInfo R))
  | declineOffer (offerId : String)
  | killTask (taskId : String)
  | reconcileTasks (statuses : List TaskStatus)
  | sendFrameworkMessage (executorId slaveId : String) (data : ProbeRequest)
  deriving DecidableEq, Repr

/-- The offer a call uses up, if any. -/
def DriverCall.consumed {R : Type} : DriverCall R → Option String
  | .launchTasks offerId _ => some offerId
  | .declineOffer offerId => some offerId
  | .killTask _ | .reconcileTasks _ | .sendFrameworkMessage .. => none

/-- The task ids a call starts. -/
def DriverCall.launched {R : Type} : DriverCall R → List String
  | .launchTasks _ tasks => tasks.map TaskInfo.taskId
  | .declineOffer _ | .killTask _ | .reconcileTasks _ | .sendFrameworkMessage .. => []

end Mesos

end QuobyteMesos
