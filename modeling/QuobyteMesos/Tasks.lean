import QuobyteMesos.Messages
import QuobyteMesos.Resources

/-! The flags of the scheduler, the reservations its constructor parses from
them, and the tasks it builds: `constructDockerExecuteCommand`, `makeTask` and
the two constructors for the prober and the client.

Three checks end the process while a task is being built: a missing framework
image, a missing registry name (both `LOG_IF(FATAL, ..)`), and the
`std::out_of_range` that `memMbFromResourceString` lets escape. -/
namespace QuobyteMesos
open Mesos StdString

/-- The flags the modelled functions read, with their defaults. -/
structure Flags where
  probeIntervalS : Int := 120
  probeExecutorKeepaliveIntervalS : Int := 60
  restrictHosts : String := ""
  dockerImage : String := ""
  registryDnsName : String := "_registry._tcp.quobyte"
  mesosDnsDomain : String := ".mesos"
  registryResources : String := "cpus:1.0;mem:2084;disk:32"
  metadataResources : String := "cpus:2.0;mem:8192;disk:32"
  dataResources : String := "cpus:4.0;mem:4096;disk:32"
  proberResources : String := "cpus:0.1;mem:256;disk:150"
  clientResources : String := "cpus:2.0;mem:2048;disk:150"
  apiResources : String := "cpus:0.1;mem:512;disk:32"
  s3Resources : String := "cpus:1.0;mem:512;disk:32"
  webconsoleResources : String := "cpus:0.5;mem:512;disk:32"
  extraServiceConfig : String := ""
  serviceDebugPort : Int := -1
  registryExtraRamMb : Int := 512
  metadataExtraRamMb : Int := 1024
  s3ExtraRamMb : Int := 1536
  enableAssertions : Bool := false
  hostDeviceDirectory : String := "/mnt"
  portRangeBase : Int := 21000
  apiPort : Int := 8889
  s3Port : Int := 80
  s3Hostname : String := ""
  webconsolePort : Int := 8888
  frameworkImage : String := "quobyte/quobyte-mesos:latest"
  clientImage : String := ""
  publicSlaveRole : String := ""
  autodetectServiceIp : Bool := true
  clientMountPoint : String := ""
  deriving DecidableEq, Repr

/-- The eight services, named `PROBER_TASK` to `CLIENT_TASK` in the source. -/
inductive ServiceKind where
  | prober
  | registry
  | metadata
  | data
  | api
  | s3
  | webconsole
  | client
  deriving DecidableEq, Repr

namespace ServiceKind

def serviceId : ServiceKind → String
  | prober => "prober"
  | registry => "registry"
  | metadata => "metadata"
  | data => "data"
  | api => "api"
  | s3 => "s3"
  | webconsole => "webconsole"
  | client => "client"

/-- The name of the service's tasks and the first part of their ids. -/
def taskName : ServiceKind → String
  | prober => "quobyte-device-prober"
  | registry => "quobyte-registry"
  | metadata => "quobyte-metadata"
  | data => "quobyte-data"
  | api => "quobyte-api"
  | s3 => "quobyte-s3"
  | webconsole => "quobyte-webconsole"
  | client => "quobyte-client"

/-- The services whose record the whole cluster shares. -/
def clusterWide : ServiceKind → Bool
  | api | s3 | webconsole => true
  | prober | registry | metadata | data | client => false

/-- The core services, each started for a device of its type. -/
def core : ServiceKind → Bool
  | registry | metadata | data => true
  | prober | api | s3 | webconsole | client => false

/-- Core services are recorded host by host. -/
theorem clusterWide_of_core {kind : ServiceKind} (isCore : kind.core = true) :
    kind.clusterWide = false := by
  cases kind <;> cases isCore <;> rfl

end ServiceKind

/-- The id every launch and every reconciliation builds for a service on a host. -/
def taskId (kind : ServiceKind) (hostname : String) : String :=
  kind.taskName ++ "-" ++ hostname

/-! ## Reservations -/

/-- The conversion of an `int` flag to the `uint16_t` of a port parameter. -/
def toPort (value : Int) : UInt16 := UInt16.ofInt value

def buildResourceString (rpcPort httpPort extraPort : UInt16) : String :=
  "ports:[" ++ toString rpcPort ++ "-" ++ toString rpcPort ++ "," ++
    toString httpPort ++ "-" ++ toString httpPort ++
    (if extraPort ≠ 0 then "," ++ toString extraPort ++ "-" ++ toString extraPort else "") ++ "]"

/-- The port beside RPC and HTTP that a service reserves; zero stands for none. -/
def extraPort (flags : Flags) : ServiceKind → UInt16
  | .api => toPort flags.apiPort
  | .webconsole => toPort flags.webconsolePort
  | .s3 => toPort flags.s3Port
  | .prober | .registry | .metadata | .data | .client => 0

variable {R : Type} [Resources R]

def prepareServiceResources (flags : Flags) (serviceId : ServiceKind) (rpcPort httpPort : UInt16)
    (sysResources : String) : Option R :=
  Resources.parse (sysResources ++ ";" ++
    buildResourceString rpcPort httpPort (extraPort flags serviceId))

/-- What the constructor stores in `resources_`. The s3 service reserves the
resources of the webconsole flag, as the source does. -/
def serviceResources (flags : Flags) : ServiceKind → Option R
  | .registry => prepareServiceResources flags .registry
      (toPort flags.portRangeBase) (toPort (flags.portRangeBase + 1)) flags.registryResources
  | .metadata => prepareServiceResources flags .metadata
      (toPort (flags.portRangeBase + 2)) (toPort (flags.portRangeBase + 3)) flags.metadataResources
  | .data => prepareServiceResources flags .data
      (toPort (flags.portRangeBase + 4)) (toPort (flags.portRangeBase + 5)) flags.dataResources
  | .api => prepareServiceResources flags .api
      (toPort (flags.portRangeBase + 6)) (toPort (flags.portRangeBase + 7)) flags.apiResources
  | .webconsole => prepareServiceResources flags .webconsole
      (toPort (flags.portRangeBase + 8)) (toPort (flags.portRangeBase + 9)) flags.webconsoleResources
  | .s3 => prepareServiceResources flags .s3
      (toPort (flags.portRangeBase + 10)) (toPort (flags.portRangeBase + 11)) flags.webconsoleResources
  | .prober => Resources.parse flags.proberResources
  | .client => Resources.parse flags.clientResources

/-- The ports a reservation lists in its text. -/
def listedPorts (flags : Flags) : ServiceKind → List UInt16
  | .registry => [toPort flags.portRangeBase, toPort (flags.portRangeBase + 1)]
  | .metadata => [toPort (flags.portRangeBase + 2), toPort (flags.portRangeBase + 3)]
  | .data => [toPort (flags.portRangeBase + 4), toPort (flags.portRangeBase + 5)]
  | .api => [toPort (flags.portRangeBase + 6), toPort (flags.portRangeBase + 7)]
  | .webconsole => [toPort (flags.portRangeBase + 8), toPort (flags.portRangeBase + 9)]
  | .s3 => [toPort (flags.portRangeBase + 10), toPort (flags.portRangeBase + 11)]
  | .prober | .client => []

/-- The flags together with the reservations parsed from them; the field
`prepared` says that the constructor went through. -/
structure Config (R : Type) [Resources R] where
  flags : Flags
  resources : ServiceKind → R
  prepared : ∀ kind, serviceResources flags kind = some (resources kind)

/-- A parsed reservation holds the ports its text lists. -/
def Config.HoldsListedPorts [ScalarPorts R] (config : Config R) : Prop :=
  ∀ kind, ∀ port ∈ listedPorts config.flags kind,
    port.toNat ∈ ScalarPorts.ports (config.resources kind)

/-! ## Commands -/

/-- The ways a callback ends the process. -/
inductive Abort where
  | missingFrameworkImage
  | missingRegistryDnsName
  | numberOutOfRange
  deriving DecidableEq, Repr

/-- The integer after the first "mem" of a resource string, `-1` when there is
none; only `std::invalid_argument` is caught. -/
def memMbFromResourceString (resourceString : String) : Except Abort Int :=
  let text := resourceString.toList
  match find "mem".toList text with
  | none => .ok (-1)
  | some memIdx =>
    let memStart := substr memIdx text.length text
    let memEndIdx := (find [';'] memStart).getD (memStart.length - 1)
    let mem := substr 0 memEndIdx memStart
    -- `find(":") + 1` wraps around to zero when there is no colon
    let memValIdx := ((find [':'] mem).map (· + 1)).getD 0
    match stoi (substr memValIdx mem.length mem) with
    | .ok value => .ok value
    | .error .invalidArgument => .ok (-1)
    | .error .outOfRange => .error .numberOutOfRange

/-- One `QUOBYTE_MAX_MEM_*` export. Both operands are `int32_t`; an overflow, which
the language leaves undefined, is taken to wrap around. -/
def memoryExport (suffix resourceString : String) (extraRamMb : Int) : Except Abort String :=
  (memMbFromResourceString resourceString).map fun mem =>
    " && export QUOBYTE_MAX_MEM_" ++ suffix ++ "=" ++ toString (int32 (mem - extraRamMb)) ++ "m"

/-- The memory settings of a service, followed for s3 by its host name. -/
def memoryExports (flags : Flags) (serviceName : String) : Except Abort String :=
  if serviceName = "registry" then
    memoryExport "REGISTRY" flags.registryResources flags.registryExtraRamMb
  else if serviceName = "metadata" then
    memoryExport "METADATA" flags.metadataResources flags.metadataExtraRamMb
  else if serviceName = "data" then
    memoryExport "DATA" flags.dataResources 0
  else if serviceName = "api" then
    memoryExport "API" flags.apiResources 0
  else if serviceName = "s3" then
    (memoryExport "S3" flags.s3Resources flags.s3ExtraRamMb).map
      (· ++ " && export QUOBYTE_S3_HOSTNAME=" ++ flags.s3Hostname)
  else if serviceName = "webconsole" then
    memoryExport "WEBCONSOLE" flags.webconsoleResources 0
  else
    .ok ""

/-- The port export of the three services with a port of their own. -/
def ownPortExport (flags : Flags) (serviceName : String) : String :=
  if serviceName = "api" then " && export QUOBYTE_API_PORT=" ++ toString flags.apiPort
  else if serviceName = "s3" then " && export QUOBYTE_S3_PORT=" ++ toString flags.s3Port
  else if serviceName = "webconsole" then
    " && export QUOBYTE_WEBCONSOLE_PORT=" ++ toString flags.webconsolePort
  else ""

def constructDockerExecuteCommand (flags : Flags) (serviceName hostName : String)
    (rpcPort httpPort : ℕ) : Except Abort String :=
  if flags.registryDnsName = "" then
    .error .missingRegistryDnsName
  else
    (memoryExports flags serviceName).map fun memory =>
      "export QUOBYTE_SERVICE=" ++ serviceName ++
      " && export QUOBYTE_REGISTRY=" ++ flags.registryDnsName ++ flags.mesosDnsDomain ++
      (if rpcPort ≠ 0 then " && export QUOBYTE_RPC_PORT=" ++ toString rpcPort
        else " && export QUOBYTE_RPC_PORT=$PORT0") ++
      (if httpPort ≠ 0 then " && export QUOBYTE_HTTP_PORT=" ++ toString httpPort
        else " && export QUOBYTE_HTTP_PORT=$PORT1") ++
      ownPortExport flags serviceName ++
      memory ++
      " && export DIG_LOOKUP=$(dig +short " ++ hostName ++ ")" ++
      (if flags.autodetectServiceIp then ""
        else " && export HOST_IP=$\x7bDIG_LOOKUP:-" ++ hostName ++ "\x7d") ++
      (if flags.extraServiceConfig = "" then ""
        else " && export QUOBYTE_EXTRA_SERVICE_CONFIG=" ++ flags.extraServiceConfig) ++
      (if flags.serviceDebugPort = -1 then ""
        else " && export QUOBYTE_DEBUG_PORT=" ++ toString flags.serviceDebugPort) ++
      (if flags.enableAssertions then " && export QUOBYTE_ENABLE_ASSERTIONS=true" else "") ++
      " && /opt/main.sh"

/-! ## Tasks -/

def createQbContainerInfo (flags : Flags) (docker : DockerInfo) : ContainerInfo where
  volumes := [⟨"/devices", flags.hostDeviceDirectory, true⟩]
  docker := docker

/-- The host's network is used: bridge networking is not compiled in. -/
def createQbDockerInfo (dockerImage : String) : DockerInfo where
  privileged := true
  hostNetwork := true
  image := dockerImage

def kExecutorId : String := "quobyte-mesos-prober-"

def kDockerImageVersion : String := "docker_image_version"

/-- The prober task before its caller fills in name, id, agent and resources. -/
def createProberTaskInfo (flags : Flags) (frameworkId : String) : Except Abort (TaskInfo R) :=
  if flags.frameworkImage = "" then
    .error .missingFrameworkImage
  else
    .ok {
      name := "", taskId := "", slaveId := "", resources := Resources.empty
      executor := some {
        executorId := kExecutorId ++ frameworkId
        source := "quobyte"
        container := createQbContainerInfo flags (createQbDockerInfo flags.frameworkImage)
        command := {
          value := "LD_LIBRARY_PATH=/opt MESOS_SLAVE_ID=$MESOS_SLAVE_ID /opt/quobyte-mesos-executor"
          shell := true } } }

/-- The client task before its caller fills in name, id and agent. -/
def createClientTaskInfo (flags : Flags) : TaskInfo R where
  name := ""
  taskId := ""
  slaveId := ""
  resources := Resources.empty
  container := some {
    volumes := [⟨"/quobyte", flags.hostDeviceDirectory, true⟩]
    docker := { createQbDockerInfo flags.clientImage with
      parameters := [⟨"e", "QUOBYTE_REGISTRY=" ++ flags.registryDnsName ++ flags.mesosDnsDomain⟩] } }

/-- The task of a service that runs the Quobyte image at the target version. -/
def makeTask (config : Config R) (targetVersion : String) (serviceId : ServiceKind)
    (name taskId hostName : String) (rpcPort httpPort : UInt16) (slaveId : String) :
    Except Abort (TaskInfo R) :=
  (constructDockerExecuteCommand config.flags serviceId.serviceId hostName
    rpcPort.toNat httpPort.toNat).map fun command =>
    { name := name
      taskId := taskId
      slaveId := slaveId
      resources := config.resources serviceId
      container := some (createQbContainerInfo config.flags
        (createQbDockerInfo (config.flags.dockerImage ++ ":" ++ targetVersion)))
      command := some ⟨command, true⟩
      labels := [⟨kDockerImageVersion, targetVersion⟩]
      discovery := some {
        name := serviceId.serviceId
        version := targetVersion
        labels := [⟨kDockerImageVersion, targetVersion⟩]
        ports := [⟨rpcPort, "rpc", "tcp"⟩] } }

/-! ### What a built task carries -/

/-- A task built by `makeTask` carries the id, the agent and the reservation it
was asked for. -/
theorem makeTask_fields {config : Config R} {targetVersion name id hostName slaveId : String}
    {kind : ServiceKind} {rpcPort httpPort : UInt16} {task : TaskInfo R}
    (built : makeTask config targetVersion kind name id hostName rpcPort httpPort slaveId = .ok task) :
    task.taskId = id ∧ task.slaveId = slaveId ∧ task.resources = config.resources kind := by
  unfold makeTask at built
  cases command : constructDockerExecuteCommand config.flags kind.serviceId hostName
      rpcPort.toNat httpPort.toNat with
  | error abort =>
    rw [command] at built
    cases built
  | ok text =>
    rw [command] at built
    cases built
    exact ⟨rfl, rfl, rfl⟩

/-- The flags with which no callback ends the process: the framework image and
the registry name are set, and the memory figures are numbers that fit. -/
def Flags.Complete (flags : Flags) : Prop :=
  flags.frameworkImage ≠ "" ∧ flags.registryDnsName ≠ "" ∧
    ∀ kind : ServiceKind, ∃ memory, memoryExports flags kind.serviceId = .ok memory

theorem makeTask_total {config : Config R} (complete : config.flags.Complete)
    (targetVersion name id hostName slaveId : String) (kind : ServiceKind)
    (rpcPort httpPort : UInt16) :
    ∃ task, makeTask config targetVersion kind name id hostName rpcPort httpPort slaveId =
      .ok task := by
  obtain ⟨memory, fits⟩ := complete.2.2 kind
  simp [makeTask, constructDockerExecuteCommand, complete.2.1, fits, Except.map]

/-! ### Task ids -/

theorem taskId_ne_empty (kind : ServiceKind) (hostname : String) : taskId kind hostname ≠ "" := by
  simp [taskId]

/-- An id belongs to one service on one host: no service name followed by a dash
starts another. -/
theorem taskId_injective {kind kind' : ServiceKind} {hostname hostname' : String}
    (same : taskId kind hostname = taskId kind' hostname') : kind = kind' ∧ hostname = hostname' := by
  have letters := congrArg String.toList same
  cases kind <;> cases kind' <;>
    simp [taskId, ServiceKind.taskName] at letters ⊢ <;> exact String.toList_inj.mp letters

end QuobyteMesos
