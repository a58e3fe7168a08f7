import QuobyteMesos.SchedulerSteps

/-! The command of a launched service as the settings it exports.

`constructDockerExecuteCommand` writes one text. `settings` lists what that text
exports, numbers as numbers, and `command_settings` says that the text is the
list written out. `launched_made` ties every task of an offer to the call of
`makeTask` behind it, with the ports that the launch branch passes; these are
the ports the constructor has reserved. -/
namespace QuobyteMesos.TaskSettings
open Mesos StdString LaunchSteps SchedulerSteps

variable {R : Type} [Resources R] {config : Config R} {flags : Flags} {s s' : Scheduler}
variable {now : Int} {offer : Offer R} {kind : ServiceKind} {task : TaskInfo R}
variable {round round' : LaunchRound R} {targetVersion : String}

/-! ### Ports and memory of a service -/

/-- The services whose tasks `makeTask` builds. -/
def byMakeTask : ServiceKind → Bool
  | .registry | .metadata | .data | .api | .s3 | .webconsole => true
  | .prober | .client => false

/-- The RPC port the launch of a service passes. -/
def rpcPort (flags : Flags) : ServiceKind → UInt16
  | .registry => toPort flags.portRangeBase
  | .metadata => toPort (flags.portRangeBase + 2)
  | .data => toPort (flags.portRangeBase + 4)
  | .api => toPort (flags.portRangeBase + 6)
  | .webconsole => toPort (flags.portRangeBase + 8)
  | .s3 => toPort (flags.portRangeBase + 10)
  | .prober | .client => 0

/-- The HTTP port the launch of a service passes. -/
def httpPort (flags : Flags) : ServiceKind → UInt16
  | .registry => toPort (flags.portRangeBase + 1)
  | .metadata => toPort (flags.portRangeBase + 3)
  | .data => toPort (flags.portRangeBase + 5)
  | .api => toPort (flags.portRangeBase + 7)
  | .webconsole => toPort (flags.portRangeBase + 9)
  | .s3 => toPort (flags.portRangeBase + 11)
  | .prober | .client => 0

/-- Where a command takes its memory limit from: the setting exported, the
resource flag read for it, and what is kept back. -/
structure MemorySource where
  setting : String
  resources : String
  extraRamMb : Int

def memorySource (flags : Flags) : ServiceKind → Option MemorySource
  | .registry => some ⟨"QUOBYTE_MAX_MEM_REGISTRY", flags.registryResources, flags.registryExtraRamMb⟩
  | .metadata => some ⟨"QUOBYTE_MAX_MEM_METADATA", flags.metadataResources, flags.metadataExtraRamMb⟩
  | .data => some ⟨"QUOBYTE_MAX_MEM_DATA", flags.dataResources, 0⟩
  | .api => some ⟨"QUOBYTE_MAX_MEM_API", flags.apiResources, 0⟩
  | .s3 => some ⟨"QUOBYTE_MAX_MEM_S3", flags.s3Resources, flags.s3ExtraRamMb⟩
  | .webconsole => some ⟨"QUOBYTE_MAX_MEM_WEBCONSOLE", flags.webconsoleResources, 0⟩
  | .prober | .client => none

/-! ### Settings -/

/-- The value of a setting. -/
inductive SettingValue where
  | text (value : String)
  | number (value : Int)
  | megabytes (value : Int)
  deriving DecidableEq, Repr

def SettingValue.render : SettingValue → String
  | .text value => value
  | .number value => toString value
  | .megabytes value => toString value ++ "m"

structure Setting where
  name : String
  value : SettingValue
  deriving DecidableEq, Repr

/-- The exports of a list of settings, each behind a separator. -/
def exports : List Setting → String
  | [] => ""
  | setting :: settings =>
    " && export " ++ setting.name ++ "=" ++ setting.value.render ++ exports settings

/-- A service port: zero leaves it to Mesos, which sets the shell's variable. -/
def portSetting (name mesosPort : String) (port : ℕ) : Setting :=
  ⟨name, if port ≠ 0 then .number port else .text mesosPort⟩

/-- The port of the three services with a port of their own. -/
def ownPortSetting (flags : Flags) : ServiceKind → List Setting
  | .api => [⟨"QUOBYTE_API_PORT", .number flags.apiPort⟩]
  | .s3 => [⟨"QUOBYTE_S3_PORT", .number flags.s3Port⟩]
  | .webconsole => [⟨"QUOBYTE_WEBCONSOLE_PORT", .number flags.webconsolePort⟩]
  | .prober | .registry | .metadata | .data | .client => []

def portSettings (flags : Flags) (kind : ServiceKind) (rpcPort httpPort : ℕ) : List Setting :=
  [portSetting "QUOBYTE_RPC_PORT" "$PORT0" rpcPort] ++
  [portSetting "QUOBYTE_HTTP_PORT" "$PORT1" httpPort] ++
  ownPortSetting flags kind

/-- The memory limit, followed for s3 by its host name. -/
def memorySettings (flags : Flags) (kind : ServiceKind) (source : MemorySource) (memory : Int) :
    List Setting :=
  [⟨source.setting, .megabytes memory⟩] ++
  if kind = .s3 then [⟨"QUOBYTE_S3_HOSTNAME", .text flags.s3Hostname⟩] else []

/-- The settings behind the memory limit. -/
def hostSettings (flags : Flags) (hostName : String) : List Setting :=
  [⟨"DIG_LOOKUP", .text ("$(dig +short " ++ hostName ++ ")")⟩] ++
  (if flags.autodetectServiceIp then []
    else [⟨"HOST_IP", .text ("$\x7bDIG_LOOKUP:-" ++ hostName ++ "\x7d")⟩]) ++
  (if flags.extraServiceConfig = "" then []
    else [⟨"QUOBYTE_EXTRA_SERVICE_CONFIG", .text flags.extraServiceConfig⟩]) ++
  (if flags.serviceDebugPort = -1 then []
    else [⟨"QUOBYTE_DEBUG_PORT", .number flags.serviceDebugPort⟩]) ++
  (if flags.enableAssertions then [⟨"QUOBYTE_ENABLE_ASSERTIONS", .text "true"⟩] else [])

/-- Everything the command of a service exports, `memory` being its limit. -/
def settings (flags : Flags) (kind : ServiceKind) (source : MemorySource) (memory : Int)
    (hostName : String) (rpcPort httpPort : ℕ) : List Setting :=
  [⟨"QUOBYTE_REGISTRY", .text (flags.registryDnsName ++ flags.mesosDnsDomain)⟩] ++
  portSettings flags kind rpcPort httpPort ++
  memorySettings flags kind source memory ++
  hostSettings flags hostName

/-- The text of a command. -/
def commandText (kind : ServiceKind) (settings : List Setting) : String :=
  "export QUOBYTE_SERVICE=" ++ kind.serviceId ++ exports settings ++ " && /opt/main.sh"

theorem exports_append (first second : List Setting) :
    exports (first ++ second) = exports first ++ exports second := by
  induction first with
  | nil => simp [exports]
  | cons setting first ih => simp [exports, ih, String.append_assoc]

/-! ### The command is the list written out -/

private theorem port_exported (name mesosPort : String) (port : ℕ) :
    exports [portSetting name mesosPort port] =
      " && export " ++ name ++ "=" ++ if port ≠ 0 then toString port else mesosPort := by
  have nat : toString (port : Int) = toString port := rfl
  unfold portSetting
  split <;> simp [exports, SettingValue.render, nat]

private theorem ports_exported (flags : Flags) (kind : ServiceKind) (rpcPort httpPort : ℕ) :
    exports (portSettings flags kind rpcPort httpPort) =
      (if rpcPort ≠ 0 then " && export QUOBYTE_RPC_PORT=" ++ toString rpcPort
        else " && export QUOBYTE_RPC_PORT=$PORT0") ++
      (if httpPort ≠ 0 then " && export QUOBYTE_HTTP_PORT=" ++ toString httpPort
        else " && export QUOBYTE_HTTP_PORT=$PORT1") ++
      ownPortExport flags kind.serviceId := by
  have own : exports (ownPortSetting flags kind) = ownPortExport flags kind.serviceId := by
    cases kind <;>
      simp [ownPortSetting, exports, SettingValue.render, ownPortExport, ServiceKind.serviceId]
  rw [portSettings, exports_append, exports_append, port_exported, port_exported, own]
  split <;> split <;> rfl

theorem memory_exported {source : MemorySource} (listed : memorySource flags kind = some source) :
    memoryExports flags kind.serviceId = (memMbFromResourceString source.resources).map fun mem =>
      exports (memorySettings flags kind source (int32 (mem - source.extraRamMb))) := by
  cases kind <;> cases listed <;>
    simp [memoryExports, memoryExport, ServiceKind.serviceId, memorySettings, exports,
      SettingValue.render, String.append_assoc]
  -- only s3 writes something behind its limit
  cases memMbFromResourceString flags.s3Resources <;> simp [Except.map, String.append_assoc]

private theorem host_exported (flags : Flags) (hostName : String) :
    exports (hostSettings flags hostName) =
      " && export DIG_LOOKUP=$(dig +short " ++ hostName ++ ")" ++
      (if flags.autodetectServiceIp then ""
        else " && export HOST_IP=$\x7bDIG_LOOKUP:-" ++ hostName ++ "\x7d") ++
      (if flags.extraServiceConfig = "" then ""
        else " && export QUOBYTE_EXTRA_SERVICE_CONFIG=" ++ flags.extraServiceConfig) ++
      (if flags.serviceDebugPort = -1 then ""
        else " && export QUOBYTE_DEBUG_PORT=" ++ toString flags.serviceDebugPort) ++
      (if flags.enableAssertions then " && export QUOBYTE_ENABLE_ASSERTIONS=true" else "") := by
  have lookup : exports [⟨"DIG_LOOKUP", .text ("$(dig +short " ++ hostName ++ ")")⟩] =
      " && export DIG_LOOKUP=$(dig +short " ++ hostName ++ ")" := by
    simp [exports, SettingValue.render, ← String.append_assoc]
  have address : exports (if flags.autodetectServiceIp then []
      else [⟨"HOST_IP", .text ("$\x7bDIG_LOOKUP:-" ++ hostName ++ "\x7d")⟩]) =
      if flags.autodetectServiceIp then ""
      else " && export HOST_IP=$\x7bDIG_LOOKUP:-" ++ hostName ++ "\x7d" := by
    split <;> simp [exports, SettingValue.render, ← String.append_assoc]
  have extra : exports (if flags.extraServiceConfig = "" then []
      else [⟨"QUOBYTE_EXTRA_SERVICE_CONFIG", .text flags.extraServiceConfig⟩]) =
      if flags.extraServiceConfig = "" then ""
      else " && export QUOBYTE_EXTRA_SERVICE_CONFIG=" ++ flags.extraServiceConfig := by
    split <;> simp [exports, SettingValue.render]
  have debug : exports (if flags.serviceDebugPort = -1 then []
      else [⟨"QUOBYTE_DEBUG_PORT", .number flags.serviceDebugPort⟩]) =
      if flags.serviceDebugPort = -1 then ""
      else " && export QUOBYTE_DEBUG_PORT=" ++ toString flags.serviceDebugPort := by
    split <;> simp [exports, SettingValue.render]
  have assertions : exports (if flags.enableAssertions then
      [⟨"QUOBYTE_ENABLE_ASSERTIONS", .text "true"⟩] else []) =
      if flags.enableAssertions then " && export QUOBYTE_ENABLE_ASSERTIONS=true" else "" := by
    split <;> simp [exports, SettingValue.render]
  rw [hostSettings, exports_append, exports_append, exports_append, exports_append, lookup, address,
    extra, debug, assertions]

/-- A command is the settings around its memory limit written out. -/
theorem command_written {hostName text : String} {rpcPort httpPort : ℕ}
    (built : constructDockerExecuteCommand flags kind.serviceId hostName rpcPort httpPort =
      .ok text) :
    ∃ memory, memoryExports flags kind.serviceId = .ok memory ∧
      text = "export QUOBYTE_SERVICE=" ++ kind.serviceId ++
        (exports ([⟨"QUOBYTE_REGISTRY", .text (flags.registryDnsName ++ flags.mesosDnsDomain)⟩] ++
          portSettings flags kind rpcPort httpPort) ++ memory ++ exports (hostSettings flags hostName)) ++
        " && /opt/main.sh" := by
  unfold constructDockerExecuteCommand at built
  split at built
  · cases built
  · obtain ⟨memory, written, same⟩ := except_map_ok built
    have registry : exports [⟨"QUOBYTE_REGISTRY", .text (flags.registryDnsName ++ flags.mesosDnsDomain)⟩] =
        " && export QUOBYTE_REGISTRY=" ++ flags.registryDnsName ++ flags.mesosDnsDomain := by
      simp [exports, SettingValue.render, ← String.append_assoc]
    refine ⟨memory, written, ?_⟩
    rw [← same]
    simp only [exports_append, registry, ports_exported, host_exported, String.append_assoc]

/-- A command is the list of its settings written out; the limit among them comes
from the flag the service reads. -/
theorem command_settings {source : MemorySource} {hostName text : String} {rpcPort httpPort : ℕ}
    (listed : memorySource flags kind = some source)
    (built : constructDockerExecuteCommand flags kind.serviceId hostName rpcPort httpPort =
      .ok text) :
    ∃ mem, memMbFromResourceString source.resources = .ok mem ∧
      text = commandText kind (settings flags kind source (int32 (mem - source.extraRamMb)) hostName
        rpcPort httpPort) := by
  obtain ⟨memory, written, rfl⟩ := command_written built
  rw [memory_exported listed] at written
  obtain ⟨mem, scanned, rfl⟩ := except_map_ok written
  refine ⟨mem, scanned, ?_⟩
  unfold commandText settings
  simp only [exports_append, String.append_assoc]

/-! ### Every task of an offer -/

/-- What a launch of a service asks `makeTask` for. -/
def madeTask (config : Config R) (targetVersion : String) (kind : ServiceKind) (offer : Offer R) :
    Except Abort (TaskInfo R) :=
  makeTask config targetVersion kind kind.taskName (taskId kind offer.hostname) offer.hostname
    (rpcPort config.flags kind) (httpPort config.flags kind) offer.slaveId

theorem memorySource_of_made (flags : Flags) (made : byMakeTask kind = true) :
    ∃ source, memorySource flags kind = some source := by
  cases kind <;> cases made <;> exact ⟨_, rfl⟩

/-- What a built task carries: the settings of its service, its reservation, and
its RPC port for the discovery. -/
structure Carries (config : Config R) (offer : Offer R) (kind : ServiceKind) (source : MemorySource)
    (memory : Int) (task : TaskInfo R) : Prop where
  listed : memorySource config.flags kind = some source
  command : task.command = some ⟨commandText kind (settings config.flags kind source memory
    offer.hostname (rpcPort config.flags kind).toNat (httpPort config.flags kind).toNat), true⟩
  resources : task.resources = config.resources kind
  discovery : ∃ info, task.discovery = some info ∧
    info.ports = [⟨rpcPort config.flags kind, "rpc", "tcp"⟩]

theorem madeTask_carries {source : MemorySource}
    (listed : memorySource config.flags kind = some source)
    (built : madeTask config targetVersion kind offer = .ok task) :
    ∃ mem, memMbFromResourceString source.resources = .ok mem ∧
      Carries config offer kind source (int32 (mem - source.extraRamMb)) task := by
  obtain ⟨text, commanded, rfl⟩ := except_map_ok built
  obtain ⟨mem, scanned, rfl⟩ := command_settings listed commanded
  exact ⟨mem, scanned, listed, rfl, rfl, _, rfl, rfl⟩

/-- The tasks listed so far come from `makeTask`, but for the client's. -/
def AllMade (config : Config R) (targetVersion : String) (offer : Offer R)
    (round : LaunchRound R) : Prop :=
  ∀ task ∈ round.tasksToStart, ∃ kind, task.taskId = taskId kind offer.hostname ∧
    (byMakeTask kind = true → madeTask config targetVersion kind offer = .ok task)

private theorem all_made_add (made : AllMade config targetVersion offer round)
    (joined : round'.tasksToStart = round.tasksToStart ++ [task])
    (id : task.taskId = taskId kind offer.hostname)
    (built : byMakeTask kind = true → madeTask config targetVersion kind offer = .ok task) :
    AllMade config targetVersion offer round' := by
  intro other member
  rw [joined] at member
  rcases List.mem_append.mp member with earlier | new
  · exact made other earlier
  · obtain rfl := List.mem_singleton.mp new
    exact ⟨kind, id, built⟩

private theorem cluster_made (made : AllMade config targetVersion offer round)
    (ran : startClusterService config targetVersion offer kind (rpcPort config.flags kind)
      (httpPort config.flags kind) round = .ok round') :
    AllMade config targetVersion offer round' := by
  unfold startClusterService at ran
  split at ran
  · obtain ⟨task, built, rfl⟩ := except_map_ok ran
    exact all_made_add made rfl (makeTask_fields built).1 fun _ => built
  · cases ran
    exact made

private theorem client_made (made : AllMade config targetVersion offer round) :
    AllMade config targetVersion offer (startClient config offer round) := by
  unfold startClient
  split
  · exact all_made_add made rfl rfl fun byTask => by cases byTask
  · exact made

private theorem core_made (kind : ServiceKind) (made : AllMade config targetVersion offer round)
    (ran : startCoreService config targetVersion offer kind (rpcPort config.flags kind)
      (httpPort config.flags kind) round = .ok round') :
    AllMade config targetVersion offer round' := by
  unfold startCoreService at ran
  split at ran
  · split at ran
    · obtain ⟨task, built, rfl⟩ := except_map_ok ran
      exact all_made_add made rfl (makeTask_fields built).1 fun _ => built
    · cases ran
      exact made
  · cases ran
    exact made

private theorem devices_made (devices : List DeviceType)
    (made : AllMade config targetVersion offer round)
    (ran : startDevices config targetVersion offer devices round = .ok round') :
    AllMade config targetVersion offer round' := by
  induction devices generalizing round with
  | nil =>
    cases ran
    exact made
  | cons device devices ih =>
    obtain ⟨middle, first, later⟩ := except_bind_ok ran
    cases device with
    | registry => exact ih (core_made .registry made first) later
    | metadata => exact ih (core_made .metadata made first) later
    | data => exact ih (core_made .data made first) later
    | bootstrap | client | other =>
      cases first
      exact ih made later

private theorem services_made (made : AllMade config targetVersion offer round)
    (ran : startServices config targetVersion offer round = .ok round') :
    AllMade config targetVersion offer round' := by
  obtain ⟨afterApi, api, ran⟩ := except_bind_ok ran
  obtain ⟨afterS3, s3, ran⟩ := except_bind_ok ran
  obtain ⟨afterConsole, console, ran⟩ := except_bind_ok ran
  have first : AllMade config targetVersion offer afterApi := cluster_made made api
  have second : AllMade config targetVersion offer afterS3 := by
    unfold startS3 at s3
    split at s3
    · cases s3
      exact first
    · exact cluster_made first s3
  have third : AllMade config targetVersion offer afterConsole := cluster_made second console
  exact devices_made _ (client_made third) ran

/-- A launched task with the id of one of the six services is what `makeTask`
builds for it, with the ports of the service. -/
theorem launched_made {calls : List (DriverCall R)} {id : String} {tasks : List (TaskInfo R)}
    (handled : handleOffer config s now offer = .ok (s', calls))
    (launched : .launchTasks id tasks ∈ calls) (member : task ∈ tasks)
    (named : task.taskId = taskId kind offer.hostname) (made : byMakeTask kind = true) :
    madeTask config s.state.targetVersion kind offer = .ok task := by
  cases launch_cases handled launched with
  | prober node known due fits built =>
    obtain rfl := List.mem_singleton.mp member
    obtain ⟨rfl, _⟩ := taskId_injective (named.symm.trans built)
    cases made
  | services node due ran =>
    have none : AllMade config s.state.targetVersion offer
        { records := s.records { node with lastOfferS := now }
          remainingResources := offer.resources } := fun _ member => absurd member List.not_mem_nil
    obtain ⟨other, id, built⟩ := services_made none ran task member
    obtain ⟨rfl, _⟩ := taskId_injective (named.symm.trans id)
    exact built made

end QuobyteMesos.TaskSettings
