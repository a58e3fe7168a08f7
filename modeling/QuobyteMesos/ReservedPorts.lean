import QuobyteMesos.TaskSettings

/-! The ports a task reserves and the ports its command exports.

Both are computed from the flags, by `prepareServiceResources` and by
`constructDockerExecuteCommand`, each with its own reading of zero: the
reservation lists RPC and HTTP port in any case and the port of a service of its
own only if it is not zero, the command the other way round, and prints that
port before it is cut to 16 bits. -/
namespace QuobyteMesos.ReservedPorts
open Mesos Machine StdString SchedulerRuns SchedulerSteps TaskSettings

variable {R : Type} [Resources R] {config : Config R} {flags : Flags} {s s' : Scheduler}
variable {now : Int} {offer : Offer R} {kind other : ServiceKind} {task : TaskInfo R}
variable {id : String} {tasks : List (TaskInfo R)} {calls : List (DriverCall R)}

/-! ### Ports reserved -/

/-- The ports `prepareServiceResources` adds to the flag of a service. -/
def addedPorts (flags : Flags) (kind : ServiceKind) : List UInt16 :=
  [rpcPort flags kind, httpPort flags kind] ++
    if extraPort flags kind ≠ 0 then [extraPort flags kind] else []

/-- Ports in the text format of the reservations. -/
def portsText (ports : List UInt16) : String :=
  "ports:[" ++ ",".intercalate (ports.map fun port => toString port ++ "-" ++ toString port) ++ "]"

/-- The flag a service reserves, which for s3 is that of the webconsole. -/
def reservedFlag (flags : Flags) : ServiceKind → String
  | .registry => flags.registryResources
  | .metadata => flags.metadataResources
  | .data => flags.dataResources
  | .api => flags.apiResources
  | .webconsole | .s3 => flags.webconsoleResources
  | .prober => flags.proberResources
  | .client => flags.clientResources

private theorem resource_string_text (rpcPort httpPort extraPort : UInt16) :
    buildResourceString rpcPort httpPort extraPort =
      portsText ([rpcPort, httpPort] ++ if extraPort ≠ 0 then [extraPort] else []) := by
  unfold buildResourceString portsText
  split <;> simp [String.append_assoc]

/-- The reservation is parsed from the flag and the ports added. -/
theorem reserved_text (made : byMakeTask kind = true) :
    serviceResources flags kind =
      Resources.parse (reservedFlag flags kind ++ ";" ++ portsText (addedPorts flags kind)) (R := R) := by
  unfold addedPorts
  rw [← resource_string_text]
  cases kind <;> cases made <;> rfl

/-! ### Ports exported -/

/-- The settings that name a port of a service. -/
def portNames : List String :=
  ["QUOBYTE_RPC_PORT", "QUOBYTE_HTTP_PORT", "QUOBYTE_API_PORT", "QUOBYTE_S3_PORT",
    "QUOBYTE_WEBCONSOLE_PORT"]

/-- The ports exported as numbers. -/
def exportedPorts (settings : List Setting) : Set ℤ :=
  {port | ∃ setting ∈ settings, setting.name ∈ portNames ∧ setting.value = .number port}

/-- The port of its own a service is told to use. -/
def ownPort (flags : Flags) : ServiceKind → Option ℤ
  | .api => some flags.apiPort
  | .s3 => some flags.s3Port
  | .webconsole => some flags.webconsolePort
  | .prober | .registry | .metadata | .data | .client => none

private theorem exported_append (first second : List Setting) :
    exportedPorts (first ++ second) = exportedPorts first ∪ exportedPorts second := by
  ext port
  simp only [exportedPorts, Set.mem_ofPred_eq, Set.mem_union, List.mem_append, or_and_right,
    exists_or]

private theorem exported_none {settings : List Setting}
    (unrelated : ∀ setting ∈ settings, setting.name ∉ portNames) : exportedPorts settings = ∅ := by
  ext port
  simp only [exportedPorts, Set.mem_ofPred_eq, Set.mem_empty_iff_false, iff_false]
  rintro ⟨setting, member, named, _⟩
  exact unrelated setting member named

private theorem memory_unrelated {source : MemorySource} {memory : Int}
    (listed : memorySource flags kind = some source) :
    ∀ setting ∈ memorySettings flags kind source memory, setting.name ∉ portNames := by
  cases kind <;> cases listed <;> simp [memorySettings, portNames]

private theorem host_unrelated (hostName : String) :
    ∀ setting ∈ hostSettings flags hostName, setting.name ∉ portNames := by
  intro setting member
  simp only [hostSettings, List.mem_append, List.mem_ite_nil_left, List.mem_ite_nil_right,
    List.mem_singleton] at member
  rcases member with (((rfl | ⟨_, rfl⟩) | ⟨_, rfl⟩) | ⟨_, rfl⟩) | ⟨_, rfl⟩ <;> simp [portNames]

/-- A service port is exported unless it is zero. -/
private theorem exported_port {name mesosPort : String} (isPort : name ∈ portNames) (number : ℕ)
    (port : ℤ) : port ∈ exportedPorts [portSetting name mesosPort number] ↔
      number ≠ 0 ∧ port = number := by
  by_cases zero : number = 0
  · simp [exportedPorts, portSetting, zero]
  · simp [exportedPorts, portSetting, zero, isPort, eq_comm]

private theorem exported_own (port : ℤ) :
    port ∈ exportedPorts (ownPortSetting flags kind) ↔ ownPort flags kind = some port := by
  cases kind <;> simp [exportedPorts, ownPortSetting, ownPort, portNames, eq_comm]

theorem exported_iff {source : MemorySource} {memory : Int} {hostName : String} {rpc http : ℕ}
    (listed : memorySource flags kind = some source) (port : ℤ) :
    port ∈ exportedPorts (settings flags kind source memory hostName rpc http) ↔
      (rpc ≠ 0 ∧ port = rpc) ∨ (http ≠ 0 ∧ port = http) ∨ ownPort flags kind = some port := by
  have registry : exportedPorts [⟨"QUOBYTE_REGISTRY",
      .text (flags.registryDnsName ++ flags.mesosDnsDomain)⟩] = ∅ :=
    exported_none (by simp [portNames])
  have rpcName : "QUOBYTE_RPC_PORT" ∈ portNames := by decide
  have httpName : "QUOBYTE_HTTP_PORT" ∈ portNames := by decide
  rw [settings, exported_append, exported_append, exported_append, registry,
    exported_none (memory_unrelated listed), exported_none (host_unrelated hostName), portSettings,
    exported_append, exported_append]
  simp only [Set.union_empty, Set.empty_union, Set.mem_union, exported_port rpcName,
    exported_port httpName, exported_own, or_assoc]

/-! ### Where the two agree -/

/-- The ports reserved are the ports exported, and the port announced to service
discovery is the RPC port exported. -/
structure PortsAgree (flags : Flags) (kind : ServiceKind) (task : TaskInfo R)
    (settings : List Setting) : Prop where
  reserved : {port : ℤ | ∃ added ∈ addedPorts flags kind, port = added.toNat} =
    exportedPorts settings
  discovery : ∃ info, task.discovery = some info ∧ info.ports ≠ [] ∧ ∀ port ∈ info.ports,
    ⟨"QUOBYTE_RPC_PORT", .number port.number.toNat⟩ ∈ settings

/-- Neither service port is zero after the cut to 16 bits and the own port needs
no cut; or the HTTP port is zero and the own port is, too. -/
def PortsFit (flags : Flags) (kind : ServiceKind) : Prop :=
  rpcPort flags kind ≠ 0 ∧
    match ownPort flags kind with
    | none => httpPort flags kind ≠ 0
    | some port => (httpPort flags kind ≠ 0 ∧ 1 ≤ port ∧ port ≤ 65535) ∨
        (httpPort flags kind = 0 ∧ port = 0)

theorem toPort_toNat (value : Int) : ((toPort value).toNat : Int) = value % 65536 := by
  simp only [toPort, UInt16.ofInt, UInt16.toNat_ofNat']
  omega

private theorem extra_port_eq (flags : Flags) (kind : ServiceKind) :
    extraPort flags kind = (ownPort flags kind).elim 0 toPort := by
  cases kind <;> rfl

private theorem zero_iff (port : UInt16) : port = 0 ↔ port.toNat = 0 := UInt16.toNat_inj.symm

private theorem added_iff (flags : Flags) (kind : ServiceKind) (port : ℤ) :
    (∃ added ∈ addedPorts flags kind, port = added.toNat) ↔
      port = (rpcPort flags kind).toNat ∨ port = (httpPort flags kind).toNat ∨
        ((extraPort flags kind).toNat ≠ 0 ∧ port = (extraPort flags kind).toNat) := by
  unfold addedPorts
  by_cases extra : extraPort flags kind = 0
  · simp [extra]
  · have positive := mt (zero_iff _).mpr extra
    simp [extra, positive]

/-- With a port of its own, a service agrees where that port survives the cut, and
where it is zero together with the HTTP port. -/
private theorem own_agrees_iff {rpc http own : ℕ} {port : ℤ} (named : rpc ≠ 0) (rpcBound : rpc < 65536)
    (httpBound : http < 65536) (cut : (own : ℤ) = port % 65536) :
    (∀ p : ℤ, (p = rpc ∨ p = http ∨ (own ≠ 0 ∧ p = own)) ↔
        ((rpc ≠ 0 ∧ p = rpc) ∨ (http ≠ 0 ∧ p = http) ∨ port = p)) ↔
      (http ≠ 0 ∧ 1 ≤ port ∧ port ≤ 65535) ∨ (http = 0 ∧ port = 0) := by
  constructor
  · intro same
    have exported := (same port).mpr (.inr (.inr rfl))
    by_cases zero : http = 0
    · have reserved := (same http).mp (.inr (.inl rfl))
      omega
    · omega
  · intro fits p
    omega

private theorem plain_agrees_iff {rpc : ℕ} (named : rpc ≠ 0) (http : ℕ) :
    (∀ p : ℤ, (p = rpc ∨ p = http) ↔ ((rpc ≠ 0 ∧ p = rpc) ∨ (http ≠ 0 ∧ p = http))) ↔
      http ≠ 0 := by
  constructor
  · intro same
    have reserved := (same http).mp (.inr rfl)
    omega
  · intro fits p
    omega

/-- Behind an RPC port that is not zero the two sets are the same exactly where
the flags fit. -/
private theorem reserved_iff {source : MemorySource} {memory : Int} {hostName : String}
    (listed : memorySource flags kind = some source) (named : rpcPort flags kind ≠ 0) :
    {port : ℤ | ∃ added ∈ addedPorts flags kind, port = added.toNat} =
        exportedPorts (settings flags kind source memory hostName (rpcPort flags kind).toNat
          (httpPort flags kind).toNat) ↔ PortsFit flags kind := by
  have positive := mt (zero_iff _).mpr named
  simp only [Set.ext_iff, Set.mem_ofPred_eq, added_iff, exported_iff listed, extra_port_eq]
  rw [PortsFit, and_iff_right named]
  cases own : ownPort flags kind with
  | none => simpa [zero_iff] using plain_agrees_iff positive (httpPort flags kind).toNat
  | some port =>
    have cut := toPort_toNat port
    simpa [zero_iff] using
      own_agrees_iff positive (UInt16.toNat_lt _) (httpPort flags kind).toNat_lt cut

/-- The RPC port is set once. -/
private theorem rpc_setting_iff {source : MemorySource} {memory : Int} {hostName : String}
    {rpc http : ℕ} (listed : memorySource flags kind = some source) (value : SettingValue) :
    ⟨"QUOBYTE_RPC_PORT", value⟩ ∈ settings flags kind source memory hostName rpc http ↔
      value = (portSetting "QUOBYTE_RPC_PORT" "$PORT0" rpc).value := by
  have isPort : "QUOBYTE_RPC_PORT" ∈ portNames := by decide
  have memory : ⟨"QUOBYTE_RPC_PORT", value⟩ ∉ memorySettings flags kind source memory :=
    fun member => memory_unrelated listed _ member isPort
  have host : ⟨"QUOBYTE_RPC_PORT", value⟩ ∉ hostSettings flags hostName :=
    fun member => host_unrelated hostName _ member isPort
  have own : ⟨"QUOBYTE_RPC_PORT", value⟩ ∉ ownPortSetting flags kind := by
    cases kind <;> simp [ownPortSetting]
  simp [settings, portSettings, portSetting, memory, host, own]

private theorem discovery_iff {source : MemorySource} {memory : Int}
    (carries : Carries config offer kind source memory task) :
    (∃ info, task.discovery = some info ∧ info.ports ≠ [] ∧ ∀ port ∈ info.ports,
      ⟨"QUOBYTE_RPC_PORT", .number port.number.toNat⟩ ∈ settings config.flags kind source memory
        offer.hostname (rpcPort config.flags kind).toNat (httpPort config.flags kind).toNat) ↔
      rpcPort config.flags kind ≠ 0 := by
  obtain ⟨info, announced, ports⟩ := carries.discovery
  have value : SettingValue.number (rpcPort config.flags kind).toNat =
      (portSetting "QUOBYTE_RPC_PORT" "$PORT0" (rpcPort config.flags kind).toNat).value ↔
      rpcPort config.flags kind ≠ 0 := by
    by_cases zero : rpcPort config.flags kind = 0
    · simp [portSetting, zero]
    · simp [portSetting, zero, mt (zero_iff _).mpr zero]
  constructor
  · rintro ⟨other, same, _, exported⟩
    obtain rfl : info = other := Option.some.inj (announced.symm.trans same)
    rw [ports] at exported
    have exported := exported _ List.mem_cons_self
    exact value.mp ((rpc_setting_iff carries.listed _).mp exported)
  · intro named
    refine ⟨info, announced, by simp [ports], ?_⟩
    rw [ports]
    intro port member
    rw [List.mem_singleton.mp member]
    exact (rpc_setting_iff carries.listed _).mpr (value.mpr named)

/-- A built task reserves the ports it exports exactly where the flags fit. -/
private theorem agree_iff {source : MemorySource} {memory : Int}
    (carries : Carries config offer kind source memory task) :
    PortsAgree config.flags kind task (settings config.flags kind source memory offer.hostname
      (rpcPort config.flags kind).toNat (httpPort config.flags kind).toNat) ↔
      PortsFit config.flags kind := by
  constructor
  · intro agree
    have named := (discovery_iff carries).mp agree.discovery
    exact (reserved_iff carries.listed named).mp agree.reserved
  · intro fits
    exact ⟨(reserved_iff carries.listed fits.1).mpr fits, (discovery_iff carries).mpr fits.1⟩

/-! ### Ports of different services -/

/-- The ports of a service before the one of its own. -/
def portPair (flags : Flags) (kind : ServiceKind) : Set UInt16 :=
  {rpcPort flags kind, httpPort flags kind}

/-- Where the pair of a service starts behind the base. -/
def portOffset : ServiceKind → Int
  | .registry | .prober | .client => 0
  | .metadata => 2
  | .data => 4
  | .api => 6
  | .webconsole => 8
  | .s3 => 10

private theorem pair_eq (flags : Flags) (made : byMakeTask kind = true) :
    portPair flags kind = {toPort (flags.portRangeBase + portOffset kind),
      toPort (flags.portRangeBase + portOffset kind + 1)} := by
  cases kind <;> cases made <;> simp [portPair, rpcPort, httpPort, portOffset, add_assoc]

private theorem toPort_inj {value value' : Int} :
    toPort value = toPort value' ↔ value % 65536 = value' % 65536 := by
  rw [← UInt16.toNat_inj, ← toPort_toNat, ← toPort_toNat]
  omega

theorem pairs_disjoint (flags : Flags) (made : byMakeTask kind = true)
    (made' : byMakeTask other = true) (apart : other ≠ kind) :
    Disjoint (portPair flags kind) (portPair flags other) := by
  have even : ∀ kind, portOffset kind % 2 = 0 ∧ 0 ≤ portOffset kind ∧ portOffset kind ≤ 10 := by
    intro kind
    cases kind <;> decide
  have different : portOffset kind ≠ portOffset other := by
    cases kind <;> cases made <;> cases other <;> cases made' <;>
      first | decide | exact absurd rfl apart
  have here := even kind
  have there := even other
  rw [pair_eq flags made, pair_eq flags made', Set.disjoint_left]
  intro port first second
  simp only [Set.mem_insert_iff, Set.mem_singleton_iff] at first second
  rcases first with rfl | rfl <;> rcases second with same | same <;>
    rw [toPort_inj] at same <;> omega

/-! ### The tasks of an offer -/

/-- A task launched for one of the six services reserves the ports its command
exports, with its RPC port announced, exactly where the flags fit; the port pairs
of different services are disjoint in any case. -/
theorem reserved_ports_exported_iff (handled : handleOffer config s now offer = .ok (s', calls))
    (launched : .launchTasks id tasks ∈ calls) (member : task ∈ tasks)
    (named : task.taskId = taskId kind offer.hostname) (made : byMakeTask kind = true) :
    (∃ source memory, Carries config offer kind source memory task ∧
      Resources.parse (reservedFlag config.flags kind ++ ";" ++
        portsText (addedPorts config.flags kind)) = some task.resources ∧
      (PortsAgree config.flags kind task (settings config.flags kind source memory offer.hostname
        (rpcPort config.flags kind).toNat (httpPort config.flags kind).toNat) ↔
        PortsFit config.flags kind)) ∧
    ∀ other, byMakeTask other = true → other ≠ kind →
      Disjoint (portPair config.flags kind) (portPair config.flags other) := by
  refine ⟨?_, fun other made' apart => pairs_disjoint _ made made' apart⟩
  obtain ⟨source, listed⟩ := memorySource_of_made config.flags made
  have built := launched_made handled launched member named made
  obtain ⟨mem, _, carries⟩ := madeTask_carries listed built
  refine ⟨source, _, carries, ?_, agree_iff carries⟩
  rw [← reserved_text made, carries.resources]
  exact config.prepared kind

/-! ### Two launches of the api -/

/-- The api is launched with the default flags. -/
theorem default_ports_agree : ∃ s, ∃ task : TaskInfo TextResources, Reachable defaultConfig s ∧
    task.taskId = taskId .api "h1" ∧ ∃ settings, PortsAgree defaultConfig.flags .api task settings ∧
      task.command = some ⟨commandText .api settings, true⟩ := by
  have ran : (run (callbackStep defaultConfig) (Scheduler.fresh { targetVersion := "1" })
      (apiLaunched.take 3)).next.map (fun s =>
        launchesWith defaultConfig s 2 (wideOffer "o2" "h1") fun tasks =>
          tasks.any fun task => task.taskId = taskId .api "h1") = some true := by decide +kernel
  obtain ⟨s, s', calls, id, tasks, task, reachable, handled, launched, member, named⟩ :=
    task_of_run ran
  obtain ⟨⟨source, memory, carries, _, agree⟩, _⟩ :=
    reserved_ports_exported_iff handled launched member named rfl
  have fits : PortsFit defaultConfig.flags .api := by
    refine ⟨by decide, .inl ⟨by decide, ?_⟩⟩
    decide
  exact ⟨s, task, reachable, named, _, agree.mpr fits, carries.command⟩

/-- The default flags but for the port of the api, which does not fit 16 bits. -/
def farApiConfig : Config TextResources where
  flags := { apiPort := 70000 }
  resources kind := if kind = .api then reservation 100 512 32 [21006, 21007, 4464]
    else defaultResources kind
  prepared := by
    intro kind
    cases kind <;> decide +kernel

/-- An offer with the port that is left of it. -/
def farOffer : Offer TextResources where
  id := "o2"
  hostname := "h1"
  slaveId := "agent-h1"
  resources := reservation 1000 1000 1000 [4464, 21006, 21007]

/-- The api reserves port 4464 and is told to use port 70000. -/
theorem far_port_not_reserved : ∃ s s' calls id tasks task, Reachable farApiConfig s ∧
    handleOffer farApiConfig s 2 farOffer = .ok (s', calls) ∧ .launchTasks id tasks ∈ calls ∧
    task ∈ tasks ∧ task.taskId = taskId .api "h1" ∧
    ∀ source memory, Carries farApiConfig farOffer .api source memory task →
      ¬ PortsAgree farApiConfig.flags .api task (settings farApiConfig.flags .api source memory "h1"
        (rpcPort farApiConfig.flags .api).toNat (httpPort farApiConfig.flags .api).toNat) := by
  have ran : (run (callbackStep farApiConfig) (Scheduler.fresh { targetVersion := "1" })
      (apiLaunched.take 3)).next.map (fun s => launchesWith farApiConfig s 2 farOffer fun tasks =>
        tasks.any fun task => task.taskId = taskId .api "h1") = some true := by decide +kernel
  obtain ⟨s, s', calls, id, tasks, task, reachable, handled, launched, member, named⟩ :=
    task_of_run ran
  refine ⟨s, s', calls, id, tasks, task, reachable, handled, launched, member, named, ?_⟩
  intro source memory carries agree
  have reserved : (70000 : ℤ) ∈ {port : ℤ | ∃ added ∈ addedPorts farApiConfig.flags .api,
      port = added.toNat} := by
    rw [agree.reserved, exported_iff carries.listed]
    exact .inr (.inr rfl)
  obtain ⟨added, _, same⟩ := reserved
  have bound := added.toNat_lt
  omega

end QuobyteMesos.ReservedPorts
