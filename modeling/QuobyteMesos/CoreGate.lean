import QuobyteMesos.Executor
import QuobyteMesos.NodeSteps

/-! The gate in front of the services that are not core services.

`doStartService` lets them through when as many core services run as the node
has devices. The list it counts is the executor's, which names the client as
well, and a core service may run whose device is no longer listed. What is
compared is therefore `missing + clients` with `strays`; the gate does what it is
for as long as the two agree exactly on the nodes that miss nothing. -/
namespace QuobyteMesos.CoreGate
open Mesos Machine SchedulerRuns SchedulerSteps LaunchSteps NodeSteps Executor

variable {R : Type}

/-! ### The devices of a node -/

/-- Framework messages come from executors; what does not parse may come from
anywhere. -/
def FromExecutor : Input R → Prop
  | .frameworkMessage _ _ (some response) => Sends response
  | .frameworkMessage _ _ none | .offer .. | .statusUpdate .. | .registered _ | .reregistered
  | .postVersion _ => True

/-- The states of an incarnation whose framework messages come from executors. -/
def ProbedReachable [Resources R] (config : Config R) (s : Scheduler) : Prop :=
  ∃ state callbacks, (∀ callback ∈ callbacks, ∀ input ∈ callback.inputs, FromExecutor input) ∧
    (run (callbackStep config) (Scheduler.fresh state) callbacks).next = some s

/-- Devices that are known are devices an executor lists. -/
def DevicesSent (s : Scheduler) : Prop :=
  ∀ hostname facts, s.facts hostname = some facts → facts.deviceTypesValid = true →
    SentTypes facts.deviceType

variable [Resources R] {config : Config R} {s s' : Scheduler} {hostname : String}
variable {kind : ServiceKind} {input : Input R}

theorem devices_sent_step (sent : DevicesSent s) (allowed : FromExecutor input)
    (stepped : (inputStep config s input).next = some s') : DevicesSent s' := by
  intro hostname facts known valid
  have step := node_step stepped hostname
  rw [known] at step
  generalize after : some facts = now at step
  cases step with
  | kept => exact sent hostname facts after.symm valid
  | added slaveId absent =>
    cases after
    cases valid
  | probed before agent =>
    cases after
    exact sent_of_sends allowed

theorem devices_sent_reachable (reachable : ProbedReachable config s) : DevicesSent s := by
  obtain ⟨state, callbacks, all, ran⟩ := reachable
  rw [callback_runs] at ran
  have fresh : DevicesSent (Scheduler.fresh state) := by
    intro hostname facts known
    simp [Scheduler.facts, Scheduler.fresh] at known
  have allowed : Along (fun _ => FromExecutor) (inputStep config) (Scheduler.fresh state)
      (callbacks.flatMap Callback.inputs) := by
    apply along_of_all
    intro _ input member
    obtain ⟨callback, listed, part⟩ := List.mem_flatMap.mp member
    exact all callback listed input part
  exact run_invariant_along (fun _ _ _ sent allowed => devices_sent_step sent allowed) fresh
    allowed ran

/-! ### What the gate compares -/

def coreKinds : List ServiceKind := [.registry, .metadata, .data]

/-- The service is recorded as running on the node. -/
def runs (s : Scheduler) (hostname : String) (kind : ServiceKind) : Bool :=
  (s.record hostname kind).state = .running

/-- Core services whose device is listed and that do not run. -/
def missing (s : Scheduler) (hostname : String) : ℕ :=
  coreKinds.countP fun kind => !deviceMissing (s.node hostname) kind && !runs s hostname kind

/-- Core services that run without their device being listed. -/
def strays (s : Scheduler) (hostname : String) : ℕ :=
  coreKinds.countP fun kind => deviceMissing (s.node hostname) kind && runs s hostname kind

/-- Entries of the client in the list of devices. -/
def clients (s : Scheduler) (hostname : String) : ℕ :=
  (s.node hostname).deviceType.count .client

/-- The purpose of the gate: every core service the devices of the node ask for
runs. -/
def CoreRuns (s : Scheduler) (hostname : String) : Prop :=
  ∀ device ∈ (s.node hostname).deviceType, ∀ core, requiredBy device = some core →
    (s.record hostname core).state = .running

/-- The stray services make up for the client where nothing is missing, and not
for what is missing anywhere else. -/
def Balanced (s : Scheduler) (hostname : String) : Prop :=
  if missing s hostname = 0 then
    strays s hostname = clients s hostname
  else
    strays s hostname ≠ missing s hostname + clients s hostname

/-- What one count has over the other is what the other lacks of it. -/
theorem countP_exchange {α : Type} (p q : α → Bool) (xs : List α) :
    xs.countP p + xs.countP (fun x => !p x && q x) =
      xs.countP q + xs.countP (fun x => p x && !q x) := by
  induction xs with
  | nil => rfl
  | cons x xs ih =>
    simp only [List.countP_cons]
    cases p x <;> cases q x <;> simp <;> omega

theorem core_services_running_eq (s : Scheduler) (hostname : String) :
    coreServicesRunning (s.node hostname) = coreKinds.countP (runs s hostname) := by
  have counted (kind : ServiceKind) :
      (if runs s hostname kind = true then 1 else 0) =
        if (s.record hostname kind).state = .running then 1 else 0 := by
    simp [runs]
  simp only [coreKinds, List.countP_cons, List.countP_nil, counted]
  change coreServicesRunning (s.node hostname) =
    0 + (if (s.node hostname).data.state = .running then 1 else 0) +
      (if (s.node hostname).metadata.state = .running then 1 else 0) +
        (if (s.node hostname).registry.state = .running then 1 else 0)
  rw [coreServicesRunning]
  omega

/-- Every entry of the list is a device with a core service or the client. -/
theorem device_type_length {types : List DeviceType} (sent : SentTypes types) :
    types.length =
      (if types.contains .registry then 1 else 0) + (if types.contains .metadata then 1 else 0) +
        (if types.contains .data then 1 else 0) + types.count .client := by
  have once (type : DeviceType) :
      types.count type = if types.contains type then 1 else 0 := by
    rw [sent.nodup.count]
    simp
  rw [← once, ← once, ← once]
  have named := sent.named
  clear once sent
  induction types with
  | nil => rfl
  | cons type types ih =>
    have rest := ih fun other member => named other (List.mem_cons_of_mem _ member)
    simp only [List.length_cons, List.count_cons, rest]
    rcases named type List.mem_cons_self with rfl | rfl | rfl | rfl <;> simp <;> omega

theorem gate_balance (sent : SentTypes (s.node hostname).deviceType) :
    coreServicesRunning (s.node hostname) + (missing s hostname + clients s hostname) =
      (s.node hostname).deviceType.length + strays s hostname := by
  have exchanged := countP_exchange (runs s hostname)
    (fun kind => !deviceMissing (s.node hostname) kind) coreKinds
  have listed : coreKinds.countP (fun kind => !deviceMissing (s.node hostname) kind) +
      clients s hostname = (s.node hostname).deviceType.length := by
    rw [device_type_length sent]
    simp only [coreKinds, List.countP_cons, List.countP_nil, deviceMissing, Bool.not_not, clients]
    omega
  rw [core_services_running_eq, missing, strays]
  simp only [Bool.not_not, Bool.and_comm] at exchanged ⊢
  omega

theorem core_mem_iff {core : ServiceKind} : core ∈ coreKinds ↔ core.core = true := by
  cases core <;> decide

/-- The device of a core service is listed when some entry asks for the service. -/
theorem device_listed_iff {node : NodeState} {core : ServiceKind} (isCore : core.core = true) :
    deviceMissing node core = false ↔
      ∃ device ∈ node.deviceType, requiredBy device = some core := by
  have asks (device : DeviceType) (only : ∀ other, requiredBy other = some core ↔ other = device) :
      node.deviceType.contains device = true ↔
        ∃ device ∈ node.deviceType, requiredBy device = some core := by
    simp [only]
  cases core with
  | registry =>
    rw [← asks .registry (by intro other; cases other <;> simp [requiredBy])]
    simp [deviceMissing]
  | metadata =>
    rw [← asks .metadata (by intro other; cases other <;> simp [requiredBy])]
    simp [deviceMissing]
  | data =>
    rw [← asks .data (by intro other; cases other <;> simp [requiredBy])]
    simp [deviceMissing]
  | prober | api | s3 | webconsole | client => cases isCore

/-- The core services that ought to run do when none is missing. -/
theorem core_runs_iff : CoreRuns s hostname ↔ missing s hostname = 0 := by
  rw [missing, List.countP_eq_zero]
  constructor
  · intro runsAll core isCore
    cases listed : deviceMissing (s.node hostname) core with
    | true => simp
    | false =>
      obtain ⟨device, member, required⟩ := (device_listed_iff (core_mem_iff.mp isCore)).mp listed
      simp [runs, runsAll device member core required]
  · intro none device member core required
    have isCore := core_of_required required
    have listed := (device_listed_iff isCore).mpr ⟨device, member, required⟩
    have present := none core (core_mem_iff.mpr isCore)
    simpa [listed, runs] using present

/-- An idle service that is not a core service is started when the counts agree. -/
theorem started_iff (outer : kind.core = false)
    (valid : (s.node hostname).deviceTypesValid = true)
    (idle : (s.record hostname kind).state = .notRunning) :
    doStartService kind (s.node hostname) (s.record hostname kind).state = true ↔
      coreServicesRunning (s.node hostname) = (s.node hostname).deviceType.length := by
  have notCore : kind ≠ .registry ∧ kind ≠ .metadata ∧ kind ≠ .data := by
    refine ⟨?_, ?_, ?_⟩ <;> rintro rfl <;> cases outer
  simp [doStartService, valid, idle, notCore, shouldServiceBeStarted]

/-- For every idle service that is not a core service, on every node whose
devices an executor reported: the gate opens exactly for the nodes whose core
services run if and only if the node is balanced. -/
theorem gate_iff_core_runs (reachable : ProbedReachable config s)
    (valid : (s.node hostname).deviceTypesValid = true) (outer : kind.core = false)
    (idle : (s.record hostname kind).state = .notRunning) :
    (doStartService kind (s.node hostname) (s.record hostname kind).state = true ↔
      CoreRuns s hostname) ↔ Balanced s hostname := by
  have sent : SentTypes (s.node hostname).deviceType := by
    cases known : s.nodes[hostname]? with
    | none => simp [Scheduler.node, known] at valid
    | some node =>
      have here : s.node hostname = node := by simp [Scheduler.node, known]
      rw [here] at valid ⊢
      exact devices_sent_reachable reachable hostname node.facts (by simp [Scheduler.facts, known])
        valid
  have balance := gate_balance sent
  rw [started_iff outer valid idle, core_runs_iff, Balanced]
  split
  · rename_i complete
    simp only [complete, iff_true]
    omega
  · rename_i incomplete
    simp only [incomplete, iff_false]
    omega

/-! ### A node with a registry device -/

/-- A registry device on one file system, and a mount point for the client. -/
def registryFiles : FileSystem where
  mounts := ["/dev/sda1 / ext4 rw 0 0", "/dev/sdb1 /mnt/b xfs rw 0 0", "proc /proc proc rw 0 0"]
  stat path :=
    if path = "/quobyte" then some .directory
    else if path = "/mnt/b/quobyte-dir" then some .other
    else none

/-- The api is idle and the registry running when the devices of the host are
known. -/
def registryRunning (request : ProbeRequest) : List (Callback TextResources) :=
  [.resourceOffers [(1, wideOffer "o1" "h1")],
    .statusUpdate 1 { taskId := "quobyte-api-h1", state := .lost },
    .frameworkMessage 1 "agent-h1" (some (probe registryFiles request)),
    .statusUpdate 1 { taskId := "quobyte-registry-h1", state := .running }]

/-- What the run with a given request ends in. -/
theorem registry_running_ends {α : Type} {view : Scheduler → α} {value : α}
    (request : ProbeRequest) (uninitialized : request.initializePath = "")
    (ran : (run (callbackStep defaultConfig) (Scheduler.fresh { targetVersion := "1" })
      (registryRunning request)).next.map view = some value) :
    ∃ s, ProbedReachable defaultConfig s ∧ view s = value := by
  obtain ⟨s, ended, viewed⟩ := Option.map_eq_some_iff.mp ran
  refine ⟨s, ⟨_, _, ?_, ended⟩, viewed⟩
  have sent : Sends (probe registryFiles request) :=
    ⟨registryFiles, 0, request, by simp [Executor.frameworkMessage, uninitialized]⟩
  simpa [registryRunning, Callback.inputs, FromExecutor] using sent

/-- Without the client the gate opens as the registry runs. -/
theorem registry_opens_gate :
    ∃ s : Scheduler, ProbedReachable defaultConfig s ∧
      (doStartService .api (s.node "h1") (s.record "h1" .api).state = true ↔
        CoreRuns s "h1") := by
  have ran : (run (callbackStep defaultConfig) (Scheduler.fresh { targetVersion := "1" })
      (registryRunning {})).next.map (fun s => ((s.node "h1").deviceTypesValid,
        (s.record "h1" .api).state, missing s "h1", strays s "h1", clients s "h1")) =
      some (true, .notRunning, 0, 0, 0) := by decide +kernel
  obtain ⟨s, reachable, viewed⟩ := registry_running_ends {} rfl ran
  simp only [Prod.mk.injEq] at viewed
  obtain ⟨valid, idle, complete, strayless, clientless⟩ := viewed
  refine ⟨s, reachable, (gate_iff_core_runs reachable valid rfl idle).mpr ?_⟩
  rw [Balanced, if_pos complete, strayless, clientless]

/-- With the client listed the gate stays shut on the same node. -/
theorem client_shuts_gate :
    ∃ s : Scheduler, ProbedReachable defaultConfig s ∧
      (s.node "h1").deviceTypesValid = true ∧ (s.record "h1" .api).state = .notRunning ∧
      ¬ (doStartService .api (s.node "h1") (s.record "h1" .api).state = true ↔
        CoreRuns s "h1") := by
  have ran : (run (callbackStep defaultConfig) (Scheduler.fresh { targetVersion := "1" })
      (registryRunning { clientDirectory := "/quobyte" })).next.map (fun s =>
        ((s.node "h1").deviceTypesValid, (s.record "h1" .api).state, missing s "h1",
          doStartService .api (s.node "h1") (s.record "h1" .api).state)) =
      some (true, .notRunning, 0, false) := by decide +kernel
  obtain ⟨s, reachable, viewed⟩ := registry_running_ends _ rfl ran
  simp only [Prod.mk.injEq] at viewed
  obtain ⟨valid, idle, complete, shut⟩ := viewed
  refine ⟨s, reachable, valid, idle, fun agree => ?_⟩
  rw [agree.mpr (core_runs_iff.mpr complete)] at shut
  cases shut

end QuobyteMesos.CoreGate
