import QuobyteMesos.CoreGate
import QuobyteMesos.DeviceDiscovery
import QuobyteMesos.LaunchExclusion
import QuobyteMesos.NodeSteps
import QuobyteMesos.Rollout

/-! The scheduler and the executors on the agents.

Requests go out with the offers, an executor answers from the files its agent has at
that moment, and both are under way until they are taken up, in any order, more than
once or never. The files change as they like, and the scheduler may be restarted. What
the scheduler believes about a host was true of its agent at some time
(`core_launches_witnessed`), and no request makes an executor write
(`files_kept`). -/
namespace QuobyteMesos

/-- The scheduler, the files of every agent and the messages under way. -/
structure Fleet where
  scheduler : Scheduler
  files : String → FileSystem
  requests : List (String × ProbeRequest) := []
  answers : List (String × ProbeResponse) := []

namespace Fleet
open Mesos Machine SchedulerRuns SchedulerSteps LaunchSteps NodeSteps RecordSteps LaunchExclusion

variable {R : Type}

/-- What can happen. A response is handled when it is under way, and one that does not
parse at any time. -/
inductive Action (R : Type) where
  | handle (input : Input R)
  | answer (agent : String) (request : ProbeRequest) (random : ℕ)
  | change (agent : String) (files : FileSystem)
  | restart (state : SchedulerState)

/-- The request an event sends, with the agent it goes to. -/
def asked : Event R → List (String × ProbeRequest)
  | .called (.sendFrameworkMessage _ agent request) => [(agent, request)]
  | .called _ | .delivered _ => []

variable [Resources R]

def handle (config : Config R) (c : Fleet) (input : Input R) : Outcome Fleet (Event R) :=
  ⟨(inputStep config c.scheduler input).next.map fun s => { c with
      scheduler := s
      requests := c.requests ++ (inputStep config c.scheduler input).out.flatMap asked },
    (inputStep config c.scheduler input).out⟩

/-- A message stays under way when it is taken up, so that it may come again. -/
def step (config : Config R) (c : Fleet) : Action R → Outcome Fleet (Event R)
  | .handle (.frameworkMessage now agent (some response)) =>
    if (agent, response) ∈ c.answers then
      handle config c (.frameworkMessage now agent (some response))
    else ⟨some c, []⟩
  | .handle input => handle config c input
  | .answer agent request random =>
    if (agent, request) ∈ c.requests then
      let answered := Executor.frameworkMessage (c.files agent) random request
      ⟨some { c with
        files := Function.update c.files agent answered.1
        answers := c.answers ++ answered.2.toList.map (agent, ·) }, []⟩
    else ⟨some c, []⟩
  | .change agent files => ⟨some { c with files := Function.update c.files agent files }, []⟩
  | .restart state => ⟨some { c with scheduler := Scheduler.fresh state }, []⟩

variable {config : Config R} {c c' start : Fleet} {action : Action R} {actions past : List (Action R)}
variable {s s' : Scheduler} {input : Input R} {kind : ServiceKind} {agent : String} {device : DeviceType}

/-! ### Requests -/

/-- No request asks the executor to initialize a path. -/
theorem asked_uninitialized {request : ProbeRequest}
    (sent : (agent, request) ∈ (inputStep config s input).out.flatMap asked) :
    request.initializePath = "" := by
  obtain ⟨event, emitted, asks⟩ := List.mem_flatMap.mp sent
  cases event with
  | delivered => cases asks
  | called call =>
    cases call with
    | sendFrameworkMessage executor agent request =>
      obtain ⟨rfl, rfl⟩ := Prod.mk.inj (List.mem_singleton.mp asks)
      rw [(Rollout.probe_sent emitted).2]
    | launchTasks | declineOffer | killTask | reconcileTasks => cases asks

/-! ### One action -/

/-- What one action makes of the fleet. -/
inductive Stepped (config : Config R) (c : Fleet) : Action R → Fleet → Prop where
  | idle {action : Action R} (kept : ∀ agent files, action ≠ .change agent files) :
      Stepped config c action c
  | handled {input : Input R} {s : Scheduler}
      (stepped : (inputStep config c.scheduler input).next = some s)
      (genuine : ∀ now agent response, input = .frameworkMessage now agent (some response) →
        (agent, response) ∈ c.answers) :
      Stepped config c (.handle input) { c with
        scheduler := s
        requests := c.requests ++ (inputStep config c.scheduler input).out.flatMap asked }
  | answered {agent : String} {request : ProbeRequest} {random : ℕ}
      (sent : (agent, request) ∈ c.requests) :
      Stepped config c (.answer agent request random) { c with
        files := Function.update c.files agent
          (Executor.frameworkMessage (c.files agent) random request).1
        answers := c.answers ++
          (Executor.frameworkMessage (c.files agent) random request).2.toList.map (agent, ·) }
  | changed {agent : String} {files : FileSystem} :
      Stepped config c (.change agent files) { c with files := Function.update c.files agent files }
  | restarted {state : SchedulerState} :
      Stepped config c (.restart state) { c with scheduler := Scheduler.fresh state }

theorem step_cases (stepped : (step config c action).next = some c') :
    Stepped config c action c' := by
  have handled (input : Input R) (next : (handle config c input).next = some c')
      (genuine : ∀ now agent response, input = .frameworkMessage now agent (some response) →
        (agent, response) ∈ c.answers) : Stepped config c (.handle input) c' := by
    obtain ⟨s, taken, rfl⟩ := Option.map_eq_some_iff.mp next
    exact .handled taken genuine
  cases action with
  | handle input =>
    cases input with
    | frameworkMessage now agent data =>
      cases data with
      | none => exact handled _ stepped nofun
      | some response =>
        rw [step] at stepped
        split at stepped
        · rename_i sent
          refine handled _ stepped ?_
          rintro _ _ _ ⟨⟩
          exact sent
        · cases stepped
          exact .idle nofun
    | offer | statusUpdate | registered | reregistered | postVersion => exact handled _ stepped nofun
  | answer agent request random =>
    rw [step] at stepped
    split at stepped
    · rename_i sent
      cases stepped
      exact .answered sent
    · cases stepped
      exact .idle nofun
  | change | restart =>
    cases stepped
    constructor

/-! ### What the scheduler believes -/

/-- A mounted file system of the agent is marked as the device. -/
def Found (agent : String) (device : DeviceType) (c : Fleet) : Prop :=
  ∃ line ∈ (c.files agent).mounts, ∃ mntpoint,
    Executor.Mounted line mntpoint ∧ Executor.Marked (c.files agent) mntpoint device

/-- The scheduler has just been started, and nothing is under way. -/
structure Quiet (c : Fleet) : Prop where
  scheduler : ∃ state, c.scheduler = Scheduler.fresh state
  requests : c.requests = []
  answers : c.answers = []

/-- Whatever is under way or believed of a core device was found before. -/
structure Backed (config : Config R) (start : Fleet) (past : List (Action R)) (c : Fleet) : Prop where
  requests : ∀ agent request, (agent, request) ∈ c.requests → request.initializePath = ""
  answers : ∀ agent response, (agent, response) ∈ c.answers → ∀ device ∈ response.deviceType,
    ∀ kind, requiredBy device = some kind → Passed (Found agent device) (step config) start past
  nodes : ∀ hostname facts, c.scheduler.facts hostname = some facts → facts.deviceTypesValid = true →
    ∀ device ∈ facts.deviceType, ∀ kind, requiredBy device = some kind →
      Passed (Found facts.slaveIdValue device) (step config) start past

omit [Resources R] in
private theorem nothing_fresh {state : SchedulerState} {hostname : String} {facts : NodeFacts} :
    (Scheduler.fresh state).facts hostname ≠ some facts := by
  simp [Scheduler.facts, Scheduler.fresh]

private theorem backed_quiet (quiet : Quiet start) : Backed config start [] start := by
  obtain ⟨⟨state, fresh⟩, requests, answers⟩ := quiet
  refine ⟨?_, ?_, ?_⟩
  · simp [requests]
  · simp [answers]
  · intro hostname facts known
    rw [fresh] at known
    exact absurd known nothing_fresh

/-- What was backed stays so. -/
private theorem Backed.append (backed : Backed config start past c) (action : Action R) :
    Backed config start (past ++ [action]) c :=
  ⟨backed.requests,
    fun agent response sent device listed kind required =>
      (backed.answers agent response sent device listed kind required).append _,
    fun hostname facts known valid device listed kind required =>
      (backed.nodes hostname facts known valid device listed kind required).append _⟩

/-- A device that an executor lists for a core service is found at that moment. -/
private theorem listed_found {request : ProbeRequest} (required : requiredBy device = some kind)
    (listed : device ∈ (Executor.probe (c.files agent) request).deviceType) : Found agent device c := by
  refine Executor.mem_foundTypes.mp ((DeviceDiscovery.core_listed ?_).mp listed)
  cases device <;> simp [requiredBy] at required ⊢

/-- A request that initializes nothing is answered from the files as they are. -/
private theorem answer_plain {fs : FileSystem} {random : ℕ} {request : ProbeRequest}
    (plain : request.initializePath = "") :
    Executor.frameworkMessage fs random request = (fs, some (Executor.probe fs request)) := by
  rw [Executor.frameworkMessage, if_neg (not_not.mpr plain)]

private theorem backed_handled {input : Input R} (backed : Backed config start past c)
    (stepped : (inputStep config c.scheduler input).next = some s)
    (genuine : ∀ now agent response, input = .frameworkMessage now agent (some response) →
      (agent, response) ∈ c.answers) : Backed config start past { c with
        scheduler := s
        requests := c.requests ++ (inputStep config c.scheduler input).out.flatMap asked } := by
  refine ⟨fun agent request sent => ?_, backed.answers, fun hostname facts known valid => ?_⟩
  · rcases List.mem_append.mp sent with earlier | new
    · exact backed.requests agent request earlier
    · exact asked_uninitialized new
  · have node := node_step stepped hostname
    change s.facts hostname = some facts at known
    rw [known] at node
    generalize after : some facts = now at node
    cases node with
    | kept => exact backed.nodes hostname facts after.symm valid
    | added slaveId absent =>
      cases after
      cases valid
    | @probed now slaveId response before earlier agent =>
      cases after
      intro device listed kind required
      have sent := genuine now slaveId response rfl
      rw [← agent] at sent
      exact backed.answers _ response sent device listed kind required

private theorem backed_step (ran : (run (step config) start past).next = some c)
    (backed : Backed config start past c) (stepped : (step config c action).next = some c') :
    Backed config start (past ++ [action]) c' := by
  cases step_cases stepped with
  | idle => exact backed.append action
  | handled taken genuine => exact (backed_handled backed taken genuine).append _
  | @changed agent files =>
    obtain ⟨requests, answers, nodes⟩ := backed.append (.change agent files)
    exact ⟨requests, answers, nodes⟩
  | @restarted state =>
    obtain ⟨requests, answers, _⟩ := backed.append (.restart state)
    exact ⟨requests, answers, fun _ _ known => absurd known nothing_fresh⟩
  | @answered agent request random sent =>
    obtain ⟨requests, answers, nodes⟩ := backed.append (.answer agent request random)
    refine ⟨requests, fun other response sent' device listed kind required => ?_, nodes⟩
    rcases List.mem_append.mp sent' with earlier | new
    · exact answers other response earlier device listed kind required
    · rw [answer_plain (backed.requests agent request sent)] at new
      obtain ⟨rfl, rfl⟩ := Prod.mk.inj (List.mem_singleton.mp new)
      exact (passed_here ran (listed_found required listed)).append _

theorem backed_run (quiet : Quiet start) (ran : (run (step config) start actions).next = some c) :
    Backed config start actions c :=
  run_recalling (Backed config start) (fun _ _ _ _ ran backed stepped => backed_step ran backed stepped)
    (backed_quiet quiet) ran

/-- A core service is launched on a host only if the agent recorded for the host has
had a mounted file system with the device of the service, whatever was lost, repeated,
delayed or restarted since. -/
theorem core_launches_witnessed (quiet : Quiet start)
    (ran : (run (step config) start actions).next = some c) {now : Int} {offer : Offer R}
    {event : Event R} (emitted : event ∈ (step config c (.handle (.offer now offer))).out)
    (isCore : kind.core = true) {hostname : String} (started : Starts kind hostname event) :
    ∃ facts device, c.scheduler.facts hostname = some facts ∧ requiredBy device = some kind ∧
      Passed (Found facts.slaveIdValue device) (step config) start actions := by
  have emitted' : event ∈ (inputStep config c.scheduler (.offer now offer)).out := emitted
  obtain ⟨s', stepped⟩ := continues_of_emitted emitted'
  obtain ⟨_, _, same, _, rfl, launches⟩ := launched_event started emitted' stepped
  obtain ⟨rfl, rfl⟩ := Input.offer.inj same
  cases launches with
  | prober => cases isCore
  | @service _ node _ _ due _ _ _ valid device =>
    obtain ⟨device, listed, required⟩ := device isCore
    have here : c.scheduler.node offer.hostname = node := by
      rw [Scheduler.node, due.known, Option.getD_some]
    rw [here] at valid listed
    have known : c.scheduler.facts offer.hostname = some node.facts := by
      rw [Scheduler.facts, due.known, Option.map_some]
    exact ⟨_, device, known, required,
      (backed_run quiet ran).nodes _ _ known valid device listed kind required⟩

/-! ### The files -/

/-- What the agents do to their files by themselves. -/
def change (files : String → FileSystem) : Action R → String → FileSystem
  | .change agent new => Function.update files agent new
  | .handle _ | .answer .. | .restart _ => files

/-- The scheduler never makes an executor change a file: the files of every agent are
what the agents themselves made of them. -/
theorem files_kept (quiet : Quiet start) (ran : (run (step config) start actions).next = some c) :
    c.files = actions.foldl change start.files := by
  refine run_recalling (fun past c => c.files = past.foldl change start.files)
    (fun past c action c' ran same stepped => ?_) rfl ran
  have uninitialized := (backed_run quiet ran).requests
  rw [List.foldl_append, List.foldl_cons, List.foldl_nil, ← same]
  cases step_cases stepped with
  | idle kept =>
    cases action with
    | change agent files => exact absurd rfl (kept agent files)
    | handle | answer | restart => rfl
  | handled => rfl
  | changed => rfl
  | restarted => rfl
  | @answered agent request random sent =>
    rw [answer_plain (uninitialized agent request sent)]
    exact Function.update_eq_self agent c.files

/-! ### A device that is pulled out -/

/-- Every agent has a registry device. -/
def registryFleet : Fleet where
  scheduler := Scheduler.fresh { targetVersion := "1" }
  files _ := CoreGate.registryFiles

/-- The executor answers, and the files are gone before the answer arrives. -/
def devicePulled : List (Action TextResources) :=
  [.handle (.offer 1 (wideOffer "o1" "h1")),
    .handle (.statusUpdate 2 { taskId := "quobyte-registry-h1", state := .lost }),
    .handle (.statusUpdate 2 { taskId := "quobyte-device-prober-h1", state := .running }),
    .handle (.offer 200 (wideOffer "o2" "h1")),
    .answer "agent-h1" {} 0,
    .change "agent-h1" {},
    .handle (.frameworkMessage 201 "agent-h1"
      (some { deviceType := [.registry], clientMountPoint := true }))]

private theorem registry_quiet : Quiet registryFleet := ⟨⟨_, rfl⟩, rfl, rfl⟩

private theorem device_pulled_runs : ∃ c,
    (run (step defaultConfig) registryFleet devicePulled).next = some c ∧
      "quobyte-registry-h1" ∈ (step defaultConfig c
        (.handle (.offer 202 (wideOffer "o3" "h1")))).out.flatMap Event.launched := by
  have runs : (run (step defaultConfig) registryFleet devicePulled).next.any (fun c =>
      ((step defaultConfig c (.handle (.offer 202 (wideOffer "o3" "h1")))).out.flatMap
        Event.launched).contains "quobyte-registry-h1") = true := by decide +kernel
  obtain ⟨c, ran, launched⟩ := (Option.any_eq_true _ _).mp runs
  exact ⟨c, ran, List.contains_iff_mem.mp launched⟩

/-- The registry is launched for a device that was there. -/
theorem pulled_device_witnessed : ∃ c facts device,
    (run (step defaultConfig) registryFleet devicePulled).next = some c ∧
    c.scheduler.facts "h1" = some facts ∧ requiredBy device = some .registry ∧
    Passed (Found facts.slaveIdValue device) (step defaultConfig) registryFleet devicePulled := by
  obtain ⟨c, ran, launched⟩ := device_pulled_runs
  obtain ⟨event, emitted, started⟩ := List.mem_flatMap.mp launched
  have named : Starts .registry "h1" event := started
  obtain ⟨facts, device, known, required, passed⟩ :=
    core_launches_witnessed registry_quiet ran emitted rfl named
  exact ⟨c, facts, device, ran, known, required, passed⟩

/-- Its files are now what the agent has left of them. -/
theorem pulled_files_kept : ∃ c, (run (step defaultConfig) registryFleet devicePulled).next = some c ∧
    c.files "agent-h1" = {} ∧ c.files "agent-h2" = CoreGate.registryFiles := by
  obtain ⟨c, ran, _⟩ := device_pulled_runs
  refine ⟨c, ran, ?_, ?_⟩ <;> rw [files_kept registry_quiet ran] <;>
    simp [devicePulled, change, registryFleet]

end Fleet

end QuobyteMesos
