import QuobyteMesos.LaunchAgenda
import QuobyteMesos.OfferResources

/-! What launched tasks carry of what was deducted for them.

`makeTask` puts the reservation into the task, and the caller of
`createProberTaskInfo` does; for `createClientTaskInfo` nobody does. The books
of an offer balance exactly if no client is launched whose reservation holds
anything. -/
namespace QuobyteMesos.LaunchAccounting
open Mesos Machine ResourcePool SchedulerRuns SchedulerSteps LaunchSteps LaunchAgenda

variable {R : Type} [Resources R] [ScalarPorts R] {config : Config R} {s s' : Scheduler}
variable {now : Int} {offer : Offer R} {node : NodeState} {calls : List (DriverCall R)}
variable {tasks : List (TaskInfo R)} {kinds : List ServiceKind} {id : String}

/-- The offer is the sum of what the tasks carry and what is left. -/
structure SumsUp (offer : Offer R) (tasks : List (TaskInfo R)) (left : R) : Prop where
  amounts : ∀ name, (tasks.map fun task => ScalarPorts.scalar task.resources name).sum +
    ScalarPorts.scalar left name = ScalarPorts.scalar offer.resources name
  ports : ∀ port, port ∈ ScalarPorts.ports offer.resources ↔
    port ∈ ScalarPorts.ports left ∨ ∃ task ∈ tasks, port ∈ ScalarPorts.ports task.resources

/-- Every task goes to the agent of the offer with the reservation of its service,
so that the offer is what the tasks carry and what the launch branch has left. -/
structure Accounted (config : Config R) (s : Scheduler) (now : Int) (offer : Offer R)
    (tasks : List (TaskInfo R)) : Prop where
  agent : ∀ task ∈ tasks, task.slaveId = offer.slaveId
  reserved : ∀ task ∈ tasks, ∃ kind, task.taskId = taskId kind offer.hostname ∧
    task.resources = config.resources kind
  sums : ∀ node round, ServicesDue config s now offer node →
    startServices config s.state.targetVersion offer
      { records := s.records { node with lastOfferS := now }
        remainingResources := offer.resources } = .ok round →
    SumsUp offer tasks round.remainingResources
  prober : ∀ task ∈ tasks, task.taskId = taskId .prober offer.hostname →
    Resources.contains offer.resources task.resources = true

/-- The client is due: it is idle on a probed node with a mount point, and its
reservation fits into what the api, s3 and the webconsole leave. -/
structure ClientDue (config : Config R) (s : Scheduler) (now : Int) (offer : Offer R)
    (node : NodeState) : Prop where
  due : ServicesDue config s now offer node
  idle : doStartService .client node node.client.state = true
  mounted : node.clientMountPoint = true
  fits : Resources.contains (serve config.resources (admits config (s.records node))
    [.api, .s3, .webconsole] offer.resources).2 (config.resources .client) = true

/-! ### The services served -/

/-- The services an offer serves in the launch branch. -/
def servedKinds (config : Config R) (s : Scheduler) (offer : Offer R) (node : NodeState) :
    List ServiceKind :=
  (serve config.resources (admits config (s.records node)) (agenda node) offer.resources).1

private theorem client_served_iff : .client ∈ servedKinds config s offer node ↔
    (doStartService .client node node.client.state && node.clientMountPoint) = true ∧
      Resources.contains (serve config.resources (admits config (s.records node))
        [.api, .s3, .webconsole] offer.resources).2 (config.resources .client) = true := by
  have before : ServiceKind.client ∉ (serve config.resources (admits config (s.records node))
      [.api, .s3, .webconsole] offer.resources).1 := fun served =>
    absurd (served_subset _ _ _ served) (by decide)
  have behind (left : R) : ServiceKind.client ∉ (serve config.resources
      (admits config (s.records node)) (coreWishes node) left).1 := fun served =>
    absurd (core_of_wished (served_subset _ _ _ served)) (by decide)
  have asked : agenda node = [.api, .s3, .webconsole] ++ .client :: coreWishes node := rfl
  rw [servedKinds, asked, serve_append, List.mem_append, or_iff_right before, serve]
  split
  · rename_i taken
    exact iff_of_true List.mem_cons_self (Bool.and_eq_true_iff.mp taken)
  · rename_i refused
    exact iff_of_false (behind _) fun both => refused (Bool.and_eq_true_iff.mpr both)

/-! ### Balanced books -/

omit [ScalarPorts R] in
/-- But for a client with a reservation, the tasks carry what was deducted. -/
private theorem carried (built : List.Forall₂ (TaskFor config offer) kinds tasks)
    (nothing : .client ∈ kinds → config.resources .client = Resources.empty) :
    tasks.map TaskInfo.resources = kinds.map config.resources := by
  induction built with
  | nil => rfl
  | @cons kind task kinds tasks head _ ih =>
    have first : task.resources = config.resources kind := by
      rw [head.resources]
      split
      · rename_i same
        subst same
        exact (nothing List.mem_cons_self).symm
      · rfl
    rw [List.map_cons, List.map_cons, first, ih fun member => nothing (List.mem_cons_of_mem _ member)]

/-- Tasks that carry what was drawn balance with what is left. -/
private theorem sums_of_drawn {left : R}
    (drawn : Drawn offer.resources (kinds.map config.resources) left)
    (same : tasks.map TaskInfo.resources = kinds.map config.resources) :
    SumsUp offer tasks left := by
  rw [← same] at drawn
  constructor
  · intro name
    have total := drawn.amount name
    rwa [List.map_map] at total
  · intro port
    have held := drawn.tokens_iff port
    simp only [List.mem_map, exists_exists_and_eq_and] at held
    exact held

/-! ### The launch of an offer -/

/-- In the launch branch the books balance exactly if a client that is served has
no reservation. -/
private theorem services_accounted_iff {round : LaunchRound R}
    (due : ServicesDue config s now offer node)
    (ran : startServices config s.state.targetVersion offer
      { records := s.records { node with lastOfferS := now }
        remainingResources := offer.resources } = .ok round) :
    Accounted config s now offer round.tasksToStart ↔
      (.client ∈ servedKinds config s offer node → config.resources .client = Resources.empty) := by
  obtain ⟨left, built⟩ := start_services_serves ran rfl
  simp only [admits_offered] at left built
  constructor
  · intro books served
    obtain ⟨task, member, client⟩ := exists_paired built .client served
    obtain ⟨kind, id, resources⟩ := books.reserved task member
    obtain ⟨rfl, _⟩ := taskId_injective (client.id.symm.trans id)
    rw [← resources, client.resources, if_pos rfl]
  · intro nothing
    have same := carried built nothing
    have kindOf := exists_paired built.flip
    refine ⟨?_, ?_, ?_, ?_⟩
    · intro task member
      obtain ⟨kind, _, task⟩ := kindOf task member
      exact task.agent
    · intro task member
      obtain ⟨kind, served, task⟩ := kindOf task member
      refine ⟨kind, task.id, ?_⟩
      rw [task.resources]
      split
      · rename_i client
        subst client
        exact (nothing served).symm
      · rfl
    · intro other round' due' ran'
      obtain rfl : node = other := Option.some.inj (due.known.symm.trans due'.known)
      obtain rfl : round = round' := Except.ok.inj (ran.symm.trans ran')
      rw [left]
      exact sums_of_drawn (drawn_served _ _) same
    · intro task member prober
      obtain ⟨kind, served, task⟩ := kindOf task member
      obtain ⟨rfl, _⟩ := taskId_injective (task.id.symm.trans prober)
      rcases List.mem_append.mp (served_subset _ _ _ served) with outer | wished
      · exact absurd outer (by decide)
      · exact absurd (core_of_wished wished) (by decide)

/-- An offer's launch balances exactly if no client with a reservation is due on it. -/
theorem launch_accounted_iff (handled : handleOffer config s now offer = .ok (s', calls))
    (launched : .launchTasks id tasks ∈ calls) :
    Accounted config s now offer tasks ↔
      ∀ node, ClientDue config s now offer node → config.resources .client = Resources.empty := by
  cases launch_cases handled launched with
  | prober node known due fits built agent resources =>
    have cared (other : NodeState) : ¬ ServicesDue config s now offer other := by
      intro services
      obtain rfl : node = other := Option.some.inj (known.symm.trans services.known)
      have passed := services.proberCared
      rw [due, fits] at passed
      cases passed
    refine iff_of_true ⟨?_, ?_, ?_, ?_⟩ fun other client => absurd client.due (cared other)
    · simpa using agent
    · simpa using ⟨.prober, built, resources⟩
    · exact fun other _ services => absurd services (cared other)
    · simpa [resources] using fun _ => fits
  | services node due ran =>
    rw [services_accounted_iff due ran, client_served_iff]
    constructor
    · intro nothing other client
      obtain rfl : node = other := Option.some.inj (due.known.symm.trans client.due.known)
      exact nothing ⟨by rw [client.idle, client.mounted]; rfl, client.fits⟩
    · intro nothing ⟨admitted, fits⟩
      obtain ⟨idle, mounted⟩ := Bool.and_eq_true_iff.mp admitted
      exact nothing node ⟨due, idle, mounted, fits⟩

/-! ### Two launches -/

/-- The api is launched on a host without a mount point for the client. -/
theorem api_accounted : ∃ s tasks, Reachable defaultConfig s ∧
    tasks.map TaskInfo.taskId = ["quobyte-api-h1"] ∧
    Accounted defaultConfig s 2 (wideOffer "o2" "h1") tasks := by
  have ran : (run (callbackStep defaultConfig) (Scheduler.fresh { targetVersion := "1" })
      (apiLaunched.take 3)).next.map (fun s => (s.nodes["h1"]?.map NodeState.clientMountPoint,
        launchesWith defaultConfig s 2 (wideOffer "o2" "h1") fun tasks =>
          tasks.map TaskInfo.taskId = ["quobyte-api-h1"])) = some (some false, true) := by
    decide +kernel
  obtain ⟨s, reachable, viewed⟩ := reachable_of_run ran
  obtain ⟨unmounted, passed⟩ := Prod.mk.inj viewed
  obtain ⟨s', calls, id, tasks, handled, launched, ids⟩ := launch_of_check passed
  refine ⟨s, tasks, reachable, by simpa using ids, (launch_accounted_iff handled launched).mpr ?_⟩
  intro node client
  have mounted : s.nodes["h1"]?.map NodeState.clientMountPoint = some true := by
    rw [show s.nodes["h1"]? = some node from client.due.known, Option.map_some, client.mounted]
  rw [unmounted] at mounted
  cases mounted

/-- A client is idle on a host with a mount point and no devices. -/
def clientIdle : List (Callback TextResources) :=
  [.resourceOffers [(1, wideOffer "o1" "h1")],
    .statusUpdate 1 { taskId := "quobyte-client-h1", state := .lost },
    .frameworkMessage 1 "agent-h1" (some { clientMountPoint := true })]

/-- The client is launched with no resources at all. -/
theorem client_unaccounted : ∃ s s' calls id tasks, Reachable defaultConfig s ∧
    handleOffer defaultConfig s 2 (wideOffer "o2" "h1") = .ok (s', calls) ∧
    .launchTasks id tasks ∈ calls ∧
    ¬ Accounted defaultConfig s 2 (wideOffer "o2" "h1") tasks := by
  have ran : (run (callbackStep defaultConfig) (Scheduler.fresh { targetVersion := "1" })
      clientIdle).next.map (fun s => launchesWith defaultConfig s 2 (wideOffer "o2" "h1") fun tasks =>
        tasks.any fun task => task.taskId = taskId .client "h1" && task.resources = {}) =
      some true := by decide +kernel
  obtain ⟨s, reachable, passed⟩ := reachable_of_run ran
  obtain ⟨s', calls, id, tasks, handled, launched, found⟩ := launch_of_check passed
  refine ⟨s, s', calls, id, tasks, reachable, handled, launched, fun books => ?_⟩
  obtain ⟨task, member, checks⟩ := List.any_eq_true.mp found
  obtain ⟨client, empty⟩ : task.taskId = taskId .client "h1" ∧ task.resources = {} := by
    simpa using checks
  obtain ⟨kind, named, carries⟩ := books.reserved task member
  obtain ⟨rfl, _⟩ := taskId_injective (client.symm.trans named)
  rw [empty] at carries
  exact absurd (congrArg Bundle.amounts carries) (by decide)

end QuobyteMesos.LaunchAccounting
