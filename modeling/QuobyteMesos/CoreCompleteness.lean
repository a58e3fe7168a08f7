import Mathlib.Data.List.Count
import QuobyteMesos.LaunchAgenda
import QuobyteMesos.OfferAnswers
import QuobyteMesos.OfferResources

/-! Which core services an offer launches.

The api, s3, the webconsole and the client are served first, and only the count
in `doStartService` keeps them from it while a core service is missing. Where
they are let through they can take what the core services need. An offer
launches all core services due on its host exactly if their reservations fit
into what the others leave. -/
namespace QuobyteMesos.CoreCompleteness
open Mesos Machine ResourcePool SchedulerRuns SchedulerSteps LaunchSteps LaunchAgenda
open OfferResources OfferAnswers

variable {R : Type} [Resources R] {config : Config R} {s s' : Scheduler} {now : Int}
variable {offer : Offer R} {node : NodeState} {kind : ServiceKind} {calls : List (DriverCall R)}

/-- The core services with a listed device and an idle record, each once. -/
def coreDue (s : Scheduler) (node : NodeState) : List ServiceKind :=
  ((coreWishes node).filter fun kind => ((s.records node).service kind).state = .notRunning).dedup

/-- One task is launched for every core service that is due, and none for any
other. -/
def LaunchesCore (s : Scheduler) (node : NodeState) (offer : Offer R) (calls : List (DriverCall R)) :
    Prop :=
  ∀ kind : ServiceKind, kind.core = true →
    (calls.flatMap DriverCall.launched).count (taskId kind offer.hostname) =
      if kind ∈ coreDue s node then 1 else 0

variable [ScalarPorts R]

/-- The offer contains the sum of the reservations due. -/
def OffersSum (config : Config R) (s : Scheduler) (offer : Offer R) (node : NodeState) : Prop :=
  (∀ name, ((coreDue s node).map fun kind => ScalarPorts.scalar (config.resources kind) name).sum ≤
    ScalarPorts.scalar offer.resources name) ∧
  ∀ kind ∈ coreDue s node,
    ScalarPorts.ports (config.resources kind) ⊆ ScalarPorts.ports offer.resources

/-- What is left of the offer behind the api, s3, the webconsole and the client,
each of which takes its reservation if it is admitted and fits. -/
def outerLeft (config : Config R) (s : Scheduler) (offer : Offer R) (node : NodeState) : R :=
  (serve config.resources (admits config (s.records node)) outerKinds offer.resources).2

/-- The reservations due fit into what is left for them. -/
def CoreFits (config : Config R) (s : Scheduler) (offer : Offer R) (node : NodeState) : Prop :=
  Fits (outerLeft config s offer node) ((coreDue s node).map config.resources)

/-! ### The core services served -/

theorem core_of_due (member : kind ∈ coreDue s node) : kind.core = true :=
  core_of_wished (List.mem_of_mem_filter (List.mem_dedup.mp member))

/-- The core services served from what is left. -/
def coreServed (config : Config R) (s : Scheduler) (offer : Offer R) (node : NodeState) :
    List ServiceKind :=
  (serve config.resources (admits config (s.records node)) (coreWishes node)
    (outerLeft config s offer node)).1

omit [Resources R] [ScalarPorts R] in
private theorem should_start_iff (state : ServiceState.TaskState) :
    shouldServiceBeStarted state = decide (state = .notRunning) := by
  cases state <;> rfl

omit [ScalarPorts R] in
/-- A core service of a probed node is admitted when its record is idle. -/
private theorem core_admitted (valid : node.deviceTypesValid = true) (isCore : kind.core = true)
    (left : R) : admits config (s.records node) kind left =
      decide (((s.records node).service kind).state = .notRunning) := by
  have guard : admits config (s.records node) kind left =
      doStartService kind node ((s.records node).service kind).state := by
    cases kind <;> cases isCore <;> rfl
  have counted (state : ServiceState.TaskState) :
      doStartService kind node state = shouldServiceBeStarted state := by
    cases kind <;> cases isCore <;> simp [doStartService, valid]
  rw [guard, counted, should_start_iff]

private theorem core_served_eq (valid : node.deviceTypesValid = true) :
    coreServed config s offer node = (serve config.resources (fun _ _ => true)
      ((coreWishes node).filter fun kind => ((s.records node).service kind).state = .notRunning)
      (outerLeft config s offer node)).1 := by
  rw [coreServed, serve_filter _ _ _ fun kind wished left =>
    core_admitted valid (core_of_wished wished) left]

/-- Each core service due is served at most once, and all of them are exactly if
they fit. -/
theorem core_served_iff (ports : config.HoldsListedPorts) (valid : node.deviceTypesValid = true) :
    (coreServed config s offer node).Nodup ∧
    (∀ kind ∈ coreServed config s offer node, kind ∈ coreDue s node) ∧
    ((∀ kind ∈ coreDue s node, kind ∈ coreServed config s offer node) ↔
      CoreFits config s offer node) := by
  have token : ∀ kind ∈ (coreWishes node).filter fun kind =>
      ((s.records node).service kind).state = .notRunning,
      (Pool.tokens (config.resources kind)).Nonempty := fun kind wished =>
    core_holds_port ports (core_of_wished (List.mem_of_mem_filter wished))
  rw [core_served_eq valid]
  refine ⟨served_nodup token _, ?_, ?_⟩
  · intro kind served
    exact List.mem_dedup.mpr (served_subset _ _ kind served)
  · simp only [coreDue, List.mem_dedup]
    exact all_served_iff (fun _ _ _ => rfl) token _

/-! ### The tasks launched -/

omit [ScalarPorts R] in
private theorem built_ids {kinds : List ServiceKind} {tasks : List (TaskInfo R)}
    (built : List.Forall₂ (TaskFor config offer) kinds tasks) :
    tasks.map TaskInfo.taskId = kinds.map (taskId · offer.hostname) := by
  induction built with
  | nil => rfl
  | cons head _ ih => rw [List.map_cons, List.map_cons, head.id, ih]

/-- The tasks an offer launches are those of the services served, core services
after the others. -/
theorem launched_ids (due : ServicesDue config s now offer node)
    (handled : handleOffer config s now offer = .ok (s', calls)) :
    ∃ outer : List ServiceKind, (∀ kind ∈ outer, kind ∈ outerKinds) ∧
      calls.flatMap DriverCall.launched =
        (outer ++ coreServed config s offer node).map (taskId · offer.hostname) := by
  rw [services_handled due] at handled
  obtain ⟨round, ran, answer⟩ := except_map_ok handled
  obtain ⟨_, built⟩ := start_services_serves ran rfl
  have ids : calls.flatMap DriverCall.launched = round.tasksToStart.map TaskInfo.taskId := by
    cases answer
    split
    · simp [DriverCall.launched]
    · rename_i none
      simp [DriverCall.launched, not_not.mp none]
  refine ⟨(serve config.resources (admits config (s.records node)) outerKinds offer.resources).1,
    served_subset outerKinds offer.resources, ?_⟩
  rw [ids, built_ids built]
  simp only [admits_offered]
  have asked : agenda (s.records { node with lastOfferS := now }).node =
      outerKinds ++ coreWishes node := rfl
  rw [asked, serve_append]
  rfl

theorem core_count (due : ServicesDue config s now offer node)
    (handled : handleOffer config s now offer = .ok (s', calls)) (isCore : kind.core = true) :
    (calls.flatMap DriverCall.launched).count (taskId kind offer.hostname) =
      (coreServed config s offer node).count kind := by
  obtain ⟨outer, listed, ids⟩ := launched_ids due handled
  have injective : Function.Injective (taskId · offer.hostname) := fun _ _ same =>
    (taskId_injective same).1
  have outside : outer.count kind = 0 := by
    apply List.count_eq_zero.mpr
    intro member
    have none : ∀ kind ∈ outerKinds, kind.core = false := by decide
    rw [none kind (listed kind member)] at isCore
    cases isCore
  rw [ids, List.count_map_of_injective _ _ injective, List.count_append, outside, Nat.zero_add]

/-- The offer launches the core services due exactly if they fit into what the other
services leave. -/
theorem launches_core_iff (ports : config.HoldsListedPorts)
    (due : ServicesDue config s now offer node) (valid : node.deviceTypesValid = true)
    (handled : handleOffer config s now offer = .ok (s', calls)) :
    LaunchesCore s node offer calls ↔ CoreFits config s offer node := by
  obtain ⟨once, listed, all⟩ : (coreServed config s offer node).Nodup ∧ _ :=
    core_served_iff ports valid
  rw [← all]
  constructor
  · intro launches kind member
    have isCore := core_of_due member
    have counted := launches kind isCore
    rw [core_count due handled isCore, if_pos member] at counted
    exact List.count_pos_iff.mp (by omega)
  · intro served kind isCore
    rw [core_count due handled isCore]
    split
    · rename_i member
      exact List.count_eq_one_of_mem once (served kind member)
    · rename_i rests
      exact List.count_eq_zero.mpr fun member => rests (listed kind member)

/-- An offer that reaches the launch branch of a probed host: with complete flags
it is answered, and every answer launches exactly the core services due, provided
the offer contains their sum, if and only if that sum being contained implies that
they fit into what the other services leave. -/
theorem core_launches_complete_iff (ports : config.HoldsListedPorts)
    (due : ServicesDue config s now offer node) (valid : node.deviceTypesValid = true) :
    (config.flags.Complete → ∃ answer, handleOffer config s now offer = .ok answer) ∧
    ∀ s' calls, handleOffer config s now offer = .ok (s', calls) →
      ((OffersSum config s offer node → LaunchesCore s node offer calls) ↔
        (OffersSum config s offer node → CoreFits config s offer node)) := by
  refine ⟨fun complete => handleOffer_total complete offer s now, ?_⟩
  intro s' calls handled
  exact imp_congr_right fun _ => launches_core_iff ports due valid handled

/-! ### A shut gate -/

/-- Behind a shut gate the whole offer is left to the core services. -/
theorem outer_left_shut (valid : node.deviceTypesValid = true)
    (shut : coreServicesRunning node ≠ node.deviceType.length) :
    outerLeft config s offer node = offer.resources := by
  have refused : ∀ outer ∈ outerKinds, ∀ left, admits config (s.records node) outer left = false := by
    intro outer member left
    simp only [outerKinds, List.mem_cons, List.not_mem_nil, or_false] at member
    rcases member with rfl | rfl | rfl | rfl <;>
      simp [admits, doStartService, valid, shut, Scheduler.records]
  rw [outerLeft, serve_filter (fun _ => false) _ _ refused, List.filter_false]
  rfl

/-- Behind a shut gate the core services due are launched exactly if they fit into the
offer. -/
theorem shut_gate_launches (ports : config.HoldsListedPorts)
    (due : ServicesDue config s now offer node) (valid : node.deviceTypesValid = true)
    (shut : coreServicesRunning node ≠ node.deviceType.length)
    (handled : handleOffer config s now offer = .ok (s', calls)) :
    LaunchesCore s node offer calls ↔
      Fits offer.resources ((coreDue s node).map config.resources) := by
  rw [launches_core_iff ports due valid handled, CoreFits, outer_left_shut valid shut]

/-! ### A registry and the api on one offer -/

/-- A single reservation that is contained fits. -/
private theorem fits_alone {left claim : R} (fits : Resources.contains left claim = true) :
    Fits left [claim] := by
  have drawn : Drawn left ([] ++ [claim]) (Pool.take left claim) := Drawn.nothing.draw fits
  exact drawn.fits

private theorem sum_of_fits (fits : Fits offer.resources ((coreDue s node).map config.resources)) :
    OffersSum config s offer node := by
  refine ⟨fun name => ?_, fun kind member => ?_⟩
  · have bounded := fits.amounts name
    rwa [List.map_map] at bounded
  · exact fits.held _ (List.mem_map_of_mem member)

/-- A host with a registry device on which neither the registry nor the api runs. -/
def registryIdle : List (Callback TextResources) :=
  [.resourceOffers [(1, wideOffer "o1" "h1")],
    .statusUpdate 1 { taskId := "quobyte-registry-h1", state := .lost },
    .statusUpdate 1 { taskId := "quobyte-api-h1", state := .lost },
    .frameworkMessage 1 "agent-h1" (some { deviceType := [.registry] })]

/-- What an offer meets: whether the registry alone is due and offered for, and
whether it fits what is left for it. -/
def meets (offer : Offer TextResources) (s : Scheduler) : Option (Bool × Bool) :=
  (launchNode defaultConfig s 2 offer).map fun node =>
    (node.deviceTypesValid && coreDue s node = [.registry] &&
        Resources.contains offer.resources (defaultConfig.resources .registry),
      Resources.contains (outerLeft defaultConfig s offer node) (defaultConfig.resources .registry))

/-- The offered sum of a registry that is due alone. -/
private theorem registry_due {offer : Offer TextResources} {left : Bool}
    (met : meets offer s = some (true, left)) : ∃ node, ServicesDue defaultConfig s 2 offer node ∧
      node.deviceTypesValid = true ∧ coreDue s node = [.registry] ∧
      OffersSum defaultConfig s offer node ∧
      Resources.contains (outerLeft defaultConfig s offer node)
        (defaultConfig.resources .registry) = left := by
  obtain ⟨node, found, checks⟩ := Option.map_eq_some_iff.mp met
  simp only [Prod.mk.injEq, Bool.and_eq_true, decide_eq_true_eq] at checks
  obtain ⟨⟨⟨valid, listed⟩, offered⟩, left⟩ := checks
  refine ⟨node, due_of_launchNode found, valid, listed, sum_of_fits ?_, left⟩
  rw [listed]
  exact fits_alone offered

/-- The registry fits and is launched. -/
theorem registry_completes : ∃ s node s' calls, Reachable defaultConfig s ∧
    coreDue s node = [.registry] ∧
    handleOffer defaultConfig s 2 (wideOffer "o2" "h1") = .ok (s', calls) ∧
    LaunchesCore s node (wideOffer "o2" "h1") calls := by
  have ran : (run (callbackStep defaultConfig) (Scheduler.fresh { targetVersion := "1" })
      registryIdle).next.map (fun s => (meets (wideOffer "o2" "h1") s,
        (handleOffer defaultConfig s 2 (wideOffer "o2" "h1")).toOption.any fun _ => true)) =
      some (some (true, true), true) := by decide +kernel
  obtain ⟨s, reachable, viewed⟩ := reachable_of_run ran
  obtain ⟨met, answered⟩ := Prod.mk.inj viewed
  obtain ⟨node, due, valid, listed, sum, left⟩ := registry_due met
  obtain ⟨⟨s', calls⟩, handled, _⟩ := except_any_ok answered
  have fits : CoreFits defaultConfig s (wideOffer "o2" "h1") node := by
    rw [CoreFits, listed]
    exact fits_alone left
  refine ⟨s, node, s', calls, reachable, listed, handled, ?_⟩
  exact ((core_launches_complete_iff default_holds_ports due valid).2 s' calls handled).mpr
    (fun _ => fits) sum

/-- A metadata service runs beside the registry device, so that the api is let
through. -/
def metadataStray : List (Callback TextResources) :=
  [.resourceOffers [(1, wideOffer "o1" "h1")],
    .statusUpdate 1 { taskId := "quobyte-registry-h1", state := .lost },
    .statusUpdate 1 { taskId := "quobyte-api-h1", state := .lost },
    .statusUpdate 1 { taskId := "quobyte-metadata-h1", state := .running },
    .frameworkMessage 1 "agent-h1" (some { deviceType := [.registry] })]

/-- An offer with just what the registry takes, and the ports of the api. -/
def narrowOffer : Offer TextResources where
  id := "o2"
  hostname := "h1"
  slaveId := "agent-h1"
  resources := reservation 1000 2084 32 [21000, 21001, 21006, 21007, 8889]

/-- The api takes what the registry needs. -/
theorem registry_displaced : ∃ s node s' calls, Reachable defaultConfig s ∧
    ServicesDue defaultConfig s 2 narrowOffer node ∧ node.deviceTypesValid = true ∧
    coreDue s node = [.registry] ∧ OffersSum defaultConfig s narrowOffer node ∧
    handleOffer defaultConfig s 2 narrowOffer = .ok (s', calls) ∧
    calls.flatMap DriverCall.launched = ["quobyte-api-h1"] ∧
    ¬ LaunchesCore s node narrowOffer calls := by
  have ran : (run (callbackStep defaultConfig) (Scheduler.fresh { targetVersion := "1" })
      metadataStray).next.map (fun s => (meets narrowOffer s,
        (handleOffer defaultConfig s 2 narrowOffer).toOption.any fun answer =>
          answer.2.flatMap DriverCall.launched = ["quobyte-api-h1"])) =
      some (some (true, false), true) := by decide +kernel
  obtain ⟨s, reachable, viewed⟩ := reachable_of_run ran
  obtain ⟨met, answered⟩ := Prod.mk.inj viewed
  obtain ⟨node, due, valid, listed, sum, _⟩ := registry_due met
  obtain ⟨⟨s', calls⟩, handled, launched⟩ := except_any_ok answered
  have ids : calls.flatMap DriverCall.launched = ["quobyte-api-h1"] := by simpa using launched
  refine ⟨s, node, s', calls, reachable, due, valid, listed, sum, handled, ids, fun complete => ?_⟩
  have registry := complete .registry rfl
  rw [ids, listed] at registry
  exact absurd registry (by decide)

end QuobyteMesos.CoreCompleteness
