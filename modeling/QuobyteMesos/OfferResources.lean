import QuobyteMesos.SchedulerSteps

/-! What the tasks of one offer take from it.

The launch branch draws the reservation of every task from what the earlier
ones left of the offer. A recorded service is not started twice because its
record says that it runs; a core service, whose record does not, because the
ports of its reservation are gone. -/
namespace QuobyteMesos.OfferResources
open Mesos Relation ResourcePool SchedulerRuns LaunchSteps SchedulerSteps

variable {R : Type} [Resources R] [ScalarPorts R] {config : Config R} {targetVersion : String}
variable {s s' : Scheduler} {now : Int} {offer : Offer R} {start round round' : LaunchRound R}
variable {kind : ServiceKind} {task : TaskInfo R}

/-- A task and the reservation deducted for it. -/
def Reserved (config : Config R) (offer : Offer R) (task : TaskInfo R) (claim : R) : Prop :=
  ∃ kind, TaskFor config offer kind task ∧ claim = config.resources kind

/-- The tasks listed so far have drawn their reservations from the offer. -/
def Charged (config : Config R) (offer : Offer R) (round : LaunchRound R) : Prop :=
  ∃ claims, Drawn offer.resources claims round.remainingResources ∧
    List.Forall₂ (Reserved config offer) round.tasksToStart claims

private theorem charged_add (charged : Charged config offer round)
    (fits : Resources.contains round.remainingResources (config.resources kind) = true)
    (built : TaskFor config offer kind task) :
    Charged config offer (round.addTask task (config.resources kind)) := by
  obtain ⟨claims, drawn, paired⟩ := charged
  exact ⟨claims ++ [config.resources kind], drawn.draw fits,
    List.rel_append paired (.cons ⟨kind, built, rfl⟩ .nil)⟩

/-- Whatever the launch branch started has been drawn from the offer. -/
theorem charged_steps (available : start.remainingResources = offer.resources)
    (empty : start.tasksToStart = []) (steps : ReflTransGen (StartStep config offer) start round) :
    Charged config offer round := by
  induction steps with
  | refl =>
    refine ⟨[], ?_, ?_⟩
    · rw [available]
      exact .nothing
    · rw [empty]
      exact .nil
  | tail _ step ih =>
    cases step with
    | recorded noted fits starts mounted built => exact charged_add ih fits built
    | core listed required fits starts built => exact charged_add ih fits built
    | shortage => exact ih

/-- The reservation of a listed task is among what was drawn. -/
private theorem claim_of_listed (charged : Charged config offer round)
    (listed : taskId kind offer.hostname ∈ round.tasksToStart.map TaskInfo.taskId) :
    ∃ claims, Drawn offer.resources claims round.remainingResources ∧
      config.resources kind ∈ claims := by
  obtain ⟨claims, drawn, paired⟩ := charged
  obtain ⟨task, member, id⟩ := List.mem_map.mp listed
  obtain ⟨claim, claimed, other, built, rfl⟩ := exists_paired paired task member
  rw [built.id] at id
  obtain ⟨rfl, _⟩ := taskId_injective id
  exact ⟨claims, drawn, claimed⟩

/-- A task that was started fitted the offer on its own. -/
theorem started_fits (charged : Charged config offer round)
    (listed : taskId kind offer.hostname ∈ round.tasksToStart.map TaskInfo.taskId) :
    Resources.contains offer.resources (config.resources kind) = true := by
  obtain ⟨claims, drawn, claimed⟩ := claim_of_listed charged listed
  exact drawn.contains_claim _ claimed

/-! ### Distinct ids -/

/-- The task of a core service holds a port, so a second one does not fit. -/
private theorem core_not_listed (charged : Charged config offer round)
    (token : (ScalarPorts.ports (config.resources kind)).Nonempty)
    (fits : Resources.contains round.remainingResources (config.resources kind) = true) :
    taskId kind offer.hostname ∉ round.tasksToStart.map TaskInfo.taskId := by
  intro listed
  obtain ⟨claims, drawn, claimed⟩ := claim_of_listed charged listed
  have gone := drawn.not_again claimed token
  exact absurd (gone.symm.trans fits) Bool.false_ne_true

omit [ScalarPorts R] in
/-- A recorded service that was launched is not idle any more. -/
private theorem recorded_not_listed (progress : Progress config offer start round)
    (empty : start.tasksToStart = []) (noted : kind.clusterWide = true ∨ kind = .client)
    (starts : doStartService kind round.records.node (round.records.service kind).state = true) :
    taskId kind offer.hostname ∉ round.tasksToStart.map TaskInfo.taskId := by
  intro listed
  rcases progress.named kind noted listed with earlier | running
  · rw [empty] at earlier
    cases earlier
  · have idle := (starts_when_not_running starts).2
    rw [running.1] at idle
    cases idle

omit [ScalarPorts R] in
private theorem distinct_add (distinct : (round.tasksToStart.map TaskInfo.taskId).Nodup)
    (built : TaskFor config offer kind task)
    (fresh : taskId kind offer.hostname ∉ round.tasksToStart.map TaskInfo.taskId) :
    ((round.tasksToStart ++ [task]).map TaskInfo.taskId).Nodup := by
  rw [List.map_append, List.map_singleton, built.id]
  simpa only [List.concat_eq_append] using distinct.concat fresh

/-- The reservation of a core service holds its RPC port. -/
theorem core_holds_port (ports : config.HoldsListedPorts) (isCore : kind.core = true) :
    (ScalarPorts.ports (config.resources kind)).Nonempty := by
  cases kind <;> cases isCore <;>
    exact ⟨_, ports _ _ (by rw [listedPorts]; exact List.mem_cons_self)⟩

/-- The tasks of one round differ in their ids. -/
theorem distinct_steps (ports : config.HoldsListedPorts)
    (available : start.remainingResources = offer.resources) (empty : start.tasksToStart = [])
    (steps : ReflTransGen (StartStep config offer) start round) :
    (round.tasksToStart.map TaskInfo.taskId).Nodup := by
  induction steps with
  | refl =>
    rw [empty]
    exact List.nodup_nil
  | tail before step ih =>
    cases step with
    | recorded noted fits starts mounted built =>
      exact distinct_add ih built (recorded_not_listed (progress_steps before) empty noted starts)
    | @core kind device task listed required fits starts built =>
      have token := core_holds_port ports (core_of_required required)
      have charged := charged_steps available empty before
      exact distinct_add ih built (core_not_listed charged token fits)
    | shortage => exact ih

/-! ### The launch and its offer -/

/-- A task holds no more than its reservation; the client's holds nothing. -/
private theorem held_of_reserved {claim : R} (reserved : Reserved config offer task claim) :
    Within task.resources claim := by
  obtain ⟨kind, built, rfl⟩ := reserved
  rw [built.resources]
  split
  · constructor
    · intro name
      show ScalarPorts.scalar Resources.empty name ≤ _
      rw [ScalarPorts.scalar_empty]
      exact Nat.zero_le _
    · show ScalarPorts.ports Resources.empty ⊆ _
      rw [ScalarPorts.ports_empty]
      exact Set.empty_subset _
  · exact within_refl _

/-- Tasks that differ in their ids and together fit into an offer: no amount is
exceeded, every port is one of the offer, and no port is given away twice. -/
structure FitsOffer (offer : Offer R) (tasks : List (TaskInfo R)) : Prop where
  distinct : (tasks.map TaskInfo.taskId).Nodup
  amounts : ∀ name, (tasks.map fun task => ScalarPorts.scalar task.resources name).sum ≤
    ScalarPorts.scalar offer.resources name
  ports : ∀ task ∈ tasks, ScalarPorts.ports task.resources ⊆ ScalarPorts.ports offer.resources
  separate : tasks.Pairwise fun first second =>
    Disjoint (ScalarPorts.ports first.resources) (ScalarPorts.ports second.resources)

private theorem fits_of_charged (charged : Charged config offer round)
    (distinct : (round.tasksToStart.map TaskInfo.taskId).Nodup) :
    FitsOffer offer round.tasksToStart := by
  obtain ⟨claims, drawn, paired⟩ := charged
  have within : List.Forall₂ Within (round.tasksToStart.map TaskInfo.resources) claims := by
    rw [List.forall₂_map_left_iff]
    exact paired.imp fun _ _ => held_of_reserved
  obtain ⟨amounts, ports, separate⟩ := drawn.held_within within
  constructor
  · exact distinct
  · intro name
    have bounded := amounts name
    rwa [List.map_map] at bounded
  · intro task member
    exact ports task.resources (List.mem_map_of_mem member)
  · rw [List.pairwise_map] at separate
    exact separate

/-- The tasks launched on an offer never take more than the offer holds,
whatever devices the host reports. -/
theorem offer_not_overcommitted {calls : List (DriverCall R)} {id : String}
    {tasks : List (TaskInfo R)} (ports : config.HoldsListedPorts)
    (handled : handleOffer config s now offer = .ok (s', calls))
    (launched : .launchTasks id tasks ∈ calls) : FitsOffer offer tasks := by
  cases launch_cases handled launched with
  | prober node known due fits built agent resources =>
    obtain ⟨amounts, ports⟩ := (ScalarPorts.contains_iff _ _).mp fits
    rw [← resources] at amounts ports
    exact ⟨List.nodup_singleton _, by simpa using amounts, by simpa using ports,
      List.pairwise_singleton _ _⟩
  | services node due ran =>
    have steps := start_services_steps ran
    exact fits_of_charged (charged_steps rfl rfl steps) (distinct_steps ports rfl rfl steps)

/-- The default reservations hold the ports of their texts. -/
theorem default_holds_ports : defaultConfig.HoldsListedPorts := by
  have held : ∀ kind : ServiceKind, (listedPorts defaultConfig.flags kind).all
      (fun port => (defaultResources kind).held.contains port.toNat) = true := by
    intro kind
    cases kind <;> decide +kernel
  intro kind port listed
  have found := List.all_eq_true.mp (held kind) port listed
  exact List.contains_iff_mem.mp found

/-- A host with three devices, two of them alike, none of its services running. -/
def idleHost : Scheduler :=
  { Scheduler.fresh { targetVersion := "1" } with
    nodes := (∅ : Std.ExtTreeMap String NodeState).insert "h1" {
      hostname := "h1"
      registry := { state := .notRunning }
      data := { state := .notRunning }
      deviceType := [.data, .registry, .data]
      deviceTypesValid := true } }

/-- The second data device does not get a second task. -/
theorem idle_host_fits : ∃ tasks : List (TaskInfo TextResources),
    tasks.map TaskInfo.taskId = ["quobyte-data-h1", "quobyte-registry-h1"] ∧
      FitsOffer (wideOffer "o1" "h1") tasks := by
  have launched : (handleOffer defaultConfig idleHost 1 (wideOffer "o1" "h1")).toOption.map
      (fun answer => answer.2.map DriverCall.launched) =
      some [["quobyte-data-h1", "quobyte-registry-h1"]] := by decide +kernel
  cases handled : handleOffer defaultConfig idleHost 1 (wideOffer "o1" "h1") with
  | error abort => rw [handled] at launched; cases launched
  | ok answer =>
    obtain ⟨s', calls⟩ := answer
    rw [handled] at launched
    obtain ⟨call, rfl, ids⟩ : ∃ call, calls = [call] ∧
        call.launched = ["quobyte-data-h1", "quobyte-registry-h1"] := by
      simpa [Except.toOption, List.map_eq_cons_iff] using launched
    cases call with
    | launchTasks id tasks =>
      exact ⟨tasks, ids,
        offer_not_overcommitted default_holds_ports handled (List.mem_singleton_self _)⟩
    | declineOffer | killTask | reconcileTasks | sendFrameworkMessage => cases ids

end QuobyteMesos.OfferResources
