import QuobyteMesos.SchedulerRuns
import QuobyteMesos.SchedulerSteps

/-! Every offer is answered once.

A call consumes the offers of its batch in order, each by one launch with at
least one task or by one decline, and all of them if it returns. Whether a call
returns depends on the flags alone: with `Flags.Complete` no check ends the
process. -/
namespace QuobyteMesos.OfferAnswers
open Mesos Machine SchedulerRuns SchedulerSteps LaunchSteps

variable {R : Type} [Resources R] {config : Config R} {targetVersion : String}
variable {s s' : Scheduler} {now : Int} {offer : Offer R} {offers : List (Int × Offer R)}
variable {calls : List (DriverCall R)} {round : LaunchRound R}

/-! ### The answer to one offer -/

omit [Resources R] in
private theorem kills_consume_nothing {records : Records} (hostname : String) :
    (killServices (R := R) hostname records).filterMap DriverCall.consumed = [] := by
  rw [List.filterMap_eq_nil_iff]
  intro call made
  obtain ⟨task, rfl⟩ := killServices_kills made
  rfl

/-- The calls for one offer consume it once and nothing else, and start at least
one task if they launch. -/
theorem answered_once (answered : Answered config s now offer s' calls) :
    calls.filterMap DriverCall.consumed = [offer.id] ∧
      ∀ id tasks, .launchTasks id tasks ∈ calls → tasks ≠ [] := by
  cases answered with
  | restricted => exact ⟨rfl, by simp⟩
  | discovered => exact ⟨rfl, by simp [reconcileHost]⟩
  | prober => exact ⟨rfl, by simp⟩
  | probe => exact ⟨rfl, by simp [triggerProbe, reconcileHost]⟩
  | launch =>
    split
    · rename_i nonempty
      refine ⟨rfl, ?_⟩
      intro id tasks launched
      cases List.mem_singleton.mp launched
      exact nonempty
    · exact ⟨rfl, by simp⟩
  | shutdown =>
    constructor
    · rw [List.filterMap_append, kills_consume_nothing]
      rfl
    · intro id tasks launched
      rcases List.mem_append.mp launched with killed | declined
      · obtain ⟨task, same⟩ := killServices_kills killed
        cases same
      · cases List.mem_singleton.mp declined

/-! ### A whole batch -/

/-- The calls made for a batch so far: they consume its offers from the first on,
none of them twice and no other, and no launch is empty. -/
structure AnsweredSoFar (offers : List (Int × Offer R)) (calls : List (DriverCall R)) : Prop where
  inOrder : calls.filterMap DriverCall.consumed <+: offers.map (·.2.id)
  once : ∀ id, (calls.filter fun call => call.consumed = some id).length ≤ 1
  nonempty : ∀ id tasks, .launchTasks id tasks ∈ calls → tasks ≠ []

/-- The calls of a batch: each offer is consumed by one call, no other offer is
named, and no launch is empty. -/
structure AnsweredOnce (offers : List (Int × Offer R)) (calls : List (DriverCall R)) : Prop where
  once : ∀ offer ∈ offers, (calls.filter fun call => call.consumed = some offer.2.id).length = 1
  listed : ∀ call ∈ calls, ∀ id, call.consumed = some id → id ∈ offers.map (·.2.id)
  nonempty : ∀ id tasks, .launchTasks id tasks ∈ calls → tasks ≠ []

/-- A call consumes the offers of its batch in their order, and all of them if it
returns. -/
theorem consumed_in_order (config : Config R) (s : Scheduler) (offers : List (Int × Offer R)) :
    (resourceOffers config s offers).out.filterMap DriverCall.consumed <+: offers.map (·.2.id) ∧
      (∀ id tasks, .launchTasks id tasks ∈ (resourceOffers config s offers).out → tasks ≠ []) ∧
      ∀ s', (resourceOffers config s offers).next = some s' →
        (resourceOffers config s offers).out.filterMap DriverCall.consumed = offers.map (·.2.id) := by
  unfold resourceOffers
  induction offers generalizing s with
  | nil => exact ⟨List.nil_prefix, by simp, fun _ _ => rfl⟩
  | cons offer offers ih =>
    cases handled : handleOffer config s offer.1 offer.2 with
    | error abort =>
      -- the process ends before anything is said about this offer
      rw [run_cons_ended (by rw [handled]; rfl), handled]
      refine ⟨List.nil_prefix, by simp [offerOutcome], ?_⟩
      rintro s' ⟨⟩
    | ok answer =>
      obtain ⟨middle, calls⟩ := answer
      have stepped : (offerOutcome (handleOffer config s offer.1 offer.2)).next = some middle := by
        rw [handled]
        rfl
      have first := answered_once (offer_cases handled)
      obtain ⟨begun, nonempty, all⟩ := ih middle
      have made : (offerOutcome (handleOffer config s offer.1 offer.2)).out = calls := by
        rw [handled]
        rfl
      rw [run_cons_next stepped, made]
      simp only [List.filterMap_append, first.1, List.singleton_append, List.map_cons]
      refine ⟨(List.prefix_cons_inj _).mpr begun, fun id tasks launched => ?_, fun s' ran => ?_⟩
      · rcases List.mem_append.mp launched with here | after
        · exact first.2 id tasks here
        · exact nonempty id tasks after
      · rw [all s' ran]

omit [Resources R] in
private theorem consumed_count (calls : List (DriverCall R)) (id : String) :
    (calls.filter fun call => call.consumed = some id).length =
      (calls.filterMap DriverCall.consumed).count id := by
  rw [List.count_filterMap, List.countP_eq_length_filter]
  simp only [beq_eq_decide]

omit [Resources R] in
private theorem answered_of_order (distinct : (offers.map (·.2.id)).Nodup)
    (order : calls.filterMap DriverCall.consumed = offers.map (·.2.id))
    (nonempty : ∀ id tasks, .launchTasks id tasks ∈ calls → tasks ≠ []) :
    AnsweredOnce offers calls := by
  constructor
  · intro offer member
    rw [consumed_count, order]
    exact List.count_eq_one_of_mem distinct (List.mem_map_of_mem member)
  · intro call made id consumed
    rw [← order]
    exact List.mem_filterMap.mpr ⟨call, made, consumed⟩
  · exact nonempty

/-! ### Calls that return -/

section Total

variable (complete : config.flags.Complete) (targetVersion : String) (offer : Offer R)
include complete

private theorem start_cluster_service_total (kind : ServiceKind) (rpcPort httpPort : UInt16)
    (round : LaunchRound R) : ∃ round',
      startClusterService config targetVersion offer kind rpcPort httpPort round = .ok round' := by
  unfold startClusterService
  split
  · obtain ⟨task, built⟩ := makeTask_total complete targetVersion kind.taskName
      (taskId kind offer.hostname) offer.hostname offer.slaveId kind rpcPort httpPort
    exact ⟨_, by rw [built]; rfl⟩
  · exact ⟨_, rfl⟩

private theorem start_core_service_total (kind : ServiceKind) (rpcPort httpPort : UInt16)
    (round : LaunchRound R) : ∃ round',
      startCoreService config targetVersion offer kind rpcPort httpPort round = .ok round' := by
  unfold startCoreService
  split
  · split
    · obtain ⟨task, built⟩ := makeTask_total complete targetVersion kind.taskName
        (taskId kind offer.hostname) offer.hostname offer.slaveId kind rpcPort httpPort
      exact ⟨_, by rw [built]; rfl⟩
    · exact ⟨_, rfl⟩
  · exact ⟨_, rfl⟩

private theorem start_devices_total (devices : List DeviceType) (round : LaunchRound R) :
    ∃ round', startDevices config targetVersion offer devices round = .ok round' := by
  induction devices generalizing round with
  | nil => exact ⟨round, rfl⟩
  | cons device devices ih =>
    have first : ∃ middle, startDevice config targetVersion offer device round = .ok middle := by
      cases device with
      | registry | metadata | data =>
        exact start_core_service_total complete targetVersion offer _ _ _ round
      | bootstrap | client | other => exact ⟨round, rfl⟩
    obtain ⟨middle, started⟩ := first
    rw [startDevices, started]
    exact ih middle

private theorem start_services_total (round : LaunchRound R) :
    ∃ round', startServices config targetVersion offer round = .ok round' := by
  have cluster := start_cluster_service_total complete targetVersion offer
  obtain ⟨afterApi, api⟩ := cluster .api (toPort (config.flags.portRangeBase + 6))
    (toPort (config.flags.portRangeBase + 7)) round
  have s3 : ∃ afterS3, startS3 config targetVersion offer afterApi = .ok afterS3 := by
    unfold startS3
    split
    · exact ⟨afterApi, rfl⟩
    · exact cluster .s3 _ _ afterApi
  obtain ⟨afterS3, s3⟩ := s3
  obtain ⟨afterConsole, console⟩ := cluster .webconsole (toPort (config.flags.portRangeBase + 8))
    (toPort (config.flags.portRangeBase + 9)) afterS3
  obtain ⟨round', devices⟩ := start_devices_total complete targetVersion offer
    afterConsole.records.node.deviceType (startClient config offer afterConsole)
  refine ⟨round', ?_⟩
  rw [startServices, startApi, api]
  show (startS3 config targetVersion offer afterApi).bind _ = _
  rw [s3]
  show (startWebconsole config targetVersion offer afterS3).bind _ = _
  rw [startWebconsole, console]
  exact devices

/-- With complete flags every offer is answered. -/
theorem handleOffer_total (s : Scheduler) (now : Int) :
    ∃ answer, handleOffer config s now offer = .ok answer := by
  unfold handleOffer
  split
  · exact ⟨_, rfl⟩
  · split
    · exact ⟨_, rfl⟩
    · rename_i node known
      unfold handleKnownHost
      split
      · rw [launchProber, createProberTaskInfo, if_neg complete.1]
        exact ⟨_, rfl⟩
      · split
        · exact ⟨_, rfl⟩
        · split
          · obtain ⟨round, started⟩ := start_services_total complete s.state.targetVersion offer
              { records := s.records { node with lastOfferS := now }
                remainingResources := offer.resources }
            rw [launchServices, started]
            exact ⟨_, rfl⟩
          · exact ⟨_, rfl⟩

end Total

/-- With complete flags every call returns. -/
theorem resourceOffers_returns (complete : config.flags.Complete) (s : Scheduler)
    (offers : List (Int × Offer R)) : ∃ s', (resourceOffers config s offers).next = some s' := by
  unfold resourceOffers
  induction offers generalizing s with
  | nil => exact ⟨s, rfl⟩
  | cons offer offers ih =>
    obtain ⟨⟨middle, calls⟩, handled⟩ := handleOffer_total complete offer.2 s offer.1
    have stepped : (offerOutcome (handleOffer config s offer.1 offer.2)).next = some middle := by
      rw [handled]
      rfl
    rw [run_cons_next stepped]
    exact ih middle

/-- Every call answers the offers of a batch with distinct ids in order and at most
once, a call that returns answers all of them, and with complete flags every call
returns. -/
theorem offers_answered_once (config : Config R) (s : Scheduler) (offers : List (Int × Offer R))
    (distinct : (offers.map (·.2.id)).Nodup) :
    AnsweredSoFar offers (resourceOffers config s offers).out ∧
      (∀ s', (resourceOffers config s offers).next = some s' →
        AnsweredOnce offers (resourceOffers config s offers).out) ∧
      (config.flags.Complete → ∃ s', (resourceOffers config s offers).next = some s') := by
  obtain ⟨begun, nonempty, all⟩ := consumed_in_order config s offers
  refine ⟨⟨begun, fun id => ?_, nonempty⟩, fun s' ran => answered_of_order distinct (all s' ran) nonempty,
    fun complete => resourceOffers_returns complete s offers⟩
  rw [consumed_count]
  exact List.nodup_iff_count_le_one.mp (distinct.sublist begun.sublist) id

/-- The default flags let every call return. -/
theorem default_flags_complete : defaultConfig.flags.Complete := by
  refine ⟨by decide, by decide, ?_⟩
  intro kind
  cases kind <;> exact ⟨_, rfl⟩

/-- A batch with two offers of one host. -/
theorem two_offers_answered : ∃ s',
    (resourceOffers defaultConfig (Scheduler.fresh { targetVersion := "1" })
      [(1, wideOffer "o1" "h1"), (1, wideOffer "o2" "h1")]).next = some s' ∧
    AnsweredOnce [(1, wideOffer "o1" "h1"), (1, wideOffer "o2" "h1")]
      (resourceOffers defaultConfig (Scheduler.fresh { targetVersion := "1" })
        [(1, wideOffer "o1" "h1"), (1, wideOffer "o2" "h1")]).out := by
  obtain ⟨_, answered, returns⟩ := offers_answered_once defaultConfig
    (Scheduler.fresh { targetVersion := "1" })
    [(1, wideOffer "o1" "h1"), (1, wideOffer "o2" "h1")] (by decide)
  obtain ⟨s', ran⟩ := returns default_flags_complete
  exact ⟨s', ran, answered s' ran⟩

/-- The default configuration without an image for the framework. -/
def imagelessConfig : Config TextResources where
  flags := { frameworkImage := "" }
  resources := defaultResources
  prepared := by
    intro kind
    cases kind <;> decide +kernel

/-- Without the image the process ends when a prober is due, and the offer it is
due on is left unanswered. -/
theorem imageless_offer_unanswered : ∃ s, Reachable imagelessConfig s ∧
    (resourceOffers imagelessConfig s [(100, wideOffer "o2" "h1")]).out = [] ∧
    ¬ AnsweredOnce [(100, wideOffer "o2" "h1")]
      (resourceOffers imagelessConfig s [(100, wideOffer "o2" "h1")]).out := by
  have ran : (run (callbackStep imagelessConfig) (Scheduler.fresh { targetVersion := "1" })
      [.resourceOffers [(1, wideOffer "o1" "h1")]]).next.map
      (fun s => (resourceOffers imagelessConfig s [(100, wideOffer "o2" "h1")]).out) = some [] := by
    decide +kernel
  obtain ⟨s, reachable, silent⟩ := reachable_of_run ran
  refine ⟨s, reachable, silent, ?_⟩
  intro answered
  have once := answered.once (100, wideOffer "o2" "h1") (List.mem_singleton_self _)
  rw [silent] at once
  cases once

end QuobyteMesos.OfferAnswers
