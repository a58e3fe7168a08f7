import QuobyteMesos.LaunchExclusion
import QuobyteMesos.OfferResources

/-! Launches of core services.

Unlike every other launch, the launch of a registry, metadata or data service
leaves its record as it was: idle. Only a report that the task runs fills it, so
the next offer of the host can start the same task again if it comes first, unless
it no longer contains the reservation. What the records say about the tasks in
flight is the invariant here (`in_flight_recorded`), and the launches are kept
apart in every run in which an offer with room for the service comes after the
report (`core_launches_separated`). -/
namespace QuobyteMesos.CoreLaunches
open Mesos Machine SchedulerRuns SchedulerSteps LaunchSteps RecordSteps OfferResources
open LaunchExclusion ServiceRecords

variable {R : Type} [Resources R] {config : Config R} {s s' : Scheduler} {now : Int}
variable {offer : Offer R} {kind : ServiceKind} {hostname : String} {trace : List (Event R)}

/-- A launch was observed and no terminal update of the task since. -/
def Outstanding (kind : ServiceKind) (hostname : String) (trace : List (Event R)) : Prop :=
  ∃ pre first rest, trace = pre ++ first :: rest ∧ Starts kind hostname first ∧
    ∀ event ∈ rest, ¬ Ends kind hostname event

/-- The offer has room for a core service of its host: the launch branch is reached,
the host is known to have the device, and the offer contains the reservation. -/
structure CoreOffered (config : Config R) (s : Scheduler) (now : Int) (offer : Offer R)
    (kind : ServiceKind) : Prop where
  due : ∃ node, ServicesDue config s now offer node
  valid : (s.node offer.hostname).deviceTypesValid = true
  device : ∃ device ∈ (s.node offer.hostname).deviceType, requiredBy device = some kind
  fits : Resources.contains offer.resources (config.resources kind) = true

/-- What tells about a task in flight. -/
inductive Sign where
  | launched
  | answered
  deriving DecidableEq, Repr

/-- An update that answers a launch: the task is over, or runs while its device is not
known to be missing. -/
def answers (kind : ServiceKind) (hostname : String) (s : Scheduler) : Input R → Bool
  | .statusUpdate _ status => statusTarget status.taskId = some (kind, hostname) ∧
      (isTerminal status.state = true ∨
        status.state = .running ∧ s.lacksDevice hostname kind = false)
  | .offer .. | .frameworkMessage .. | .registered _ | .reregistered | .postVersion _ => false

/-- A launch of the service on the host, or an answer to one. -/
def sign (config : Config R) (kind : ServiceKind) (hostname : String) (s : Scheduler)
    (input : Input R) : Option Sign :=
  if taskId kind hostname ∈ (inputStep config s input).out.flatMap Event.launched then some .launched
  else if answers kind hostname s input = true then some .answered
  else none

/-- The last launch of the service on the host has not been answered. -/
def Unanswered (config : Config R) (start : Scheduler) (kind : ServiceKind) (hostname : String)
    (inputs : List (Input R)) : Prop :=
  lastSign (sign config kind hostname) (inputStep config) start inputs = some .launched

instance (start : Scheduler) (inputs : List (Input R)) :
    Decidable (Unanswered config start kind hostname inputs) :=
  inferInstanceAs (Decidable (lastSign _ _ _ _ = _))

/-- Every offer with room for a core service of its host comes after the answer to the
last launch of that service. -/
def OfferedAfterAnswers (config : Config R) (start : Scheduler) (inputs : List (Input R)) : Prop :=
  Throughout (fun before s input => ∀ now offer, input = .offer now offer →
    ∀ kind : ServiceKind, kind.core = true → CoreOffered config s now offer kind →
      ¬ Unanswered config start kind offer.hostname before) (inputStep config) start inputs

/-! ### The records of tasks in flight -/

omit [Resources R] in
/-- What is outstanding after more was observed was launched just now, or has been
outstanding and was not ended. -/
private theorem outstanding_append {later : List (Event R)}
    (outstanding : Outstanding kind hostname (trace ++ later)) :
    (∃ event ∈ later, Starts kind hostname event) ∨
      Outstanding kind hostname trace ∧ ∀ event ∈ later, ¬ Ends kind hostname event := by
  obtain ⟨pre, first, rest, split, started, silent⟩ := outstanding
  rcases List.append_eq_append_iff.mp split with ⟨front, rfl, after⟩ | ⟨back, rfl, after⟩
  · exact .inl ⟨first, by simp [after], started⟩
  · cases back with
    | nil =>
      rw [List.nil_append] at after
      exact .inl ⟨first, by simp [← after], started⟩
    | cons head back =>
      obtain ⟨rfl, rfl⟩ := List.cons.inj after
      exact .inr ⟨⟨pre, _, back, rfl, started, fun event member =>
        silent event (List.mem_append_left _ member)⟩, fun event member =>
        silent event (List.mem_append_right _ member)⟩

/-- The record of a core service keeps saying that it runs until its end is reported. -/
private theorem running_kept (isCore : kind.core = true) {input : Input R}
    (running : (s.record hostname kind).state = .running)
    (stepped : (inputStep config s input).next = some s')
    (silent : ∀ event ∈ (inputStep config s input).out, ¬ Ends kind hostname event) :
    (s'.record hostname kind).state = .running := by
  have after := record_step stepped hostname kind
  generalize s'.record hostname kind = record at after ⊢
  generalize outEq : (inputStep config s input).out = out at after
  cases after with
  | kept state => rw [state, running]
  | launched _ _ _ idle => exact absurd (running.symm.trans idle) (by decide)
  | proberStarted isProber =>
    rw [isProber] at isCore
    cases isCore
  | seen => rfl
  | @terminated now status host _ target here terminal =>
    obtain rfl : hostname = host := here.resolve_left (by simp [ServiceKind.clusterWide_of_core isCore])
    refine absurd ?_ (silent (.delivered status) List.mem_cons_self)
    rw [Ends, Event.ended, if_pos terminal, (target_iff.mp target).1]

omit [Resources R] in
/-- The record of a core service says that it runs once that has been reported. -/
private theorem running_of_report (inv : RecordInv s) (isCore : kind.core = true)
    {status : TaskStatus} (target : statusTarget status.taskId = some (kind, hostname))
    (running : status.state = .running) (present : s.lacksDevice hostname kind = false) :
    ((statusUpdate (R := R) s now status).1.record hostname kind).state = .running := by
  have own : kind.clusterWide = false := ServiceKind.clusterWide_of_core isCore
  have accepted := own_update_accepted inv target own
  have needed : s.shouldRun hostname kind status = true := by simp [Scheduler.shouldRun, own, present]
  rw [record_statusUpdate target, needed]
  simp [recordAfter, running, accepted, recordSeen]

/-- A core task in flight whose launch has been answered is recorded as running. -/
structure Recorded (config : Config R) (start : Scheduler) (kind : ServiceKind)
    (hostname : String) (seen : List (Input R)) (s : Scheduler) : Prop where
  records : RecordInv s
  running : Outstanding kind hostname (run (inputStep config) start seen).out →
    ¬ Unanswered config start kind hostname seen → (s.record hostname kind).state = .running

theorem recorded_step {start : Scheduler} {seen : List (Input R)} {input : Input R}
    (isCore : kind.core = true) (ran : (run (inputStep config) start seen).next = some s)
    (recorded : Recorded config start kind hostname seen s)
    (stepped : (inputStep config s input).next = some s') :
    Recorded config start kind hostname (seen ++ [input]) s' := by
  refine ⟨record_inv_step recorded.records stepped, fun outstanding answered => ?_⟩
  rw [run_append_next ran, run_singleton] at outstanding
  rw [Unanswered, lastSign_append ran] at answered
  have unlaunched : taskId kind hostname ∉ (inputStep config s input).out.flatMap Event.launched := by
    intro launched
    have again : sign config kind hostname s input = some .launched := if_pos launched
    rw [again] at answered
    exact answered rfl
  rcases outstanding_append outstanding with ⟨event, emitted, started⟩ | ⟨before, silent⟩
  · exact absurd (List.mem_flatMap.mpr ⟨event, emitted, started⟩) unlaunched
  by_cases now : answers kind hostname s input = true
  · cases input with
    | statusUpdate now status =>
      obtain ⟨target, terminal | ⟨running, present⟩⟩ := of_decide_eq_true now
      · refine absurd ?_ (silent (.delivered status) List.mem_cons_self)
        rw [Ends, Event.ended, if_pos terminal, (target_iff.mp target).1]
      · cases stepped
        exact running_of_report recorded.records isCore target running present
    | offer | frameworkMessage | registered | reregistered | postVersion => cases now
  · have none : sign config kind hostname s input = none := by
      rw [sign, if_neg unlaunched, if_neg now]
    rw [none, Option.none_or] at answered
    exact running_kept isCore (recorded.running before answered) stepped silent

/-- In every run of an incarnation, a core task in flight whose launch has been answered
is recorded as running. -/
theorem in_flight_recorded {state : SchedulerState} {inputs : List (Input R)}
    (isCore : kind.core = true) (hostname : String)
    (ran : (run (inputStep config) (Scheduler.fresh state) inputs).next = some s) :
    Recorded config (Scheduler.fresh state) kind hostname inputs s := by
  refine run_recalling (Recorded config (Scheduler.fresh state) kind hostname)
    (fun _ _ _ _ reached recorded stepped => recorded_step isCore reached recorded stepped)
    ⟨record_inv_fresh state, fun outstanding => ?_⟩ ran
  obtain ⟨pre, first, rest, split, _⟩ := outstanding
  simp at split

/-! ### Launches kept apart -/

/-- A core service is launched only when the offer has room for it and its record is
idle. -/
theorem core_launch_due [ScalarPorts R] {event : Event R} (isCore : kind.core = true)
    (started : Starts kind hostname event)
    (emitted : event ∈ (inputStep config s (.offer now offer)).out) :
    hostname = offer.hostname ∧ CoreOffered config s now offer kind ∧
      (s.record offer.hostname kind).state = .notRunning := by
  obtain ⟨s', stepped⟩ := continues_of_emitted emitted
  obtain ⟨_, _, same, _, rfl, launches⟩ := launched_event started emitted stepped
  obtain ⟨rfl, rfl⟩ := Input.offer.inj same
  cases launches with
  | prober => cases isCore
  | service other due ran listed idle valid device =>
    have charged := charged_steps rfl rfl (start_services_steps ran)
    exact ⟨rfl, ⟨⟨_, due⟩, valid, device isCore, started_fits charged listed⟩, idle⟩

/-- Two launches of a core service are kept apart by a terminal update in every run in
which the offers with room for it come after the answers to its launches. -/
theorem core_launches_separated [ScalarPorts R] (config : Config R) (state : SchedulerState)
    (kind : ServiceKind) (isCore : kind.core = true) (hostname : String)
    (callbacks : List (Callback R))
    (after : OfferedAfterAnswers config (Scheduler.fresh state)
      (callbacks.flatMap Callback.inputs)) :
    Separated (Starts kind hostname) (Starts kind hostname) (Ends kind hostname)
      (run (callbackStep config) (Scheduler.fresh state) callbacks).out := by
  rw [callback_runs]
  intro pre first rest split started mid second post inRest again
  by_contra silent
  -- the input that launches again, and the run up to it
  have whole : (run (inputStep config) (Scheduler.fresh state)
      (callbacks.flatMap Callback.inputs)).out = (pre ++ first :: mid) ++ second :: post := by
    rw [split, inRest]
    simp
  obtain ⟨before, input, later, s, head, tail, inputs, ran, emitted, upTo⟩ := emitted_at whole
  have launched : second ∈ (inputStep config s input).out := by simp [emitted]
  obtain ⟨nothing, _, _, now, offer, _, rfl, rfl, _⟩ := launched_alone again emitted
  rw [nothing, List.append_nil] at upTo
  have outstanding : Outstanding kind offer.hostname
      (run (inputStep config) (Scheduler.fresh state) before).out :=
    ⟨pre, first, mid, upTo.symm, started, fun event member ends => silent ⟨event, member, ends⟩⟩
  obtain ⟨_, offered, idle⟩ := core_launch_due isCore again launched
  have answered := after before _ later s inputs ran now offer rfl kind isCore offered
  have running := (in_flight_recorded isCore offer.hostname ran).running outstanding answered
  rw [idle] at running
  cases running

/-- A host with a registry device is offered once more, and the registry starts. -/
def registryOnce : List (Callback TextResources) :=
  [.resourceOffers [(1, wideOffer "o1" "h1")],
    .statusUpdate 1 { taskId := "quobyte-registry-h1", state := .lost },
    .frameworkMessage 1 "agent-h1" (some { deviceType := [.registry] }),
    .resourceOffers [(2, wideOffer "o2" "h1")]]

/-- It reports that it runs before its host is offered again, fails, and is launched once
more. -/
def registryRestarted : List (Callback TextResources) :=
  registryOnce ++
    [.statusUpdate 3 { taskId := "quobyte-registry-h1", state := .running },
      .resourceOffers [(4, wideOffer "o3" "h1")],
      .statusUpdate 5 { taskId := "quobyte-registry-h1", state := .failed },
      .resourceOffers [(6, wideOffer "o4" "h1")]]

/-- The two launches, with the report of the failure between them. -/
theorem restarted_registry_separated :
    ((run (callbackStep defaultConfig) (Scheduler.fresh { targetVersion := "1" })
      registryRestarted).out.flatMap Event.launched).count "quobyte-registry-h1" = 2 ∧
    Separated (Starts .registry "h1") (Starts .registry "h1") (Ends .registry "h1")
      (run (callbackStep defaultConfig) (Scheduler.fresh { targetVersion := "1" })
        registryRestarted).out := by
  refine ⟨by decide +kernel,
    core_launches_separated defaultConfig _ .registry rfl "h1" registryRestarted ?_⟩
  let check (before : List (Input TextResources)) (_ : Scheduler) : Input TextResources → Bool
    | .offer _ offer => [ServiceKind.registry, .metadata, .data].all fun kind =>
        ¬ Unanswered defaultConfig (Scheduler.fresh { targetVersion := "1" }) kind offer.hostname before
    | _ => true
  have checked : throughoutCheck check (inputStep defaultConfig) []
      (Scheduler.fresh { targetVersion := "1" }) (registryRestarted.flatMap Callback.inputs) = true := by
    decide +kernel
  have implies : ∀ before s (input : Input TextResources), check before s input = true →
      ∀ now offer, input = .offer now offer → ∀ kind : ServiceKind, kind.core = true →
        CoreOffered defaultConfig s now offer kind →
          ¬ Unanswered defaultConfig (Scheduler.fresh { targetVersion := "1" }) kind offer.hostname before := by
    rintro before s _ passed now offer rfl kind isCore _
    have listed : kind ∈ [ServiceKind.registry, .metadata, .data] := by
      cases kind <;> simp_all [ServiceKind.core]
    exact of_decide_eq_true (List.all_eq_true.mp passed kind listed)
  exact throughout_of_check check implies checked

/-- The host is offered again before the launched registry is heard of. -/
def registryTwice : List (Callback TextResources) :=
  registryOnce ++ [.resourceOffers [(3, wideOffer "o3" "h1")]]

/-- The registry is launched on both offers, and nothing is delivered in between. -/
theorem registry_launched_twice :
    ¬ Separated (Starts .registry "h1") (Starts .registry "h1") (Ends .registry "h1")
      (run (callbackStep defaultConfig) (Scheduler.fresh { targetVersion := "1" })
        registryTwice).out := by
  intro separated
  have observed : (run (callbackStep defaultConfig) (Scheduler.fresh { targetVersion := "1" })
      registryTwice).out.map (fun event => (event.launched, event.ended)) =
      [([], none), ([], none), ([], some "quobyte-registry-h1"),
        (["quobyte-registry-h1"], none), (["quobyte-registry-h1"], none)] := by decide +kernel
  have viewed := separated_map (fun event : Event TextResources => (event.launched, event.ended))
    (fun seen => taskId .registry "h1" ∈ seen.1) (fun seen => taskId .registry "h1" ∈ seen.1)
    (fun seen => seen.2 = some (taskId .registry "h1")) separated
  rw [observed] at viewed
  obtain ⟨_, nothing, _⟩ := viewed [([], none), ([], none), ([], some "quobyte-registry-h1")]
    (["quobyte-registry-h1"], none) [(["quobyte-registry-h1"], none)] rfl (by decide +kernel)
    [] (["quobyte-registry-h1"], none) [] rfl (by decide +kernel)
  cases nothing

end QuobyteMesos.CoreLaunches
