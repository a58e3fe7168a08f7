import QuobyteMesos.ServiceRecords

/-! No second launch before the first task is over.

A launch of a cluster service or a client is recorded under its task id, a
launch of a prober as starting. The record holds on until an update reports that
very task as over, and while it holds nothing of its kind is launched, so the
two launches are kept apart (`Guards`). Launches of core services are not
recorded; what keeps them apart are the offers (`core_launches_separated`). -/
namespace QuobyteMesos.LaunchExclusion
open Mesos Machine SchedulerRuns SchedulerSteps RecordSteps ServiceRecords

variable {R : Type} [Resources R] {config : Config R} {s s' : Scheduler} {input : Input R}
variable {hostname host : String} {kind : ServiceKind} {status : TaskStatus} {event : Event R}

/-- The event starts the service on the host. -/
def Starts (kind : ServiceKind) (hostname : String) (event : Event R) : Prop :=
  taskId kind hostname ∈ event.launched

/-- The event starts another task for the same record: the service on the same
host, or a cluster service anywhere. -/
def StartsAgain (kind : ServiceKind) (hostname : String) (event : Event R) : Prop :=
  ∃ host, (kind.clusterWide = true ∨ hostname = host) ∧ Starts kind host event

/-- A terminal update of the service's task on the host. -/
def Ends (kind : ServiceKind) (hostname : String) (event : Event R) : Prop :=
  event.ended = some (taskId kind hostname)

/-- The record remembers the launch: the prober's by its state, every other one
by state and task id. -/
def Remembers (kind : ServiceKind) (hostname : String) (service : ServiceState) : Prop :=
  if kind = .prober then
    service.state = .starting ∨ service.state = .running
  else
    service.state = .running ∧ service.taskId = taskId kind hostname

/-- A task is started by an offer of its host, and by nothing else that the
scheduler does for that offer. -/
theorem launched_event (started : Starts kind hostname event)
    (emitted : event ∈ (inputStep config s input).out)
    (stepped : (inputStep config s input).next = some s') :
    ∃ now offer, input = .offer now offer ∧ (inputStep config s input).out = [event] ∧
      offer.hostname = hostname ∧ Launches config s s' now offer kind := by
  cases event with
  | delivered status => cases started
  | called call =>
    obtain ⟨now, offer, other, fromOffer, only, built, launches⟩ :=
      launch_origin stepped emitted started
    obtain ⟨rfl, rfl⟩ := taskId_injective built
    exact ⟨now, offer, fromOffer, only, rfl, launches⟩

/-- A launch is all that the input observed with it does. -/
theorem launched_alone {head tail : List (Event R)} (started : Starts kind hostname event)
    (split : (inputStep config s input).out = head ++ event :: tail) :
    head = [] ∧ tail = [] ∧ ∃ s' now offer, (inputStep config s input).next = some s' ∧
      input = .offer now offer ∧ offer.hostname = hostname ∧
      Launches config s s' now offer kind := by
  have emitted : event ∈ (inputStep config s input).out := by simp [split]
  obtain ⟨s', stepped⟩ := continues_of_emitted emitted
  obtain ⟨now, offer, fromOffer, only, host, launches⟩ := launched_event started emitted stepped
  rw [only] at split
  cases head with
  | nil =>
    have alone := (List.cons.inj split).2.symm
    exact ⟨rfl, alone, s', now, offer, stepped, fromOffer, host, launches⟩
  | cons first head => simp at split

/-- While the record remembers a launch, no task is launched for it. -/
private theorem holds_blocks (holds : Remembers kind hostname (s.record hostname kind))
    (emitted : event ∈ (inputStep config s input).out) : ¬ StartsAgain kind hostname event := by
  rintro ⟨host, here, started⟩
  obtain ⟨s', stepped⟩ := continues_of_emitted emitted
  obtain ⟨now, offer, _, _, rfl, launches⟩ := launched_event started emitted stepped
  have same : s.record hostname kind = s.record offer.hostname kind := by
    rcases here with shared | rfl
    · exact record_shared shared _ _
    · rfl
  rw [Remembers, same] at holds
  cases launches with
  | prober resting =>
    rcases holds with starting | running
    · exact resting.2 starting
    · exact resting.1 running
  | service other due ran listed idle =>
    rw [if_neg other, idle] at holds
    cases holds.1

private theorem accepted_names (named : (s.record hostname kind).taskId = taskId kind hostname)
    (accepted : acceptsUpdate (s.record hostname kind) status = true) :
    status.taskId = taskId kind hostname := by
  simpa [acceptsUpdate, named, taskId_ne_empty] using accepted

/-- The record remembers a launch until the task is reported as over. -/
private theorem holds_step (holds : Remembers kind hostname (s.record hostname kind))
    (stepped : (inputStep config s input).next = some s')
    (silent : ∀ event ∈ (inputStep config s input).out, ¬ Ends kind hostname event) :
    Remembers kind hostname (s'.record hostname kind) := by
  have step := record_step stepped hostname kind
  generalize s'.record hostname kind = after at step ⊢
  generalize outEq : (inputStep config s input).out = out at step
  unfold Remembers at holds ⊢
  by_cases isProber : kind = .prober
  · rw [if_pos isProber] at holds ⊢
    cases step with
    | kept state => rwa [state]
    | launched noted here known idle =>
      rw [idle] at holds
      rcases holds with starting | running
      · cases starting
      · cases running
    | proberStarted _ here resting =>
      rcases holds with starting | running
      · exact absurd starting resting.2
      · exact absurd running resting.1
    | seen => exact .inr rfl
    | @terminated now status host _ target here terminal =>
      refine absurd ?_ (silent (.delivered status) (by simp [inputStep]))
      rw [Ends, Event.ended, if_pos terminal, (target_iff.mp target).1]
      rcases here with shared | rfl
      · rw [isProber] at shared
        cases shared
      · rfl
  · rw [if_neg isProber] at holds ⊢
    obtain ⟨running, named⟩ := holds
    cases step with
    | kept state id => exact ⟨state.trans running, id.trans named⟩
    | launched noted here known idle =>
      rw [running] at idle
      cases idle
    | proberStarted kindEq => exact absurd kindEq isProber
    | seen target here alive present accepted => exact ⟨rfl, accepted_names named accepted⟩
    | @terminated now status host _ target here terminal ended accepted =>
      refine absurd ?_ (silent (.delivered status) (by simp [inputStep]))
      rw [Ends, Event.ended, if_pos terminal, accepted_names named accepted]

/-- For every service but the core ones, the record keeps a launch and the next
one apart. -/
theorem launch_guards (config : Config R) (kind : ServiceKind) (recorded : kind.core = false)
    (hostname : String) :
    Guards (inputStep config) RecordInv
      (fun s => Remembers kind hostname (s.record hostname kind))
      (Starts kind hostname) (StartsAgain kind hostname) (Ends kind hostname) := by
  constructor
  · intro s input s' inv stepped
    exact record_inv_step inv stepped
  · intro s input _ pre event rest split started
    obtain ⟨_, alone, _⟩ := launched_alone started split
    rw [alone]
    exact blocked_nil
  · intro s input s' pre event rest _ stepped split started _
    have emitted : event ∈ (inputStep config s input).out := by simp [split]
    obtain ⟨now, offer, _, _, rfl, launches⟩ := launched_event started emitted stepped
    cases launches with
    | prober resting starting => exact .inl starting
    | service other due ran listed idle valid device named =>
      rw [Remembers, if_neg other]
      apply named
      cases kind <;> first
        | exact .inl rfl
        | exact .inr rfl
        | exact absurd rfl other
        | cases recorded
  · intro s input s' _ holds stepped silent
    exact holds_step holds stepped silent
  · intro s input _ holds pre event post split again
    have emitted : event ∈ (inputStep config s input).out := by simp [split]
    exact absurd again (holds_blocks holds emitted)

/-- An update naming another task leaves the record of a remembered launch. -/
private theorem foreign_update_kept (config : Config R) (now : Int)
    (holds : Remembers kind hostname (s.record hostname kind))
    (foreign : status.taskId ≠ taskId kind hostname) :
    ((statusUpdate (R := R) s now status).1.record hostname kind).state =
        (s.record hostname kind).state ∧
      ((statusUpdate (R := R) s now status).1.record hostname kind).taskId =
        (s.record hostname kind).taskId := by
  have stepped : (inputStep config s (.statusUpdate now status)).next =
    some (statusUpdate (R := R) s now status).1 := rfl
  have own : ∀ host, statusTarget status.taskId = some (kind, host) →
      kind.clusterWide = true ∨ hostname = host →
        acceptsUpdate (s.record hostname kind) status = false := by
    intro host target here
    rw [Bool.eq_false_iff]
    intro accepted
    apply foreign
    by_cases isProber : kind = .prober
    · rw [(target_iff.mp target).1]
      rcases here with shared | rfl
      · rw [isProber] at shared
        cases shared
      · rfl
    · rw [Remembers, if_neg isProber] at holds
      exact accepted_names holds.2 accepted
  have step := record_step stepped hostname kind
  generalize (statusUpdate (R := R) s now status).1.record hostname kind = after at step ⊢
  cases step with
  | kept state id => exact ⟨state, id⟩
  | @seen _ _ host _ target here alive present accepted
  | @terminated _ _ host _ target here terminal ended accepted =>
    rw [own host target here] at accepted
    cases accepted

/-- A launch of a recorded service is not followed by another one before its task
has been reported as over, and until then no update of another task touches the
record. -/
theorem recorded_launches_separated (config : Config R) (state : SchedulerState)
    (kind : ServiceKind) (recorded : kind.core = false) (hostname : String)
    (callbacks : List (Callback R)) :
    Separated (Starts kind hostname) (StartsAgain kind hostname) (Ends kind hostname)
      (run (callbackStep config) (Scheduler.fresh state) callbacks).out ∧
    ∀ s, (run (callbackStep config) (Scheduler.fresh state) callbacks).next = some s →
      ∀ pre first rest,
        (run (callbackStep config) (Scheduler.fresh state) callbacks).out = pre ++ first :: rest →
        Starts kind hostname first → (∀ event ∈ rest, ¬ Ends kind hostname event) →
        ∀ now status, status.taskId ≠ taskId kind hostname →
          ((statusUpdate (R := R) s now status).1.record hostname kind).state =
              (s.record hostname kind).state ∧
            ((statusUpdate (R := R) s now status).1.record hostname kind).taskId =
              (s.record hostname kind).taskId := by
  have guards := launch_guards config kind recorded hostname
  have start := record_inv_fresh state
  rw [callback_runs]
  refine ⟨guards.separated start _, ?_⟩
  intro s ran pre first rest split started silent now status foreign
  have holds := guards.outstanding start ran split started silent
  exact foreign_update_kept config now holds foreign

/-- The launched api fails, and its host is offered once more. -/
def apiRelaunched : List (Callback TextResources) :=
  apiLaunched ++
    [.statusUpdate 3 { taskId := "quobyte-api-h1", state := .failed },
      .resourceOffers [(4, wideOffer "o3" "h1")]]

/-- The api is launched twice, and the report of the failure comes in between. -/
theorem api_launches_separated :
    ((run (callbackStep defaultConfig) (Scheduler.fresh { targetVersion := "1" })
      apiRelaunched).out.flatMap Event.launched).count "quobyte-api-h1" = 2 ∧
    Separated (Starts .api "h1") (StartsAgain .api "h1") (Ends .api "h1")
      (run (callbackStep defaultConfig) (Scheduler.fresh { targetVersion := "1" })
        apiRelaunched).out :=
  ⟨by decide +kernel, (recorded_launches_separated defaultConfig _ .api rfl "h1" apiRelaunched).1⟩

end QuobyteMesos.LaunchExclusion
