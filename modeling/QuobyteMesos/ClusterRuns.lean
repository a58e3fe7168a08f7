import QuobyteMesos.Cluster
import QuobyteMesos.KillDecision
import QuobyteMesos.Rollout

/-! What happens in the cluster over whole runs.

Once no version is wanted, nothing but probers is launched, and every service the
scheduler asks about or hears of is gone when all messages have been taken up
(`shutdown_drains`). Clients are never asked about, so that none is launched in a
cluster that runs none (`clients_never_launched`). -/
namespace QuobyteMesos.Cluster
open Mesos Machine SchedulerRuns SchedulerSteps RecordSteps LaunchExclusion

variable {R : Type} [Resources R] {config : Config R} {c c' : Cluster} {action : Action R}
variable {actions : List (Action R)} {kind : ServiceKind} {host : String} {id : String}

/-! ### One action -/

/-- What an action makes of the cluster, with what the scheduler emitted. -/
inductive Moved (config : Config R) (c : Cluster) : Action R → Cluster → List (Event R) → Prop where
  | idle {action : Action R} : Moved config c action c []
  | told {now : Int} {status : TaskStatus} {s : Scheduler} (sent : status ∈ c.updates)
      (stepped : (inputStep config c.scheduler (.statusUpdate now status)).next = some s) :
      Moved config c (.handle (.statusUpdate now status))
        ({ c with updates := c.updates.erase status }.send s
          (inputStep config c.scheduler (.statusUpdate now status)).out)
        (inputStep config c.scheduler (.statusUpdate now status)).out
  | handled {input : Input R} {s : Scheduler} (other : ∀ now status, input ≠ .statusUpdate now status)
      (stepped : (inputStep config c.scheduler input).next = some s) :
      Moved config c (.handle input) (c.send s (inputStep config c.scheduler input).out)
        (inputStep config c.scheduler input).out
  | started {status : TaskStatus} (running : status.state = .running)
      (sent : status.taskId ∈ c.launches) :
      Moved config c (.started status) ({ c with
        launches := c.launches.erase status.taskId
        live := insert status.taskId c.live }.report status) []
  | dropped {status : TaskStatus} (sent : status.taskId ∈ c.launches) :
      Moved config c (.dropped status)
        ({ c with launches := c.launches.erase status.taskId }.report status) []
  | stopped {status : TaskStatus} (alive : status.taskId ∈ c.live) :
      Moved config c (.stopped status)
        ({ c with live := c.live.erase status.taskId }.report status) []
  | killed {status : TaskStatus} (sent : status.taskId ∈ c.kills) :
      Moved config c (.killed status) ({ c with
        kills := c.kills.erase status.taskId
        live := c.live.erase status.taskId }.report status) []
  | listed {status : TaskStatus} (alive : status.taskId ∈ c.live) :
      Moved config c (.answered status) (c.report status) []
  | answered {status : TaskStatus} (sent : some status.taskId ∈ c.requests)
      (truth : status.state = c.known status.taskId) :
      Moved config c (.answered status)
        ({ c with requests := c.requests.erase (some status.taskId) }.report status) []

private theorem handled_next {input : Input R} (stepped : (handle config c input).next = some c') :
    ∃ s, (inputStep config c.scheduler input).next = some s ∧
      c.send s (inputStep config c.scheduler input).out = c' :=
  Option.map_eq_some_iff.mp stepped

theorem moved (stepped : (step config c action).next = some c') :
    Moved config c action c' (step config c action).out := by
  cases action with
  | handle input =>
    cases input with
    | statusUpdate now status =>
      rw [step] at stepped ⊢
      split
      · rename_i sent
        rw [if_pos sent] at stepped
        obtain ⟨s, taken, rfl⟩ := handled_next stepped
        exact .told sent taken
      · rename_i unsent
        rw [if_neg unsent] at stepped
        cases stepped
        exact .idle
    | offer | frameworkMessage | registered | reregistered | postVersion =>
      obtain ⟨s, taken, rfl⟩ := handled_next stepped
      refine .handled ?_ taken
      rintro _ _ ⟨⟩
  | started status | dropped status | stopped status | killed status =>
    rw [step] at stepped ⊢
    split
    · rename_i possible
      rw [if_pos possible] at stepped
      cases stepped
      first
        | exact .started possible.1 possible.2
        | exact .dropped possible.2
        | exact .stopped possible.2
        | exact .killed possible.1
    · rename_i impossible
      rw [if_neg impossible] at stepped
      cases stepped
      exact .idle
  | answered status =>
    rw [step] at stepped ⊢
    split
    · rename_i listed
      rw [if_pos listed] at stepped
      cases stepped
      exact .listed listed.2.1
    · rename_i unlisted
      rw [if_neg unlisted] at stepped
      split
      · rename_i asked
        rw [if_pos asked] at stepped
        cases stepped
        exact .answered asked.1 asked.2
      · rename_i unasked
        rw [if_neg unasked] at stepped
        cases stepped
        exact .idle

/-! ### A shutdown -/

/-- The framework is to shut down. -/
def Unwanted (c : Cluster) : Prop := c.scheduler.state.targetVersion = ""

/-- No version is posted but the empty one. -/
def StaysDown : Action R → Prop
  | .handle (.postVersion version) => version = ""
  | .handle _ | .started _ | .dropped _ | .stopped _ | .killed _ | .answered _ => True

private theorem unwanted_input {s s' : Scheduler} {input : Input R} (unwanted : s.state.targetVersion = "")
    (down : StaysDown (.handle input)) (stepped : (inputStep config s input).next = some s') :
    s'.state.targetVersion = "" := by
  rw [Rollout.state_step stepped]
  cases input with
  | postVersion version => exact down
  | offer | statusUpdate | frameworkMessage | registered | reregistered => exact unwanted

theorem unwanted_step (unwanted : Unwanted c) (down : StaysDown action)
    (stepped : (step config c action).next = some c') : Unwanted c' := by
  have after := moved stepped
  generalize (step config c action).out = out at after
  cases after with
  | told sent taken => exact unwanted_input unwanted down taken
  | handled other taken => exact unwanted_input unwanted down taken
  | idle | started | dropped | stopped | killed | listed | answered => exact unwanted

/-- Without a version nothing but probers is launched. -/
private theorem unwanted_launch (unwanted : Unwanted c) (service : kind ≠ .prober)
    (stepped : (step config c action).next = some c') {event : Event R}
    (emitted : event ∈ (step config c action).out) : ¬ Starts kind host event := by
  intro started
  have refuted {input : Input R} {s' : Scheduler}
      (taken : (inputStep config c.scheduler input).next = some s')
      (emitted : event ∈ (inputStep config c.scheduler input).out) : False := by
    obtain ⟨_, _, _, _, _, launches⟩ := launched_event started emitted taken
    cases launches with
    | prober => exact service rfl
    | service _ due => exact due.wanted unwanted
  have after := moved stepped
  generalize (step config c action).out = out at after emitted
  cases after with
  | told _ taken => exact refuted taken emitted
  | handled _ taken => exact refuted taken emitted
  | idle | started | dropped | stopped | killed | listed | answered => cases emitted

/-- The task is about to be killed, or to be heard of. -/
def UnderWay (c : Cluster) (id : String) : Prop :=
  id ∈ c.kills ∨ some id ∈ c.requests ∨ ∃ status ∈ c.updates, status.taskId = id ∧ status.state = .running

/-- The task does not run, or not for long. -/
structure Draining (id : String) (c : Cluster) : Prop where
  unwanted : Unwanted c
  doomed : id ∈ c.live → c.UnderWay id

/-- What is under way stays so while messages are added. -/
private theorem UnderWay.grow (underWay : c.UnderWay id) (kills : ∀ id ∈ c.kills, id ∈ c'.kills)
    (requests : ∀ request ∈ c.requests, request ∈ c'.requests)
    (updates : ∀ status ∈ c.updates, status ∈ c'.updates) : c'.UnderWay id := by
  rcases underWay with kill | request | ⟨status, sent, about⟩
  · exact .inl (kills id kill)
  · exact .inr (.inl (requests _ request))
  · exact .inr (.inr ⟨status, updates status sent, about⟩)

/-- A service that is told to run is told to go. -/
private theorem told_kills {now : Int} {status : TaskStatus} (unwanted : Unwanted c)
    (target : statusTarget status.taskId = some (kind, host)) (service : kind ≠ .prober)
    (running : status.state = .running) : status.taskId ∈
      (inputStep config c.scheduler (.statusUpdate now status)).out.flatMap Event.killed := by
  have alive : isTerminal status.state = false := by rw [running]; rfl
  have killed : .killTask status.taskId ∈ (QuobyteMesos.statusUpdate (R := R) c.scheduler now status).2 :=
    (KillDecision.kill_iff target service alive).mpr (.inl unwanted)
  refine List.mem_flatMap.mpr ⟨.called (.killTask status.taskId), ?_, List.mem_singleton_self _⟩
  exact List.mem_cons_of_mem _ (List.mem_map_of_mem killed)

theorem draining_step (target : statusTarget id = some (kind, host)) (service : kind ≠ .prober)
    (draining : Draining id c) (down : StaysDown action)
    (stepped : (step config c action).next = some c') : Draining id c' := by
  refine ⟨unwanted_step draining.unwanted down stepped, fun alive => ?_⟩
  have after := moved stepped
  generalize (step config c action).out = out at after
  cases after with
  | idle => exact draining.doomed alive
  | @told now status s sent taken =>
    rcases draining.doomed alive with kill | request | ⟨report, held, rfl, running⟩
    · exact .inl (List.mem_append_left _ kill)
    · exact .inr (.inl (List.mem_append_left _ request))
    · by_cases same : report = status
      · subst same
        exact .inl (List.mem_append_right _ (told_kills draining.unwanted target service running))
      · exact .inr (.inr ⟨report, (List.mem_erase_of_ne same).mpr held, rfl, running⟩)
  | handled =>
    exact (draining.doomed alive).grow (fun _ => List.mem_append_left _)
      (fun _ => List.mem_append_left _) fun _ held => held
  | @started status running sent =>
    by_cases same : status.taskId = id
    · exact .inr (.inr ⟨status, List.mem_cons_self, same, running⟩)
    · have before : id ∈ c.live := (Finset.mem_insert.mp alive).resolve_left (Ne.symm same)
      exact (draining.doomed before).grow (fun _ held => held) (fun _ held => held)
        fun _ => List.mem_cons_of_mem _
  | dropped | listed =>
    exact (draining.doomed alive).grow (fun _ held => held) (fun _ held => held)
      fun _ => List.mem_cons_of_mem _
  | stopped =>
    exact (draining.doomed (Finset.mem_of_mem_erase alive)).grow (fun _ held => held)
      (fun _ held => held) fun _ => List.mem_cons_of_mem _
  | @killed status sent =>
    obtain ⟨other, before⟩ := Finset.mem_erase.mp alive
    rcases draining.doomed before with kill | request | ⟨report, held, about⟩
    · exact .inl ((List.mem_erase_of_ne other).mpr kill)
    · exact .inr (.inl request)
    · exact .inr (.inr ⟨report, List.mem_cons_of_mem _ held, about⟩)
  | @answered status sent truth =>
    by_cases same : status.taskId = id
    · have running : status.state = .running := by
        rw [truth, known, if_pos]
        rw [same]
        exact alive
      exact .inr (.inr ⟨status, List.mem_cons_self, same, running⟩)
    · rcases draining.doomed alive with kill | request | ⟨report, held, about⟩
      · exact .inl kill
      · refine .inr (.inl ((List.mem_erase_of_ne ?_).mpr request))
        exact fun equal => same (Option.some.inj equal).symm
      · exact .inr (.inr ⟨report, List.mem_cons_of_mem _ held, about⟩)

/-- The scheduler asks about the task, or is told that it runs. -/
def Notices (id : String) (event : Event R) : Prop :=
  some id ∈ event.requested ∨ ∃ status, event = .delivered status ∧ status.taskId = id ∧ status.state = .running

/-- What the scheduler notices is under way from then on. -/
private theorem noticed_draining (target : statusTarget id = some (kind, host)) (service : kind ≠ .prober)
    (unwanted : Unwanted c) (down : StaysDown action)
    (stepped : (step config c action).next = some c') {event : Event R}
    (emitted : event ∈ (step config c action).out) (notices : Notices id event) : Draining id c' := by
  refine ⟨unwanted_step unwanted down stepped, fun _ => ?_⟩
  have after := moved stepped
  generalize (step config c action).out = out at after emitted
  cases after with
  | @told now status s sent taken =>
    rcases notices with asked | ⟨report, rfl, rfl, running⟩
    · exact .inr (.inl (List.mem_append_right _ (List.mem_flatMap.mpr ⟨event, emitted, asked⟩)))
    · obtain rfl : report = status := by simpa [inputStep] using emitted
      exact .inl (List.mem_append_right _ (told_kills unwanted target service running))
  | @handled input s other taken =>
    rcases notices with asked | ⟨report, rfl, _⟩
    · exact .inr (.inl (List.mem_append_right _ (List.mem_flatMap.mpr ⟨event, emitted, asked⟩)))
    · obtain ⟨now, told⟩ := delivered_told emitted
      exact absurd told (other now report)
  | idle | started | dropped | stopped | killed | listed | answered => cases emitted

/-- While no version is wanted nothing but probers is launched, and a service that was not
running, or that the scheduler has asked about or been told of, does not run once no kill
and no update are under way and the request about it has been answered. -/
theorem shutdown_drains (unwanted : Unwanted c)
    (down : ∀ action ∈ actions, StaysDown action)
    (ran : (run (step config) c actions).next = some c') (service : kind ≠ .prober) :
    (∀ host, taskId kind host ∉ (run (step config) c actions).out.flatMap Event.launched) ∧
    ∀ host, '-' ∉ host.toList →
      (taskId kind host ∉ c.live ∨
        ∃ event ∈ (run (step config) c actions).out, Notices (taskId kind host) event) →
      c'.kills = [] → c'.updates = [] → some (taskId kind host) ∉ c'.requests →
      taskId kind host ∉ c'.live := by
  -- the state before any action
  have reached {before : List (Action R)} {middle : Cluster}
      (within : ∀ action ∈ before, action ∈ actions)
      (ran : (run (step config) c before).next = some middle) :
      Unwanted middle :=
    run_invariant_along (fun _ _ _ unwanted down stepped => unwanted_step unwanted down stepped) unwanted
      (along_of_all fun _ action member => down action (within action member)) ran
  constructor
  · intro host launched
    obtain ⟨event, emitted, started⟩ := List.mem_flatMap.mp launched
    obtain ⟨before, action, after, middle, next, rfl, begun, stepped, _, here⟩ := emitted_step emitted ran
    exact unwanted_launch (reached (fun _ => List.mem_append_left _) begun) service stepped here started
  · intro host plain found kills updates answered alive
    have target : statusTarget (taskId kind host) = some (kind, host) := target_iff.mpr ⟨rfl, plain⟩
    have draining : Draining (taskId kind host) c' := by
      rcases found with absent | ⟨event, emitted, notices⟩
      · exact run_invariant_along
          (fun _ _ _ draining down stepped => draining_step target service draining down stepped)
          ⟨unwanted, fun alive => absurd alive absent⟩ (along_of_all fun _ => down) ran
      · obtain ⟨before, action, after, middle, next, rfl, begun, stepped, later, here⟩ :=
          emitted_step emitted ran
        have noticed : Draining (taskId kind host) next := noticed_draining target service
          (reached (fun _ => List.mem_append_left _) begun)
          (down action (List.mem_append_right _ List.mem_cons_self)) stepped here notices
        exact run_invariant_along
          (fun _ _ _ draining down stepped => draining_step target service draining down stepped) noticed
          (along_of_all fun _ action member =>
            down action (List.mem_append_right _ (List.mem_cons_of_mem _ member))) later
    rcases draining.doomed alive with kill | request | ⟨status, sent, _⟩
    · rw [kills] at kill
      cases kill
    · exact answered request
    · rw [updates] at sent
      cases sent

/-- A registry runs, and the framework is started with nothing to deploy. -/
def registryLeft : Cluster where
  scheduler := Scheduler.fresh {}
  live := {"quobyte-registry-h1"}

/-- Its host is offered, and everything that follows is taken up. -/
def registryStopped : List (Action TextResources) :=
  [.handle (.offer 1 (wideOffer "o1" "h1")),
    .answered { taskId := "quobyte-registry-h1", state := .running },
    .handle (.statusUpdate 1 { taskId := "quobyte-registry-h1", state := .running }),
    .killed { taskId := "quobyte-registry-h1", state := .killed },
    .handle (.statusUpdate 2 { taskId := "quobyte-registry-h1", state := .killed })]

/-- The registry is gone. -/
theorem left_registry_drained : ∃ c',
    (run (step defaultConfig) registryLeft registryStopped).next = some c' ∧
      "quobyte-registry-h1" ∉ c'.live := by
  have runs : (run (step defaultConfig) registryLeft registryStopped).next.any (fun c => decide
      (c.kills = [] ∧ c.updates = [] ∧ some "quobyte-registry-h1" ∉ c.requests)) = true := by
    decide +kernel
  have asked : ((run (step defaultConfig) registryLeft registryStopped).out.flatMap
      Event.requested).contains (some "quobyte-registry-h1") = true := by decide +kernel
  obtain ⟨c', ran, quiet⟩ := (Option.any_eq_true _ _).mp runs
  obtain ⟨kills, updates, answered⟩ := of_decide_eq_true quiet
  obtain ⟨event, emitted, about⟩ := List.mem_flatMap.mp (List.contains_iff_mem.mp asked)
  have down : ∀ action ∈ registryStopped, StaysDown action := by
    simp [registryStopped, StaysDown]
  have unwanted : Unwanted registryLeft := rfl
  have service : ServiceKind.registry ≠ .prober := nofun
  exact ⟨c', ran, (shutdown_drains unwanted down ran service).2 "h1" (by decide)
    (.inr ⟨event, emitted, .inl about⟩) kills updates answered⟩

/-! ### Clients -/

omit [Resources R] in
private theorem killed_other {hostname : String} {records : Records}
    (made : .killTask id ∈ killServices (R := R) hostname records) : id ≠ taskId .client host := by
  obtain ⟨kind, listed, killed⟩ := List.mem_flatMap.mp made
  unfold killServiceIfRunning at killed
  split at killed
  · cases List.mem_singleton.mp killed
    intro same
    obtain ⟨rfl, _⟩ := taskId_injective same
    simp at listed
  · cases killed

/-- The scheduler kills no client but one it is told of, and asks about none. -/
private theorem client_calls {s : Scheduler} {input : Input R} {event : Event R}
    (untold : ∀ now status, input = .statusUpdate now status → status.taskId ≠ taskId .client host)
    (emitted : event ∈ (inputStep config s input).out) :
    taskId .client host ∉ event.killed ∧ some (taskId .client host) ∉ event.requested := by
  cases input with
  | offer now offer =>
    obtain ⟨s', stepped⟩ := continues_of_emitted emitted
    obtain ⟨calls, answered, out⟩ := offer_step stepped
    rw [out] at emitted
    obtain ⟨call, made, rfl⟩ := List.mem_map.mp emitted
    have asked : some (taskId .client host) ∉ Event.requested (.called (R := R)
        (.reconcileTasks (reconciledKinds.map fun kind =>
          { taskId := taskId kind offer.hostname, state := .lost }))) := by
      intro about
      simp only [reconciledKinds, List.map_cons, List.map_nil, Event.requested, List.mem_cons,
        Option.some.injEq, List.not_mem_nil, or_false] at about
      rcases about with same | same | same | same | same | same | same <;>
        cases (taskId_injective same).1
    cases answered with
    | restricted | prober =>
      cases List.mem_singleton.mp made
      simp [Event.killed, Event.requested]
    | discovered =>
      simp only [reconcileHost, List.cons_append, List.nil_append, List.mem_cons,
        List.not_mem_nil, or_false] at made
      rcases made with rfl | rfl
      · exact ⟨List.not_mem_nil, asked⟩
      · simp [Event.killed, Event.requested]
    | probe =>
      simp only [triggerProbe, reconcileHost, List.cons_append, List.nil_append, List.mem_cons,
        List.not_mem_nil, or_false] at made
      rcases made with rfl | rfl | rfl
      · simp [Event.killed, Event.requested]
      · exact ⟨List.not_mem_nil, asked⟩
      · simp [Event.killed, Event.requested]
    | launch =>
      split at made <;> cases List.mem_singleton.mp made <;> simp [Event.killed, Event.requested]
    | shutdown =>
      rcases List.mem_append.mp made with killed | declined
      · obtain ⟨task, rfl⟩ := killServices_kills killed
        refine ⟨fun same => ?_, List.not_mem_nil⟩
        exact killed_other killed (List.mem_singleton.mp same).symm
      · cases List.mem_singleton.mp declined
        simp [Event.killed, Event.requested]
  | statusUpdate now status =>
    rcases List.mem_cons.mp emitted with rfl | called
    · simp [Event.killed, Event.requested]
    · obtain ⟨call, made, rfl⟩ := List.mem_map.mp called
      rw [statusUpdate_kills made]
      refine ⟨fun same => ?_, List.not_mem_nil⟩
      exact untold now status rfl (List.mem_singleton.mp same).symm
  | frameworkMessage | postVersion => cases emitted
  | registered | reregistered =>
    simp only [inputStep, registered, reregistered, List.map_cons, List.map_nil,
      List.mem_singleton] at emitted
    rw [emitted]
    simp [Event.killed, Event.requested]

/-- There is no client, and nobody speaks of one. -/
structure Clientless (c : Cluster) : Prop where
  records : ∀ host, (c.scheduler.record host .client).state = .unknown
  live : ∀ host, taskId .client host ∉ c.live
  launches : ∀ host, taskId .client host ∉ c.launches
  kills : ∀ host, taskId .client host ∉ c.kills
  requests : ∀ host, some (taskId .client host) ∉ c.requests
  updates : ∀ host, ∀ status ∈ c.updates, status.taskId ≠ taskId .client host

/-- A client of unknown state is not launched. -/
private theorem unknown_unlaunched {s : Scheduler} {input : Input R} {event : Event R}
    (unknown : ∀ host, (s.record host .client).state = .unknown)
    (emitted : event ∈ (inputStep config s input).out) : ¬ Starts .client host event := by
  intro started
  obtain ⟨s', stepped⟩ := continues_of_emitted emitted
  obtain ⟨_, offer, _, _, _, launches⟩ := launched_event started emitted stepped
  cases launches with
  | service _ _ _ _ idle =>
    rw [unknown offer.hostname] at idle
    cases idle

private theorem clientless_send {s : Scheduler} {input : Input R} (clientless : Clientless c)
    (untold : ∀ host now status, input = .statusUpdate now status → status.taskId ≠ taskId .client host)
    (stepped : (inputStep config c.scheduler input).next = some s) :
    Clientless (c.send s (inputStep config c.scheduler input).out) where
  records host := by
    have after := record_step stepped host .client
    have before := clientless.records host
    show (s.record host .client).state = .unknown
    generalize s.record host .client = record at after
    cases after with
    | kept state => rw [state, before]
    | launched _ _ _ idle => exact absurd (before.symm.trans idle) (by decide)
    | proberStarted isProber => cases isProber
    | @seen now status other _ target | @terminated now status other _ target =>
      exact absurd (target_iff.mp target).1 (untold other now status rfl)
  live := clientless.live
  launches host launched := by
    rcases List.mem_append.mp launched with earlier | new
    · exact clientless.launches host earlier
    · obtain ⟨event, emitted, started⟩ := List.mem_flatMap.mp new
      exact unknown_unlaunched clientless.records emitted started
  kills host killed := by
    rcases List.mem_append.mp killed with earlier | new
    · exact clientless.kills host earlier
    · obtain ⟨event, emitted, kills⟩ := List.mem_flatMap.mp new
      exact (client_calls (untold host) emitted).1 kills
  requests host requested := by
    rcases List.mem_append.mp requested with earlier | new
    · exact clientless.requests host earlier
    · obtain ⟨event, emitted, asks⟩ := List.mem_flatMap.mp new
      exact (client_calls (untold host) emitted).2 asks
  updates := clientless.updates

/-- A report of the cluster about a task that is no client's. -/
private theorem Clientless.report (clientless : Clientless c) {status : TaskStatus}
    (other : ∀ host, status.taskId ≠ taskId .client host) : Clientless (c.report status) where
  records := clientless.records
  live := clientless.live
  launches := clientless.launches
  kills := clientless.kills
  requests := clientless.requests
  updates host report held := by
    rcases List.mem_cons.mp held with rfl | earlier
    · exact other host
    · exact clientless.updates host report earlier

theorem clientless_step (clientless : Clientless c) (stepped : (step config c action).next = some c') :
    Clientless c' := by
  have after := moved stepped
  generalize (step config c action).out = out at after
  -- whatever is taken up is about some other task
  have other {ids : List String} {id : String} (none : ∀ host, taskId .client host ∉ ids) (held : id ∈ ids)
      (host : String) : id ≠ taskId .client host := by
    rintro rfl
    exact none host held
  obtain ⟨records, live, launches, kills, requests, updates⟩ := clientless
  cases after with
  | idle => exact ⟨records, live, launches, kills, requests, updates⟩
  | @told now status s sent taken =>
    refine clientless_send (c := { c with updates := c.updates.erase status })
      ⟨records, live, launches, kills, requests, fun host report held =>
        updates host report (List.mem_of_mem_erase held)⟩ ?_ taken
    rintro host _ _ ⟨⟩
    exact updates host status sent
  | handled untold taken =>
    exact clientless_send ⟨records, live, launches, kills, requests, updates⟩
      (fun _ now status told => absurd told (untold now status)) taken
  | @started status running sent =>
    refine Clientless.report (c := { c with
      launches := c.launches.erase status.taskId, live := insert status.taskId c.live })
      ⟨records, fun host alive => ?_, fun host held => launches host (List.mem_of_mem_erase held), kills,
        requests, updates⟩ (other launches sent)
    rcases Finset.mem_insert.mp alive with same | earlier
    · exact other launches sent host same.symm
    · exact live host earlier
  | @dropped status sent =>
    exact Clientless.report (c := { c with launches := c.launches.erase status.taskId })
      ⟨records, live, fun host held => launches host (List.mem_of_mem_erase held), kills, requests, updates⟩
      (other launches sent)
  | @stopped status alive =>
    exact Clientless.report (c := { c with live := c.live.erase status.taskId })
      ⟨records, fun host held => live host (Finset.mem_of_mem_erase held), launches, kills, requests, updates⟩
      fun host same => live host (by rwa [← same])
  | @killed status sent =>
    exact Clientless.report (c := { c with
      kills := c.kills.erase status.taskId, live := c.live.erase status.taskId })
      ⟨records, fun host held => live host (Finset.mem_of_mem_erase held), launches,
        fun host held => kills host (List.mem_of_mem_erase held), requests, updates⟩ (other kills sent)
  | listed alive =>
    exact Clientless.report ⟨records, live, launches, kills, requests, updates⟩
      fun host same => live host (by rwa [← same])
  | @answered status sent truth =>
    exact Clientless.report (c := { c with requests := c.requests.erase (some status.taskId) })
      ⟨records, live, launches, kills, fun host held => requests host (List.mem_of_mem_erase held), updates⟩
      fun host same => requests host (by rwa [← same])

/-- In a cluster without clients none is launched, whatever the scheduler is offered and
told. -/
theorem clients_never_launched (clientless : Clientless c)
    (ran : (run (step config) c actions).next = some c') (host : String) :
    taskId .client host ∉ (run (step config) c actions).out.flatMap Event.launched ∧
      taskId .client host ∉ c'.live := by
  constructor
  · intro launched
    obtain ⟨event, emitted, started⟩ := List.mem_flatMap.mp launched
    obtain ⟨before, action, after, middle, next, rfl, ran', stepped, _, here⟩ := emitted_step emitted ran
    have held : Clientless middle :=
      run_invariant (fun _ _ _ clientless stepped => clientless_step clientless stepped) clientless ran'
    have taken := moved stepped
    generalize (step config middle action).out = out at taken here
    cases taken with
    | told | handled => exact unknown_unlaunched held.records here started
    | idle | started | dropped | stopped | killed | listed | answered => cases here
  · exact (run_invariant (fun _ _ _ clientless stepped => clientless_step clientless stepped) clientless ran).live host

/-- The scheduler has been running for a while: it knows the api of the host to run, and
an answer about its registry is under way. -/
def clientHost : Cluster where
  scheduler := { Scheduler.fresh { targetVersion := "1" } with
    apiState := { taskId := "quobyte-api-h1", state := .running } }
  live := {"quobyte-api-h1"}
  updates := [{ taskId := "quobyte-registry-h1", state := .lost, slaveId := "agent-h1" }]

/-- The answer is delivered, the mount point of a client is found, and the host is offered
once more. -/
def clientReady : List (Action TextResources) :=
  [.handle (.offer 1 (wideOffer "o1" "h1")),
    .handle (.statusUpdate 1
      { taskId := "quobyte-registry-h1", state := .lost, slaveId := "agent-h1" }),
    .handle (.frameworkMessage 1 "agent-h1" (some { clientMountPoint := true })),
    .handle (.offer 2 (wideOffer "o2" "h1"))]

/-- The client is not launched. -/
theorem ready_client_waits : ∃ c', (run (step defaultConfig) clientHost clientReady).next = some c' ∧
    taskId .client "h1" ∉
      (run (step defaultConfig) clientHost clientReady).out.flatMap Event.launched := by
  have other {kind : ServiceKind} (service : kind ≠ .client) (place host : String) :
      taskId kind place ≠ taskId .client host := fun same => service (taskId_injective same).1
  have begun : Clientless clientHost := by
    refine ⟨fun _ => rfl, fun host => ?_, ?_, ?_, ?_, fun host status held => ?_⟩
    · exact fun alive => @other .api (by decide) "h1" host (Finset.mem_singleton.mp alive).symm
    · simp [clientHost]
    · simp [clientHost]
    · simp [clientHost]
    · rw [List.mem_singleton.mp held]
      exact @other .registry (by decide) "h1" host
  have runs : (run (step defaultConfig) clientHost clientReady).next.isSome = true := by decide +kernel
  obtain ⟨c', ran⟩ := Option.isSome_iff_exists.mp runs
  exact ⟨c', ran, (clients_never_launched begun ran "h1").1⟩

end QuobyteMesos.Cluster
