import QuobyteMesos.Scheduler

/-! Runs of one scheduler incarnation.

A `Callback` is one call into the scheduler as the driver or the HTTP server
makes it; an `Input` is the part of a callback that is handled in one go, which
differs only for a batch of offers. `callback_runs` says that every run of
callbacks is a run of inputs, so an invariant is proved for one offer at a time
and holds of all batches. A run is observed through the status updates
delivered to it and the driver calls it makes. -/
namespace QuobyteMesos.SchedulerRuns
open Mesos Machine

variable {R : Type}

/-- One call into the scheduler; every offer of a batch comes with the clock
reading it is handled under. -/
inductive Callback (R : Type) where
  | resourceOffers (offers : List (Int × Offer R))
  | statusUpdate (now : Int) (status : TaskStatus)
  | frameworkMessage (now : Int) (slaveId : String) (data : Option ProbeResponse)
  | registered (frameworkId : String)
  | reregistered
  | postVersion (version : String)

/-- What the scheduler handles in one go. -/
inductive Input (R : Type) where
  | offer (now : Int) (offer : Offer R)
  | statusUpdate (now : Int) (status : TaskStatus)
  | frameworkMessage (now : Int) (slaveId : String) (data : Option ProbeResponse)
  | registered (frameworkId : String)
  | reregistered
  | postVersion (version : String)

/-- What a run lets an observer see, in order. -/
inductive Event (R : Type) where
  | delivered (status : TaskStatus)
  | called (call : DriverCall R)

/-- The task ids an event starts. -/
def Event.launched : Event R → List String
  | .delivered _ => []
  | .called call => call.launched

/-- The task a delivered update reports as over. -/
def Event.ended : Event R → Option String
  | .delivered status => if isTerminal status.state then some status.taskId else none
  | .called _ => none

/-- The tasks an event asks to kill. -/
def Event.killed : Event R → List String
  | .called (.killTask taskId) => [taskId]
  | .called _ | .delivered _ => []

/-- The tasks an event asks about; an empty request is about every task. -/
def Event.requested : Event R → List (Option String)
  | .called (.reconcileTasks []) => [none]
  | .called (.reconcileTasks statuses) => statuses.map fun status => some status.taskId
  | .called _ | .delivered _ => []

variable [Resources R]

def inputStep (config : Config R) (s : Scheduler) : Input R → Outcome Scheduler (Event R)
  | .offer now offer => (offerOutcome (handleOffer config s now offer)).mapOut .called
  | .statusUpdate now status =>
    ⟨some (QuobyteMesos.statusUpdate (R := R) s now status).1,
      .delivered status :: (QuobyteMesos.statusUpdate s now status).2.map .called⟩
  | .frameworkMessage now slaveId data => ⟨some (QuobyteMesos.frameworkMessage s now slaveId data), []⟩
  | .registered frameworkId =>
    ⟨some (QuobyteMesos.registered (R := R) s frameworkId).1,
      (QuobyteMesos.registered s frameworkId).2.map .called⟩
  | .reregistered =>
    ⟨some (QuobyteMesos.reregistered (R := R) s).1, (QuobyteMesos.reregistered s).2.map .called⟩
  | .postVersion version => ⟨some (setTargetVersion s version), []⟩

/-- The inputs a callback consists of. -/
def Callback.inputs : Callback R → List (Input R)
  | .resourceOffers offers => offers.map fun offer => .offer offer.1 offer.2
  | .statusUpdate now status => [.statusUpdate now status]
  | .frameworkMessage now slaveId data => [.frameworkMessage now slaveId data]
  | .registered frameworkId => [.registered frameworkId]
  | .reregistered => [.reregistered]
  | .postVersion version => [.postVersion version]

def callbackStep (config : Config R) (s : Scheduler) : Callback R → Outcome Scheduler (Event R)
  | .resourceOffers offers => (resourceOffers config s offers).mapOut .called
  | .statusUpdate now status => inputStep config s (.statusUpdate now status)
  | .frameworkMessage now slaveId data => inputStep config s (.frameworkMessage now slaveId data)
  | .registered frameworkId => inputStep config s (.registered frameworkId)
  | .reregistered => inputStep config s .reregistered
  | .postVersion version => inputStep config s (.postVersion version)

variable {config : Config R} {s s' : Scheduler}

/-- A callback is the run of its inputs. -/
theorem callback_inputs (callback : Callback R) :
    callbackStep config s callback = run (inputStep config) s callback.inputs := by
  cases callback with
  | resourceOffers offers =>
    simp only [callbackStep, resourceOffers, Callback.inputs]
    rw [← run_map, ← run_mapOut]
    rfl
  | statusUpdate now status => simp [callbackStep, Callback.inputs]
  | frameworkMessage now slaveId data => simp [callbackStep, Callback.inputs]
  | registered frameworkId => simp [callbackStep, Callback.inputs]
  | reregistered => simp [callbackStep, Callback.inputs]
  | postVersion version => simp [callbackStep, Callback.inputs]

/-- A run of callbacks is the run of their inputs. -/
theorem callback_runs (callbacks : List (Callback R)) :
    run (callbackStep config) s callbacks =
      run (inputStep config) s (callbacks.flatMap Callback.inputs) :=
  run_flatMap (fun _ callback => callback_inputs callback) callbacks

/-- The states an incarnation can be in: reached by callbacks from a scheduler
constructed over any recovered persistent state. -/
def Reachable (config : Config R) (s : Scheduler) : Prop :=
  ∃ state, Reaches (callbackStep config) (Scheduler.fresh state) s

/-- A property of every newly constructed scheduler that every input keeps holds
in every reachable state. -/
theorem reachable_invariant {inv : Scheduler → Prop}
    (fresh : ∀ state, inv (Scheduler.fresh state))
    (preserved : ∀ s input s', inv s → (inputStep config s input).next = some s' → inv s')
    (reachable : Reachable config s) : inv s := by
  obtain ⟨state, callbacks, ran⟩ := reachable
  rw [callback_runs] at ran
  exact run_invariant preserved (fresh state) ran

/-- What is computed at the end of a run holds of a reachable state. -/
theorem reachable_of_run {α : Type} {state : SchedulerState} {callbacks : List (Callback R)}
    {view : Scheduler → α} {value : α}
    (ran : (run (callbackStep config) (Scheduler.fresh state) callbacks).next.map view = some value) :
    ∃ s, Reachable config s ∧ view s = value := by
  obtain ⟨s, ended, viewed⟩ := Option.map_eq_some_iff.mp ran
  exact ⟨s, ⟨state, callbacks, ended⟩, viewed⟩

/-! ### The default flags

A configuration and offers that runs can be evaluated on. -/

/-- Amounts as the flags write them, the processors in thousandths. -/
def reservation (cpus mem disk : ℕ) (ports : List ℕ) : TextResources :=
  ⟨[(("cpus", ""), cpus), (("mem", ""), mem * 1000), (("disk", ""), disk * 1000)], ports⟩

def defaultResources : ServiceKind → TextResources
  | .registry => reservation 1000 2084 32 [21000, 21001]
  | .metadata => reservation 2000 8192 32 [21002, 21003]
  | .data => reservation 4000 4096 32 [21004, 21005]
  | .api => reservation 100 512 32 [21006, 21007, 8889]
  | .webconsole => reservation 500 512 32 [21008, 21009, 8888]
  | .s3 => reservation 500 512 32 [21010, 21011, 80]
  | .prober => reservation 100 256 150 []
  | .client => reservation 2000 2048 150 []

/-- What the constructor makes of the default flags. -/
def defaultConfig : Config TextResources where
  flags := {}
  resources := defaultResources
  prepared := by
    intro kind
    cases kind <;> decide +kernel

/-- An offer with room for every service of its host. -/
def wideOffer (id hostname : String) : Offer TextResources where
  id := id
  hostname := hostname
  slaveId := "agent-" ++ hostname
  resources := reservation 100000 100000 1000 (80 :: 8888 :: 8889 :: List.range' 21000 12)

/-- The api of a host without devices is reported lost and launched on the next
offer. -/
def apiLaunched : List (Callback TextResources) :=
  [.resourceOffers [(1, wideOffer "o1" "h1")],
    .statusUpdate 1 { taskId := "quobyte-api-h1", state := .lost },
    .frameworkMessage 1 "agent-h1" (some {}),
    .resourceOffers [(2, wideOffer "o2" "h1")]]

end QuobyteMesos.SchedulerRuns
