import QuobyteMesos.Connections
import QuobyteMesos.CrashRecovery
import QuobyteMesos.HttpRequests
import QuobyteMesos.Rollout

/-! The framework behind its HTTP server.

The connections are read while the driver calls the scheduler. Whatever the schedule,
the scheduler takes the inputs of one of its runs, with a posted version in the place
of the call that completes its request (`http_refines`), so that every guarantee about
runs holds with the server at work. What a client reads and what a task is launched
with is the version whose post was answered last (`version_register`). -/
namespace QuobyteMesos.VersionService
open Mesos Machine HttpServer Connections TaskSettings HttpRequests StateStore SchedulerRuns Rollout StdString
open CrashRecovery (replay)

variable {R : Type}

/-- The setters of the state proxy an input calls. -/
def settersOf : Input R → List Setter
  | .registered frameworkId => [.setFrameworkId frameworkId]
  | .postVersion version => [.setTargetVersion version]
  | .offer .. | .statusUpdate .. | .frameworkMessage .. | .reregistered => []

/-- The driver's calls, between those of the server. -/
def driven [Resources R] (config : Config R) (serving : Serving) (input : Input R) :
    Outcome Serving (Event R) :=
  ⟨(inputStep config serving.scheduler input).next.map fun s =>
      { serving with scheduler := s, setters := serving.setters ++ settersOf input },
    (inputStep config serving.scheduler input).out⟩

/-- The request is one for the version. -/
def ForVersion (request : Request) : Prop :=
  find kVersionAPIUrl.toList request.url.toList = some 0

instance (request : Request) : Decidable (ForVersion request) :=
  inferInstanceAs (Decidable (find kVersionAPIUrl.toList request.url.toList = some 0))

/-- The version the request posts. -/
def postedBy (request : Request) : Option String :=
  if request.method = "POST" ∧ ForVersion request then some (String.join request.chunks) else none

/-- What an action comes to for the scheduler. -/
def inputOf (requests : ℕ → Request) : Action (Input R) → Option (Input R)
  | .call i => (postedBy (requests i)).map .postVersion
  | .other input => some input

/-- The posted versions that were answered, in order. -/
def acknowledged (requests : ℕ → Request) (out : List (Observed (Event R))) : List String :=
  out.filterMap fun
    | .answered i _ => postedBy (requests i)
    | .other _ => none

variable {sources : PageSources} {requests : ℕ → Request} {serving serving' : Serving}
variable {s : Scheduler} {i : ℕ}

/-! ### One request -/

/-- Any other request for the version is answered with the one there is. -/
private theorem handled_read {method url data : String} {handled : Handled}
    (versioned : find kVersionAPIUrl.toList url.toList = some 0) (read : method ≠ "POST")
    (reply : handleHTTP sources s method url data = some handled) :
    handled.page = s.state.targetVersion := by
  have other : ¬ (method = "GET" ∧ url = kArchiveUrl) := by
    rintro ⟨_, archive⟩
    rw [archive] at versioned
    exact absurd versioned (by decide)
  rw [handleHTTP, if_neg other, if_pos versioned, if_neg read] at reply
  cases reply
  rfl

/-- A request posts its version or leaves the scheduler alone; one for the version is
answered with the version there is then. -/
theorem dispatched_version {request : Request} {page : String}
    (dispatched : dispatcher sources request.method request.url request.data serving =
      some (serving', page)) :
    serving'.scheduler = setTargetVersion serving.scheduler
        ((postedBy request).getD serving.scheduler.state.targetVersion) ∧
      serving'.setters = serving.setters ++ (postedBy request).toList.map .setTargetVersion ∧
      (ForVersion request → page = serving'.scheduler.state.targetVersion) := by
  obtain ⟨handled, reply, same⟩ := Option.map_eq_some_iff.mp dispatched
  obtain ⟨rfl, rfl⟩ := Prod.mk.inj same
  by_cases posts : request.method = "POST" ∧ ForVersion request
  · have body : request.data = String.join request.chunks := if_pos posts.1
    rw [posts.1, handled_post sources _ _ posts.2] at reply
    cases reply
    simp [postedBy, posts, body, setTargetVersion]
  · obtain ⟨scheduler, setters⟩ := handled_untouched reply posts
    refine ⟨?_, ?_, fun versioned => ?_⟩
    · simp [postedBy, posts, scheduler, setTargetVersion]
    · simp [postedBy, posts, setters]
    · rw [scheduler]
      exact handled_read versioned (fun post => posts ⟨post, versioned⟩) reply

/-! ### A run of inputs -/

variable [Resources R] {config : Config R} {schedule order : List (Action (Input R))}
variable {out : List (Observed (Event R))} {action : Action (Input R)} {server : Server Serving}

/-- The scheduler served behind an order of whole requests and driver calls: it is
where the inputs lead, the state proxy was handed what they hand to it, and nothing but
this has changed the state that is stored. -/
structure Follows (config : Config R) (requests : ℕ → Request) (s : Scheduler)
    (order : List (Action (Input R))) (out : List (Observed (Event R))) (serving : Serving) : Prop where
  scheduler : run (inputStep config) s (order.filterMap (inputOf requests)) =
    ⟨some serving.scheduler, out.filterMap Observed.other?⟩
  setters : serving.setters = (order.filterMap (inputOf requests)).flatMap settersOf
  state : serving.scheduler.state = replay Setter.apply s.state serving.setters

/-- The setters an input calls make of the stored state what the input makes of it. -/
private theorem state_replayed {s' : Scheduler} {input : Input R}
    (stepped : (inputStep config s input).next = some s') :
    s'.state = replay Setter.apply s.state (settersOf input) := by
  rw [state_step stepped]
  cases input <;> rfl

omit [Resources R] in
private theorem others_of_events (events : List (Event R)) :
    (events.map Observed.other).filterMap Observed.other? = events := by
  rw [List.filterMap_map]
  exact List.filterMap_some

/-- An input of the scheduler, followed by another. -/
private theorem follows_input {input : Input R} {new : List (Observed (Event R))}
    (follows : Follows config requests s order out serving) (taken : inputOf requests action = some input)
    (stepped : inputStep config serving.scheduler input =
      ⟨some serving'.scheduler, new.filterMap Observed.other?⟩)
    (setters : serving'.setters = serving.setters ++ settersOf input) :
    Follows config requests s (order ++ [action]) (out ++ new) serving' := by
  have more : (order ++ [action]).filterMap (inputOf requests) =
      order.filterMap (inputOf requests) ++ [input] := by
    simp [taken]
  refine ⟨?_, ?_, ?_⟩
  · rw [more, run_append_next (congrArg Outcome.next follows.scheduler), run_singleton, stepped,
      follows.scheduler, List.filterMap_append]
  · rw [more, setters, follows.setters, List.flatMap_append, List.flatMap_singleton]
  · rw [state_replayed (congrArg Outcome.next stepped), follows.state, setters]
    exact (List.foldl_append ..).symm

theorem follows_step (parts : ∀ i, ∀ chunk ∈ (requests i).chunks, chunk ≠ "")
    (follows : Follows config requests s order out serving)
    (stepped : (atOnce (dispatcher sources) requests (driven config) serving action).next = some serving') :
    Follows config requests s (order ++ [action])
      (out ++ (atOnce (dispatcher sources) requests (driven config) serving action).out) serving' := by
  cases action with
  | other input =>
    obtain ⟨s', next, rfl⟩ := Option.map_eq_some_iff.mp stepped
    refine follows_input follows rfl ?_ rfl
    rw [← next]
    exact congrArg (Outcome.mk _) (others_of_events _).symm
  | call i =>
    rw [atOnce, serveAlone_eq _ (parts i)] at stepped ⊢
    cases dispatched : dispatcher sources (requests i).method (requests i).url (requests i).data serving with
    | none => simp [dispatched] at stepped
    | some result =>
      obtain ⟨after, page⟩ := result
      obtain rfl : after = serving' := by simpa [dispatched] using stepped
      obtain ⟨version, setters, _⟩ := dispatched_version dispatched
      cases posts : postedBy (requests i) with
      | none =>
        have same : after.scheduler = serving.scheduler := by rw [version, posts]; rfl
        have silent : after.setters = serving.setters := by rw [setters, posts]; exact List.append_nil _
        refine ⟨?_, ?_, ?_⟩
        · simp [inputOf, posts, follows.scheduler, same, Observed.other?]
        · simp [inputOf, posts, follows.setters, silent]
        · rw [same, silent, follows.state]
      | some posted =>
        refine follows_input follows (by rw [inputOf, posts]; rfl) ?_ (by rw [setters, posts]; rfl)
        rw [version, posts]
        rfl

/-- Requests whose calls stand in any order between those of the driver: the scheduler
and the events are those of a run on the driver's inputs, each answered post put in
between in the place of one of its calls. The state proxy is called in this order, and
its calls make the state that is stored. -/
theorem http_refines (parts : ∀ i, ∀ chunk ∈ (requests i).chunks, chunk ≠ "")
    (ran : (run (step (dispatcher sources) requests (driven config))
      (start requests { scheduler := s }) schedule).next = some server) :
    ∃ order : List (Action (Input R)), order.Sublist schedule ∧
      order.filterMap Action.other? = schedule.filterMap Action.other? ∧
      (order.filterMap Action.request?).Nodup ∧
      (∀ i, i ∈ order.filterMap Action.request? ↔
        (requests i).calls ≤ (schedule.filterMap Action.request?).count i) ∧
      run (inputStep config) s (order.filterMap (inputOf requests)) =
        ⟨some server.state.scheduler, (run (step (dispatcher sources) requests (driven config))
          (start requests { scheduler := s }) schedule).out.filterMap Observed.other?⟩ ∧
      server.state.setters = (order.filterMap (inputOf requests)).flatMap settersOf ∧
      server.state.scheduler.state = replay Setter.apply s.state server.state.setters := by
  obtain ⟨order, sublist, others, whole, once, answered⟩ := requests_linearized parts ran
  have follows := run_history (Follows config requests s)
    (fun _ _ _ _ _ follows (_ : True) stepped => follows_step parts follows stepped)
    (show Follows config requests s [] [] { scheduler := s } from ⟨rfl, rfl, rfl⟩)
    (fun _ _ _ _ _ _ => trivial) (congrArg Outcome.next whole)
  rw [List.nil_append, List.nil_append, whole] at follows
  exact ⟨order, sublist, others, once, answered, follows.scheduler, follows.setters, follows.state⟩

/-! ### The version as a register -/

/-- The version is the one that was acknowledged last. -/
def Told (requests : ℕ → Request) (version : String) (out : List (Observed (Event R)))
    (serving : Serving) : Prop :=
  serving.scheduler.state.targetVersion = (acknowledged requests out).getLastD version

/-- The driver posts no version. -/
def FromDriver : Action (Input R) → Prop
  | .call _ => True
  | .other input => posted input = none

omit [Resources R] in
@[simp] theorem acknowledged_append (left right : List (Observed (Event R))) :
    acknowledged requests (left ++ right) = acknowledged requests left ++ acknowledged requests right :=
  List.filterMap_append

omit [Resources R] in
@[simp] private theorem acknowledged_events (events : List (Event R)) :
    acknowledged requests (events.map Observed.other) = [] := by
  simp [acknowledged, List.filterMap_map]

omit [Resources R] in
@[simp] theorem acknowledged_answered (i : ℕ) (response : Response) :
    acknowledged requests [(.answered i response : Observed (Event R))] = (postedBy (requests i)).toList := by
  cases posts : postedBy (requests i) <;> simp [acknowledged, posts]

omit [Resources R] in
private theorem told_append {version : String} {new : List (Observed (Event R))}
    (told : Told requests version out serving) (latest : serving'.scheduler.state.targetVersion =
      (acknowledged requests new).getLastD serving.scheduler.state.targetVersion) :
    Told requests version (out ++ new) serving' := by
  rw [Told, latest, told, acknowledged_append]
  simp [List.getLastD_eq_getLast?, List.getLast?_append]

omit [Resources R] in
/-- A served request is answered with its own version acknowledged. -/
private theorem told_answered {version page : String} (told : Told requests version out serving)
    (dispatched : dispatcher sources (requests i).method (requests i).url (requests i).data serving =
      some (serving', page)) (response : Response) :
    Told requests version (out ++ [.answered i response]) serving' := by
  refine told_append told ?_
  rw [(dispatched_version dispatched).1, acknowledged_answered]
  cases postedBy (requests i) <;> rfl

private theorem driven_out (input : Input R) :
    (atOnce (dispatcher sources) requests (driven config) serving (.other input)).out =
      (inputStep config serving.scheduler input).out.map .other := rfl

theorem told_step {version : String} (parts : ∀ i, ∀ chunk ∈ (requests i).chunks, chunk ≠ "")
    (told : Told requests version out serving) (driver : FromDriver action)
    (stepped : (atOnce (dispatcher sources) requests (driven config) serving action).next = some serving') :
    Told requests version
      (out ++ (atOnce (dispatcher sources) requests (driven config) serving action).out) serving' := by
  cases action with
  | other input =>
    obtain ⟨s', next, rfl⟩ := Option.map_eq_some_iff.mp stepped
    have silent : posted input = none := driver
    refine told_append told ?_
    rw [driven_out, acknowledged_events, state_step next]
    simp [stateAfter, silent]
  | call i =>
    rw [atOnce, serveAlone_eq _ (parts i)] at stepped ⊢
    cases dispatched : dispatcher sources (requests i).method (requests i).url (requests i).data serving with
    | none => simp [dispatched] at stepped
    | some result =>
      obtain rfl : result.1 = serving' := by simpa [dispatched] using stepped
      exact told_answered told dispatched _

/-- A request for the version is answered with the one acknowledged last, its own
included. -/
private theorem answer_told {version : String} {response : Response} {pre post : List (Observed (Event R))}
    (parts : ∀ i, ∀ chunk ∈ (requests i).chunks, chunk ≠ "") (told : Told requests version out serving)
    (split : (atOnce (dispatcher sources) requests (driven config) serving action).out =
      pre ++ .answered i response :: post) (versioned : ForVersion (requests i)) :
    response = respond (requests i).url
      ((acknowledged requests (out ++ pre ++ [.answered i response])).getLastD version) := by
  cases action with
  | other input =>
    rw [driven_out] at split
    obtain ⟨_, _, _, _, same⟩ := List.map_eq_append_iff.mp split
    obtain ⟨_, _, _, other, _⟩ := List.map_eq_cons_iff.mp same
    cases other
  | call j =>
    rw [atOnce, serveAlone_eq _ (parts j)] at split
    cases dispatched : dispatcher sources (requests j).method (requests j).url (requests j).data serving with
    | none => simp [dispatched] at split
    | some result =>
      simp only [dispatched] at split
      cases pre with
      | cons => simp at split
      | nil =>
        obtain ⟨rfl, rfl⟩ := Observed.answered.inj (List.cons.inj split).1
        have page := (dispatched_version dispatched).2.2 versioned
        have now := told_answered told dispatched (respond (requests j).url result.2)
        rw [List.append_nil]
        exact congrArg (respond _) (page.trans now)

/-- Two versions are posted, the first of them in two parts, and one is asked for. -/
def threeRequests : ℕ → Request
  | 0 => { method := "POST", url := kVersionAPIUrl, chunks := ["1.", "1.5"] }
  | 1 => { method := "POST", url := kVersionAPIUrl, chunks := ["2"] }
  | _ => { method := "GET", url := kVersionAPIUrl }

/-- The second version is posted while the first is being read, which is never finished,
and the host is probed; then the api is launched. -/
def cutOff : List (Action (Input TextResources)) :=
  [.call 0, .call 0, .other (.registered "f1"), .call 1, .other (.offer 1 (wideOffer "o1" "h1")), .call 1,
    .other (.statusUpdate 1 { taskId := "quobyte-api-h1", state := .lost }), .call 0, .call 1,
    .other (.frameworkMessage 1 "agent-h1" (some {})), .call 2, .other (.offer 2 (wideOffer "o2" "h1"))]

private theorem three_parts : ∀ i, ∀ chunk ∈ (threeRequests i).chunks, chunk ≠ "" := by
  intro i
  match i with
  | 0 | 1 => simp [threeRequests]
  | _ + 2 => simp [threeRequests]

private abbrev cutOffRun : Outcome (Server Serving) (Observed (Event TextResources)) :=
  run (step (dispatcher plainSources) threeRequests (driven defaultConfig))
    (start threeRequests { scheduler := Scheduler.fresh {} }) cutOff

private theorem cut_off_ran : ∃ server, cutOffRun.next = some server :=
  Option.isSome_iff_exists.mp (by decide +kernel)

/-- The scheduler takes the driver's inputs and the second version, whose answers are
read; the first is never posted. -/
theorem cut_off_refines : ∃ server : Server Serving, ∃ order : List (Action (Input TextResources)),
    (run (step (dispatcher plainSources) threeRequests (driven defaultConfig))
      (start threeRequests { scheduler := Scheduler.fresh {} }) cutOff).next = some server ∧
    0 ∉ order.filterMap Action.request? ∧ 1 ∈ order.filterMap Action.request? ∧
    (run (inputStep defaultConfig) (Scheduler.fresh {}) (order.filterMap (inputOf threeRequests))).next =
      some server.state.scheduler := by
  obtain ⟨server, ran⟩ := cut_off_ran
  obtain ⟨order, _, _, _, served, refined, _⟩ := http_refines three_parts ran
  refine ⟨server, order, ran, fun first => ?_, (served 1).mpr (by decide +kernel),
    congrArg Outcome.next refined⟩
  exact absurd ((served 0).mp first) (by decide +kernel)

private def launchesApi : Observed (Event TextResources) → Bool
  | .other (.called (.launchTasks _ tasks)) => tasks.any fun task => task.taskId = "quobyte-api-h1"
  | .other (.called _) | .other (.delivered _) | .answered .. => false

private theorem task_of_launches {event : Observed (Event TextResources)} (launches : launchesApi event = true) :
    ∃ id tasks task, event = .other (.called (.launchTasks id tasks)) ∧ task ∈ tasks ∧
      task.taskId = "quobyte-api-h1" := by
  match event with
  | .other (.called (.launchTasks id tasks)) =>
    obtain ⟨task, member, named⟩ := List.any_eq_true.mp launches
    exact ⟨id, tasks, task, rfl, member, of_decide_eq_true named⟩

end QuobyteMesos.VersionService
