import Mathlib.Data.List.Nodup
import QuobyteMesos.HttpServer
import QuobyteMesos.Machine

/-! The HTTP server with many requests at once.

libmicrohttpd runs a thread for every connection, so that the calls for one request
stand between those for another and between whatever else happens to the state, and a
connection may be cut before its request is answered. Each body piles up at a pointer
of its own. Whatever the schedule, the server comes to what it would come to if each
answered request were served at once, in the place of the call that answers it
(`requests_linearized`). A dispatch is one step here. -/
namespace QuobyteMesos.Connections
open Machine HttpServer

universe u v w

variable {σ : Type u} {ε : Type v} {ο : Type w}

/-- A request with its body in parts. -/
structure Request where
  method : String
  url : String
  chunks : List String := []

/-- What is handed over of the body. -/
def Request.data (request : Request) : String :=
  if request.method = "POST" then String.join request.chunks else ""

/-- How often the handler is called for the request. -/
def Request.calls (request : Request) : ℕ :=
  if request.method = "POST" then request.chunks.length + 2 else 1

/-- A request while it is being read: the parts to come, what its pointer holds, and
the response once it is queued. -/
structure Connection where
  uploads : List String
  postData : Option String := none
  response : Option Response := none

structure Server (σ : Type u) where
  state : σ
  connections : ℕ → Connection

/-- The server before any of the requests has been read. -/
def start (requests : ℕ → Request) (s : σ) : Server σ where
  state := s
  connections i := { uploads := uploads (requests i).chunks }

/-- The next call for a request, or anything else that happens to the state. -/
inductive Action (ε : Type v) where
  | call (request : ℕ)
  | other (input : ε)

/-- The request an action is for. -/
def Action.request? : Action ε → Option ℕ
  | .call request => some request
  | .other _ => none

/-- What else happens. -/
def Action.other? : Action ε → Option ε
  | .call _ => none
  | .other input => some input

@[simp] theorem filterMap_call (i : ℕ) : [(.call i : Action ε)].filterMap Action.request? = [i] := rfl

@[simp] theorem filterMap_other (input : ε) : [Action.other input].filterMap Action.request? = [] := rfl

/-- A response, or what is observed otherwise. -/
inductive Observed (ο : Type w) where
  | answered (request : ℕ) (response : Response)
  | other (event : ο)

def Observed.other? : Observed ο → Option ο
  | .answered .. => none
  | .other event => some event

/-- The next call for a request; none follows its response. -/
def call (dispatch : Dispatcher σ) (requests : ℕ → Request) (server : Server σ) (i : ℕ) :
    Outcome (Server σ) (Observed ο) :=
  match (server.connections i).response, (server.connections i).uploads with
  | some _, _ | none, [] => ⟨some server, []⟩
  | none, uploadData :: rest =>
    match handleRequest dispatch (requests i).url (requests i).method uploadData
        ⟨server.state, (server.connections i).postData, none⟩ with
    | none => ⟨none, []⟩
    | some exchange =>
      ⟨some
        { state := exchange.state
          connections := Function.update server.connections i
            { uploads := rest, postData := exchange.postData, response := exchange.response } },
        exchange.response.toList.map (.answered i)⟩

def step (dispatch : Dispatcher σ) (requests : ℕ → Request) (environment : σ → ε → Outcome σ ο)
    (server : Server σ) : Action ε → Outcome (Server σ) (Observed ο)
  | .call i => call dispatch requests server i
  | .other input =>
    ⟨(environment server.state input).next.map fun s => { server with state := s },
      (environment server.state input).out.map .other⟩

/-- All calls for one request, with nothing between them. -/
def serveAlone (dispatch : Dispatcher σ) (requests : ℕ → Request) (s : σ) (i : ℕ) :
    Outcome σ (Observed ο) :=
  match serve dispatch (requests i).url (requests i).method (uploads (requests i).chunks)
      { state := s } with
  | none => ⟨none, []⟩
  | some exchange => ⟨some exchange.state, exchange.response.toList.map (.answered i)⟩

/-- The state when every request is served at once. -/
def atOnce (dispatch : Dispatcher σ) (requests : ℕ → Request) (environment : σ → ε → Outcome σ ο)
    (s : σ) : Action ε → Outcome σ (Observed ο)
  | .call i => serveAlone dispatch requests s i
  | .other input => (environment s input).mapOut .other

variable {dispatch : Dispatcher σ} {requests : ℕ → Request} {server server' : Server σ} {s : σ} {i : ℕ}
variable {environment : σ → ε → Outcome σ ο} {action : Action ε} {schedule : List (Action ε)}

/-! ### One call -/

/-- What a call of the handler makes of the exchange: it is read further, whatever the
state, or dispatched. -/
inductive Handles (dispatch : Dispatcher σ) (request : Request) (uploadData : String)
    (s : σ) (postData : Option String) : Exchange σ → Prop where
  | opened (post : request.method = "POST") (first : postData = none)
      (anywhere : ∀ s, handleRequest dispatch request.url request.method uploadData
        ⟨s, postData, none⟩ = some ⟨s, some "", none⟩) :
      Handles dispatch request uploadData s postData ⟨s, some "", none⟩
  | extended {body : String} (post : request.method = "POST") (later : postData = some body)
      (part : uploadData ≠ "")
      (anywhere : ∀ s, handleRequest dispatch request.url request.method uploadData
        ⟨s, postData, none⟩ = some ⟨s, some (body ++ uploadData), none⟩) :
      Handles dispatch request uploadData s postData ⟨s, some (body ++ uploadData), none⟩
  | answered {s' : σ} {page : String}
      (complete : request.method = "POST" → postData ≠ none ∧ uploadData = "") :
      Handles dispatch request uploadData s postData
        ⟨s', postData, some (respond request.url page)⟩

theorem handles {request : Request} {uploadData : String} {postData : Option String}
    {exchange : Exchange σ} (handled : handleRequest dispatch request.url request.method uploadData
      ⟨s, postData, none⟩ = some exchange) :
    Handles dispatch request uploadData s postData exchange := by
  have answers (complete : request.method = "POST" → postData ≠ none ∧ uploadData = "")
      (result : answer dispatch request.url request.method ⟨s, postData, none⟩ = some exchange) :
      Handles dispatch request uploadData s postData exchange := by
    obtain ⟨⟨s', page⟩, _, rfl⟩ := Option.map_eq_some_iff.mp result
    exact .answered complete
  by_cases post : request.method = "POST"
  · cases postData with
    | none =>
      have anywhere (s : σ) : handleRequest dispatch request.url request.method uploadData
          ⟨s, none, none⟩ = some ⟨s, some "", none⟩ := by simp [handleRequest, post]
      obtain rfl := Option.some.inj ((anywhere s).symm.trans handled)
      exact .opened post rfl anywhere
    | some body =>
      by_cases part : uploadData = ""
      · have behind : answer dispatch request.url request.method ⟨s, some body, none⟩ = some exchange := by
          simpa [handleRequest, post, part] using handled
        exact answers (fun _ => ⟨Option.some_ne_none body, part⟩) behind
      · have anywhere (s : σ) : handleRequest dispatch request.url request.method uploadData
            ⟨s, some body, none⟩ = some ⟨s, some (body ++ uploadData), none⟩ := by
          simp [handleRequest, post, part]
        obtain rfl := Option.some.inj ((anywhere s).symm.trans handled)
        exact .extended post rfl part anywhere
  · rw [handleRequest, if_neg post] at handled
    exact answers (fun is => absurd is post) handled

/-- What the next call for a request makes of the server. -/
inductive Called (dispatch : Dispatcher σ) (requests : ℕ → Request) (server : Server σ) (i : ℕ) :
    Server σ → List (Observed ο) → Prop where
  | closed {response : Response} (answered : (server.connections i).response = some response) :
      Called dispatch requests server i server []
  | starved (open_ : (server.connections i).response = none)
      (last : (server.connections i).uploads = []) : Called dispatch requests server i server []
  | called {uploadData : String} {rest : List String} {exchange : Exchange σ}
      (open_ : (server.connections i).response = none)
      (next : (server.connections i).uploads = uploadData :: rest)
      (handled : handleRequest dispatch (requests i).url (requests i).method uploadData
        ⟨server.state, (server.connections i).postData, none⟩ = some exchange) :
      Called dispatch requests server i
        { state := exchange.state
          connections := Function.update server.connections i
            { uploads := rest, postData := exchange.postData, response := exchange.response } }
        (exchange.response.toList.map (.answered i))

theorem call_cases {outcome : Outcome (Server σ) (Observed ο)}
    (same : call dispatch requests server i = outcome) (called : outcome.next = some server') :
    Called dispatch requests server i server' outcome.out := by
  subst same
  unfold call at called ⊢
  split at called
  · rename_i answered
    cases called
    exact .closed answered
  · rename_i open_ last
    cases called
    exact .starved open_ last
  · rename_i open_ next
    split at called
    · cases called
    · rename_i handled
      cases called
      exact .called open_ next handled

/-! ### One request -/

/-- Where a request stands after some of its calls: what is left of it does from any
state what the whole of it would have done, or it is answered. -/
inductive Standing (dispatch : Dispatcher σ) (request : Request) (calls : ℕ) : Connection → Prop where
  | reading {rest : List String} {postData : Option String}
      (left : rest = (uploads request.chunks).drop calls) (early : calls < request.calls)
      (begun : request.method = "POST" → (postData = none ↔ calls = 0))
      (same : ∀ s, serve dispatch request.url request.method rest ⟨s, postData, none⟩ =
        serve dispatch request.url request.method (uploads request.chunks) { state := s }) :
      Standing dispatch request calls ⟨rest, postData, none⟩
  | answered {rest : List String} {postData : Option String} {response : Response}
      (enough : request.calls ≤ calls) :
      Standing dispatch request calls ⟨rest, postData, some response⟩

private theorem uploads_length (chunks : List String) : (uploads chunks).length = chunks.length + 2 := by
  simp [uploads]

private theorem calls_pos (request : Request) : 0 < request.calls := by
  unfold Request.calls
  split <;> omega

private theorem calls_le (request : Request) : request.calls ≤ request.chunks.length + 2 := by
  unfold Request.calls
  split <;> omega

theorem standing_start (dispatch : Dispatcher σ) (request : Request) :
    Standing dispatch request 0 { uploads := uploads request.chunks } :=
  .reading rfl (calls_pos request) (fun _ => by simp) fun _ => rfl

/-- The part a call comes with is empty only behind the body. -/
private theorem part_empty_iff {chunks : List String} {calls : ℕ} {uploadData : String}
    {rest : List String} (parts : ∀ chunk ∈ chunks, chunk ≠ "") (begun : calls ≠ 0)
    (left : uploadData :: rest = (uploads chunks).drop calls) :
    uploadData = "" ↔ calls = chunks.length + 1 := by
  obtain ⟨calls, rfl⟩ := Nat.exists_eq_succ_of_ne_zero begun
  have here : (chunks ++ [""])[calls]? = some uploadData := by
    have first := congrArg List.head? left
    rw [List.head?_drop] at first
    simpa [uploads] using first.symm
  by_cases inside : calls < chunks.length
  · rw [List.getElem?_append_left inside] at here
    have part := parts uploadData (List.mem_of_getElem? here)
    simp only [part, false_iff]
    omega
  · rw [List.getElem?_append_right (not_lt.mp inside)] at here
    have last : calls - chunks.length = 0 ∧ "" = uploadData := by
      simpa [List.getElem?_cons, List.getElem?_nil, ite_eq_iff] using here
    simp only [last.2.symm, true_iff]
    omega

/-- A call for a request that is being read leaves it further read or answered. -/
theorem standing_called {request : Request} {calls : ℕ} {uploadData : String} {rest : List String}
    {postData : Option String} {exchange : Exchange σ}
    (parts : ∀ chunk ∈ request.chunks, chunk ≠ "")
    (standing : Standing dispatch request calls ⟨uploadData :: rest, postData, none⟩)
    (handled : handleRequest dispatch request.url request.method uploadData
      ⟨s, postData, none⟩ = some exchange) :
    Standing dispatch request (calls + 1) ⟨rest, exchange.postData, exchange.response⟩ := by
  cases standing with
  | reading left early begun same =>
    have left' : rest = (uploads request.chunks).drop (calls + 1) := by
      rw [← List.tail_drop, ← left, List.tail_cons]
    -- a call that only reads does so from any state
    have further {body : String} (anywhere : ∀ s, handleRequest dispatch request.url request.method
        uploadData ⟨s, postData, none⟩ = some ⟨s, some body, none⟩) (s : σ) :
        serve dispatch request.url request.method rest ⟨s, some body, none⟩ =
          serve dispatch request.url request.method (uploads request.chunks) { state := s } := by
      rw [← same s, serve, anywhere s]
      rfl
    cases handles handled with
    | opened post first anywhere =>
      have none : calls = 0 := (begun post).mp first
      subst none
      refine .reading left' ?_ (fun _ => by simp) (further anywhere)
      simp [Request.calls, post]
    | extended post later part anywhere =>
      have going : calls ≠ 0 := fun none => by simp [(begun post).mpr none] at later
      have inside : calls ≠ request.chunks.length + 1 :=
        fun last => part ((part_empty_iff parts going left).mpr last)
      refine .reading left' ?_ (fun _ => by simp) (further anywhere)
      simp only [Request.calls, if_pos post] at early ⊢
      omega
    | answered complete =>
      refine .answered ?_
      unfold Request.calls
      split
      · rename_i post
        have last := (part_empty_iff parts (fun none => (complete post).1 ((begun post).mpr none)) left).mp
          (complete post).2
        omega
      · omega

/-- What a call answers is what the request alone is answered. -/
theorem answered_alone {calls : ℕ} {uploadData : String} {rest : List String}
    {postData : Option String} {exchange : Exchange σ} {response : Response}
    (standing : Standing dispatch (requests i) calls ⟨uploadData :: rest, postData, none⟩)
    (handled : handleRequest dispatch (requests i).url (requests i).method uploadData
      ⟨s, postData, none⟩ = some exchange) (responds : exchange.response = some response) :
    serveAlone dispatch requests s i = ⟨some exchange.state, [(.answered i response : Observed ο)]⟩ := by
  cases standing with
  | reading _ _ _ same =>
    have whole : serve dispatch (requests i).url (requests i).method (uploads (requests i).chunks)
        { state := s } = some exchange := by
      rw [← same s, serve, handled, Option.bind_some, responds]
      rfl
    rw [serveAlone, whole]
    simp [responds]

/-- A call that answers nothing leaves the state alone. -/
theorem unanswered_state {request : Request} {uploadData : String} {postData : Option String}
    {exchange : Exchange σ} (handled : handleRequest dispatch request.url request.method uploadData
      ⟨s, postData, none⟩ = some exchange) (silent : exchange.response = none) :
    exchange.state = s := by
  cases handles handled with
  | opened | extended => rfl
  | answered => cases silent

/-- A request on its own is dispatched with its body and answered with the page. -/
theorem serveAlone_eq (dispatch : Dispatcher σ) (parts : ∀ chunk ∈ (requests i).chunks, chunk ≠ "")
    (s : σ) : (serveAlone dispatch requests s i : Outcome σ (Observed ο)) =
      match dispatch (requests i).method (requests i).url (requests i).data s with
      | none => ⟨none, []⟩
      | some result => ⟨some result.1, [.answered i (respond (requests i).url result.2)]⟩ := by
  unfold serveAlone Request.data
  by_cases post : (requests i).method = "POST"
  · rw [if_pos post, post, serve_post parts]
    cases dispatch "POST" (requests i).url (String.join (requests i).chunks) s <;> rfl
  · rw [if_neg post, serve_other post]
    cases dispatch (requests i).method (requests i).url "" s <;> rfl

/-! ### All schedules -/

/-- The server after a schedule, and an order of whole requests and other inputs that
comes to the same. -/
structure Served (dispatch : Dispatcher σ) (requests : ℕ → Request) (environment : σ → ε → Outcome σ ο)
    (s : σ) (schedule order : List (Action ε)) (out : List (Observed ο)) (server : Server σ) : Prop where
  atOnce : run (atOnce dispatch requests environment) s order = ⟨some server.state, out⟩
  sublist : order.Sublist schedule
  others : order.filterMap Action.other? = schedule.filterMap Action.other?
  standing : ∀ i, Standing dispatch (requests i) ((schedule.filterMap Action.request?).count i)
    (server.connections i)
  answered : ∀ i, i ∈ order.filterMap Action.request? ↔ (server.connections i).response ≠ none
  once : (order.filterMap Action.request?).Nodup

variable {order : List (Action ε)} {out : List (Observed ο)}

theorem served_start (dispatch : Dispatcher σ) (requests : ℕ → Request)
    (environment : σ → ε → Outcome σ ο) (s : σ) :
    Served dispatch requests environment s [] [] [] (start requests s) where
  atOnce := rfl
  sublist := .slnil
  others := rfl
  standing i := standing_start dispatch (requests i)
  answered i := by simp [start]
  once := List.nodup_nil

/-- One more call that changes nothing but where its request stands. -/
private theorem served_called {connections : ℕ → Connection}
    (served : Served dispatch requests environment s schedule order out server)
    (others : ∀ j, j ≠ i → connections j = server.connections j)
    (standing : Standing dispatch (requests i) ((schedule.filterMap Action.request?).count i + 1) (connections i))
    (same : (connections i).response = (server.connections i).response) :
    Served dispatch requests environment s (schedule ++ [.call i]) order out
      { server with connections := connections } := by
  refine ⟨served.atOnce, served.sublist.trans (List.sublist_append_left _ _), ?_, fun j => ?_, fun j => ?_,
    served.once⟩
  · rw [served.others, List.filterMap_append]
    exact (List.append_nil _).symm
  · by_cases here : j = i
    · subst here
      simpa using standing
    · simpa [List.count_append, List.count_singleton, Ne.symm here, others j here]
        using served.standing j
  · by_cases here : j = i
    · subst here
      simpa only [same] using served.answered j
    · simpa only [others j here] using served.answered j

theorem served_call (parts : ∀ i, ∀ chunk ∈ (requests i).chunks, chunk ≠ "")
    (served : Served dispatch requests environment s schedule order out server)
    (called : (call dispatch requests server i : Outcome (Server σ) (Observed ο)).next = some server') :
    ∃ order', Served dispatch requests environment s (schedule ++ [.call i]) order'
      (out ++ (call dispatch requests server i).out) server' := by
  have taken := call_cases rfl called
  generalize (call dispatch requests server i).out = new at taken
  cases taken with
  | closed answered =>
    rw [List.append_nil]
    refine ⟨order, served_called served (fun _ _ => rfl) ?_ rfl⟩
    have standing := served.standing i
    generalize server.connections i = connection at standing answered ⊢
    cases standing with
    | reading => cases answered
    | answered enough => exact .answered (by omega)
  | starved open_ last =>
    rw [List.append_nil]
    refine ⟨order, served_called served (fun _ _ => rfl) ?_ rfl⟩
    have standing := served.standing i
    generalize server.connections i = connection at standing open_ last ⊢
    cases standing with
    | answered => cases open_
    | reading left early =>
      have past : (uploads (requests i).chunks).length ≤ (schedule.filterMap Action.request?).count i := by
        rw [← List.drop_eq_nil_iff, ← left]
        exact last
      have few := calls_le (requests i)
      rw [uploads_length] at past
      omega
  | @called uploadData rest exchange open_ next handled =>
    have before := served.standing i
    have here : server.connections i = ⟨uploadData :: rest, (server.connections i).postData, none⟩ := by
      rw [← next, ← open_]
    rw [here] at before
    have standing := standing_called (parts i) before handled
    cases responds : exchange.response with
    | none =>
      rw [unanswered_state handled responds, Option.toList_none, List.map_nil, List.append_nil, ← responds]
      refine ⟨order, served_called served (fun j other => ?_) ?_ ?_⟩
      · simp [other]
      · simpa using standing
      · simpa [responds] using open_.symm
    | some response =>
      have fresh : i ∉ order.filterMap Action.request? :=
        fun already => (served.answered i).mp already open_
      refine ⟨order ++ [.call i], ?_, served.sublist.append (List.Sublist.refl _), ?_, fun j => ?_, fun j => ?_, ?_⟩
      · have last : Connections.atOnce dispatch requests environment server.state (.call i) =
            ⟨some exchange.state, [.answered i response]⟩ := answered_alone before handled responds
        rw [run_append_next (congrArg Outcome.next served.atOnce), run_singleton, last, served.atOnce,
          Option.toList_some, List.map_singleton]
      · rw [List.filterMap_append, List.filterMap_append, served.others]
      · rw [responds] at standing
        by_cases same : j = i
        · subst same
          simpa using standing
        · simpa [List.count_append, List.count_singleton, Ne.symm same, same]
            using served.standing j
      · by_cases same : j = i
        · simp [same]
        · simpa [same] using served.answered j
      · rw [List.filterMap_append]
        exact List.Nodup.append served.once (List.nodup_singleton i) (List.disjoint_singleton.mpr fresh)

theorem served_step (parts : ∀ i, ∀ chunk ∈ (requests i).chunks, chunk ≠ "")
    (served : Served dispatch requests environment s schedule order out server)
    (stepped : (step dispatch requests environment server action).next = some server') :
    ∃ order', Served dispatch requests environment s (schedule ++ [action]) order'
      (out ++ (step dispatch requests environment server action).out) server' := by
  cases action with
  | call i => exact served_call parts served stepped
  | other input =>
    obtain ⟨s', changed, rfl⟩ := Option.map_eq_some_iff.mp stepped
    refine ⟨order ++ [.other input], ?_, served.sublist.append (List.Sublist.refl _), ?_, ?_, ?_, ?_⟩
    · have last : Connections.atOnce dispatch requests environment server.state (.other input) =
          ⟨some s', (environment server.state input).out.map .other⟩ := by
        rw [← changed]
        rfl
      rw [run_append_next (congrArg Outcome.next served.atOnce), run_singleton, last, served.atOnce]
      rfl
    · rw [List.filterMap_append, List.filterMap_append, served.others]
    · simpa using served.standing
    · simpa using served.answered
    · simpa using served.once

/-- Calls for many requests, in any schedule, with anything else between them: there is
an order of the other inputs and of whole requests, each in the place of one of its
calls, that comes to the same when the requests are served at once. A request is served
once or not at all, and it is served when it has been called for often enough. -/
theorem requests_linearized (parts : ∀ i, ∀ chunk ∈ (requests i).chunks, chunk ≠ "")
    (ran : (run (step dispatch requests environment) (start requests s) schedule).next = some server) :
    ∃ order : List (Action ε), order.Sublist schedule ∧
      order.filterMap Action.other? = schedule.filterMap Action.other? ∧
      run (atOnce dispatch requests environment) s order = ⟨some server.state,
        (run (step dispatch requests environment) (start requests s) schedule).out⟩ ∧
      (order.filterMap Action.request?).Nodup ∧
      ∀ i, i ∈ order.filterMap Action.request? ↔
        (requests i).calls ≤ (schedule.filterMap Action.request?).count i := by
  have history := run_history
    (fun schedule out server => ∃ order, Served dispatch requests environment s schedule order out server)
    (fun _ _ _ _ _ ⟨_, served⟩ (_ : True) stepped => served_step parts served stepped)
    ⟨[], served_start dispatch requests environment s⟩ (fun _ _ _ _ _ _ => trivial) ran
  obtain ⟨order, served⟩ := history
  rw [List.nil_append, List.nil_append] at served
  refine ⟨order, served.sublist, served.others, served.atOnce, served.once,
    fun i => (served.answered i).trans ?_⟩
  have standing := served.standing i
  generalize server.connections i = connection at standing
  cases standing with
  | reading _ early => simpa using early
  | answered enough => simpa using enough

end QuobyteMesos.Connections
