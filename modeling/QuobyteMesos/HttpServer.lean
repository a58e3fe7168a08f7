import Mathlib.Data.List.Basic

/-! The HTTP server, translated from `http_server.cpp`.

libmicrohttpd calls the handler once with the headers, once for every part of the
body and once behind the last part, until a response is queued. The handler keeps
the body of a POST in the request's pointer and hands it over as a whole; any other
request is handed over when its headers are in. `serve_post` and `serve_other` say
what becomes of a request, for any dispatcher. A byte string is the string of the
characters its bytes stand for. -/
namespace QuobyteMesos.HttpServer

universe u

variable {σ : Type u}

/-- What a request is handed to: it answers with a page, or ends the process. -/
abbrev Dispatcher (σ : Type u) := (method path data : String) → σ → Option (σ × String)

structure Response where
  status : ℕ
  body : String
  deriving DecidableEq, Repr

/-- A request while it is being read: what its pointer holds, and the response once
it is queued. -/
structure Exchange (σ : Type u) where
  state : σ
  postData : Option String := none
  response : Option Response := none

/-- An empty page stands for one that was not found. -/
def respond (url page : String) : Response :=
  if page ≠ "" then ⟨200, page⟩ else ⟨404, "Not found: " ++ url⟩

/-- The end of `HandleRequest`, where the request is dispatched. -/
def answer (dispatch : Dispatcher σ) (url method : String) (exchange : Exchange σ) :
    Option (Exchange σ) :=
  (dispatch method url (exchange.postData.getD "") exchange.state).map fun result =>
    { exchange with state := result.1, response := some (respond url result.2) }

/-- `HandleRequest` with the part of the body it is called with. -/
def handleRequest (dispatch : Dispatcher σ) (url method uploadData : String)
    (exchange : Exchange σ) : Option (Exchange σ) :=
  if method = "POST" then
    match exchange.postData with
    | none => some { exchange with postData := some "" }
    | some postData =>
      if uploadData ≠ "" then
        some { exchange with postData := some (postData ++ uploadData) }
      else
        answer dispatch url method exchange
  else
    answer dispatch url method exchange

/-- The calls for one request; none follows a response. -/
def serve (dispatch : Dispatcher σ) (url method : String) :
    List String → Exchange σ → Option (Exchange σ)
  | [], exchange => some exchange
  | uploadData :: rest, exchange =>
    (handleRequest dispatch url method uploadData exchange).bind fun exchange =>
      if exchange.response.isSome then some exchange else serve dispatch url method rest exchange

/-- The parts the handler is called with: nothing for the headers, the parts of the
body, and nothing behind them. -/
def uploads (chunks : List String) : List String := "" :: (chunks ++ [""])

variable {dispatch : Dispatcher σ} {url method : String} {chunks : List String}

/-- The parts of a body pile up in the request's pointer. -/
private theorem serve_parts (parts : ∀ chunk ∈ chunks, chunk ≠ "") (postData : String) (s : σ)
    (rest : List String) :
    serve dispatch url "POST" (chunks ++ rest) ⟨s, some postData, none⟩ =
      serve dispatch url "POST" rest ⟨s, some (postData ++ String.join chunks), none⟩ := by
  induction chunks generalizing postData with
  | nil => simp
  | cons chunk chunks ih =>
    have part : chunk ≠ "" := parts chunk List.mem_cons_self
    have step : serve dispatch url "POST" (chunk :: (chunks ++ rest)) ⟨s, some postData, none⟩ =
        serve dispatch url "POST" (chunks ++ rest) ⟨s, some (postData ++ chunk), none⟩ := by
      simp [serve, handleRequest, part]
    rw [List.cons_append, step, ih fun other member => parts other (List.mem_cons_of_mem _ member)]
    simp [String.append_assoc]

/-- However its body is cut, a POST is dispatched once, with the whole of it, and
answered with the page it got. -/
theorem serve_post (parts : ∀ chunk ∈ chunks, chunk ≠ "") (s : σ) :
    serve dispatch url "POST" (uploads chunks) { state := s } =
      (dispatch "POST" url (String.join chunks) s).map fun result =>
        ⟨result.1, some (String.join chunks), some (respond url result.2)⟩ := by
  have headers : serve dispatch url "POST" (uploads chunks) { state := s } =
      serve dispatch url "POST" (chunks ++ [""]) ⟨s, some "", none⟩ := by
    simp [uploads, serve, handleRequest]
  rw [headers, serve_parts parts]
  cases dispatched : dispatch "POST" url (String.join chunks) s with
  | none => simp [serve, handleRequest, answer, dispatched]
  | some result => simp [serve, handleRequest, answer, dispatched]

/-- Any other request is dispatched once, without a body, when its headers are in. -/
theorem serve_other (other : method ≠ "POST") (s : σ) :
    serve dispatch url method (uploads chunks) { state := s } =
      (dispatch method url "" s).map fun result =>
        ⟨result.1, none, some (respond url result.2)⟩ := by
  cases dispatched : dispatch method url "" s with
  | none => simp [uploads, serve, handleRequest, answer, other, dispatched]
  | some result => simp [uploads, serve, handleRequest, answer, other, dispatched]

theorem status_404_iff {page : String} : (respond url page).status = 404 ↔ page = "" := by
  unfold respond
  split
  · rename_i present
    simp [present]
  · rename_i absent
    simpa using absent

end QuobyteMesos.HttpServer
