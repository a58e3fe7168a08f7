import QuobyteMesos.HttpServer
import QuobyteMesos.StateStore

/-! The requests the framework answers, translated from `handleHTTP`, and what a
posted version comes to.

Every post below the version path calls the setter of the state proxy, which writes
the state back, and is answered with the version. The server takes an empty page
for one that was not found, so that a posted shutdown is carried out and answered
with 404 (`posted_version_answered_iff`). It changes nothing only where the message
in memory holds an empty version already and the store is not behind. What
`DebugString` prints of a message and the archive on disk come from outside. -/
namespace QuobyteMesos

/-- The protocol buffer library's printed messages. -/
structure DebugStrings where
  schedulerState : SchedulerState → String
  serviceState : ServiceState → String
  nodeState : NodeState → String

/-- What the pages draw on besides the scheduler; an archive that cannot be opened
has no content. -/
structure PageSources where
  debug : DebugStrings
  archive : Option String

/-- `ServiceState_TaskState_Name`. -/
def ServiceState.TaskState.label : ServiceState.TaskState → String
  | .unknown => "UNKNOWN"
  | .notRunning => "NOT_RUNNING"
  | .starting => "STARTING"
  | .running => "RUNNING"

namespace HttpRequests
open HttpServer StateStore StdString

def kBufferSize : ℕ := 100 * 1024 * 1024

def kArchiveUrl : String := "/executor.tar.gz"

def kVersionAPIUrl : String := "/v1/version"

def kHealthUrl : String := "/v1/health"

/-! ### Pages -/

def renderService (name : String) (hasDevice : Bool) (node : NodeState) (service : ServiceState) :
    String :=
  let deviceMsg := if node.deviceTypesValid then "no device" else "waiting for prober"
  let extra := if hasDevice && service.state ≠ .running then "style='background-color: yellow'" else ""
  "<tr><td>" ++ name ++ ": </td><td>" ++ (if hasDevice then "found" else deviceMsg) ++
    " <span title=\x22" ++ service.lastMessage ++ "\x22 " ++ extra ++ ">\n" ++
    service.state.label ++ "</span>" ++ "</td></tr>\n"

/-- One for each of the services that is recorded as running. -/
def running (services : List ServiceState) : ℕ := services.countP (·.state = .running)

def countRunningServices (s : Scheduler) : ℕ :=
  running [s.apiState, s.s3State, s.consoleState] +
    (s.nodes.toList.map fun entry =>
      running [entry.2.registry, entry.2.metadata, entry.2.data]).sum

/-- The row of one of the services of the cluster. -/
def renderSingleton (debug : DebugStrings) (name : String) (service : ServiceState) : String :=
  "<tr class='hostbox'><td>" ++ name ++ ": </td><td>" ++ service.state.label ++ " " ++
    service.taskId ++ "<div class=\x22details\x22><pre>" ++ debug.serviceState service ++
    "</pre></div></td></tr>"

def renderNode (debug : DebugStrings) (hostname : String) (node : NodeState) : String :=
  "<div class='hostbox' style=\x22display: inline-block; border: 1px solid lightgray; " ++
    "padding: 3px; margin: 3px\x22><h3>" ++ hostname ++
    "<div class=\x22details\x22><pre>" ++ debug.nodeState node ++ "</pre></div>" ++ "</h3>" ++
    "<table><tbody>" ++
    renderService "Registry" (node.deviceType.contains .registry) node node.registry ++
    renderService "Data" (node.deviceType.contains .data) node node.data ++
    renderService "Metadata" (node.deviceType.contains .metadata) node node.metadata ++
    "</table></tbody>" ++ "</div>\n"

/-- The console. -/
def indexPage (debug : DebugStrings) (s : Scheduler) : String :=
  "<html><head>" ++
    ("<style>.details \x7b display: none; \x7d .hostbox:hover .details \x7b display:block; " ++
      "position:absolute; background:#fafafa; border: 2px solid lightgray; \x7d</style>") ++
    "</head><body style='font-family: sans-serif'>" ++
    ("<h1><img style='vertical-align:middle; padding:3px' " ++
      "src=\x22http://www.quobyte.com/favicon-128.png\x22 width=\x2260\x22>" ++
      "Quobyte Mesos Framework Scheduler</h1>\n") ++
    "<table><tbody>" ++ "<tr><td>Deployed container version:</td><td>" ++
    (if s.state.targetVersion = "" then "No version to deploy (set via REST API)"
      else s.state.targetVersion) ++
    "<div class=\x22details\x22>" ++ debug.schedulerState s.state ++ "</div></td></tr>" ++
    renderSingleton debug "API" s.apiState ++ renderSingleton debug "S3" s.s3State ++
    renderSingleton debug "Console" s.consoleState ++ "</tbody></table>\n\n" ++
    String.join (s.nodes.toList.map fun entry => renderNode debug entry.1 entry.2) ++
    "</body></html>"

/-! ### Dispatching -/

/-- What a request has come to: the scheduler, the setters of the state proxy that
were called, and the page. -/
structure Handled where
  scheduler : Scheduler
  setters : List Setter := []
  page : String

/-- An archive that is empty or does not fit the buffer ends the process. -/
def archivePage (archive : Option String) : Option String :=
  match archive with
  | none => some ""
  | some content => if content = "" ∨ kBufferSize ≤ content.length then none else some content

def handleHTTP (sources : PageSources) (s : Scheduler) (method path data : String) :
    Option Handled :=
  if method = "GET" ∧ path = kArchiveUrl then
    (archivePage sources.archive).map fun page => { scheduler := s, page := page }
  else if find kVersionAPIUrl.toList path.toList = some 0 then
    if method = "POST" then
      some
        { scheduler := setTargetVersion s data
          setters := [.setTargetVersion data]
          page := (setTargetVersion s data).state.targetVersion }
    else
      some { scheduler := s, page := s.state.targetVersion }
  else if method = "GET" ∧ path = kHealthUrl then
    some
      { scheduler := s
        page := "OK. Running services: " ++ toString (countRunningServices s) }
  else if method = "GET" ∧ path = "/" then
    some { scheduler := s, page := indexPage sources.debug s }
  else
    some { scheduler := s, page := "" }

/-! ### A request from end to end -/

/-- The framework while it serves a request: the scheduler, the setters called so
far, and what was dispatched. -/
structure Serving where
  scheduler : Scheduler
  setters : List Setter := []
  dispatched : List (String × String × String) := []

def dispatcher (sources : PageSources) : Dispatcher Serving := fun method path data serving =>
  (handleHTTP sources serving.scheduler method path data).map fun handled =>
    ({ scheduler := handled.scheduler
       setters := serving.setters ++ handled.setters
       dispatched := serving.dispatched ++ [(method, path, data)] }, handled.page)

/-- Serving a request whose body comes in parts. -/
def serveRequest (sources : PageSources) (s : Scheduler) (url method : String)
    (chunks : List String) : Option (Exchange Serving) :=
  serve (dispatcher sources) url method (uploads chunks) { state := { scheduler := s } }

/-- The message in memory once the setters have been called. -/
def Serving.memory (serving : Serving) (message : StateMessage) : StateMessage :=
  serving.setters.foldl (fun message change => change.set message) message

/-- The setters leave the message whose values the scheduler sees, with one write-back of
it under way, whatever the format and whatever was stored. -/
def HandedToWriteback (message : StateMessage) (serving : Serving) : Prop :=
  (serving.memory message).values = serving.scheduler.state ∧
  ∀ (format : WriteBack.TextFormat StateMessage String) (value : String) (version : ℕ),
    WriteBack.run format Setter.set (constructed message value version)
        (serving.setters.map .update) =
      { memory := serving.memory message, value := value, version := version
        calls := [.serialized (format.print (serving.memory message))] }

/-- The version is dispatched once, adopted, handed to be written back, and sent to
the client. -/
structure Posted (message : StateMessage) (version : String) (exchange : Exchange Serving) :
    Prop where
  once : exchange.state.dispatched = [("POST", kVersionAPIUrl, version)]
  adopted : exchange.state.scheduler.state.targetVersion = version
  written : HandedToWriteback message exchange.state
  answered : exchange.response = some ⟨200, version⟩

/-- The proxy once the setters have been called and their stores have come in. -/
def Serving.stored (serving : Serving) (message : StateMessage) (value : String) (version : ℕ) :
    WriteBack.State StateMessage String :=
  serving.setters.foldl call (constructed message value version)

/-- The scheduler, the message in memory, with the presence of its fields, and the text in
the store are as they were. -/
structure Untouched (s : Scheduler) (message : StateMessage) (value : String) (version : ℕ)
    (serving : Serving) : Prop where
  scheduler : serving.scheduler = s
  memory : (serving.stored message value version).memory = message
  value : (serving.stored message value version).value = value

/-- The request asks for a shutdown: an empty post below the version path. -/
def ShutdownPosted (url method : String) (chunks : List String) : Prop :=
  method = "POST" ∧ find kVersionAPIUrl.toList url.toList = some 0 ∧ String.join chunks = ""

/-- The message in memory holds an empty version, and the store holds the message. -/
def AlreadyDown (message : StateMessage) (value : String) : Prop :=
  message.targetVersion = some "" ∧ value = printMessage message

variable {sources : PageSources} {s : Scheduler} {message : StateMessage}
variable {url method data : String} {chunks : List String} {handled : Handled}

/-- A request changes nothing unless it posts below the version path. -/
theorem handled_untouched (reply : handleHTTP sources s method url data = some handled)
    (other : ¬ (method = "POST" ∧ find kVersionAPIUrl.toList url.toList = some 0)) :
    handled.scheduler = s ∧ handled.setters = [] := by
  unfold handleHTTP at reply
  split at reply
  · obtain ⟨page, _, rfl⟩ := Option.map_eq_some_iff.mp reply
    exact ⟨rfl, rfl⟩
  · split at reply
    · rename_i versioned
      split at reply
      · rename_i post
        exact absurd ⟨post, versioned⟩ other
      · cases reply
        exact ⟨rfl, rfl⟩
    · repeat' split at reply
      all_goals
        cases reply
        exact ⟨rfl, rfl⟩

/-- A post below the version path is carried out and answered with the version. -/
theorem handled_post (sources : PageSources) (s : Scheduler) (data : String)
    (versioned : find kVersionAPIUrl.toList url.toList = some 0) :
    handleHTTP sources s "POST" url data =
      some { scheduler := setTargetVersion s data, setters := [.setTargetVersion data], page := data } := by
  have post : ¬ ("POST" = "GET" ∧ url = kArchiveUrl) := by simp
  rw [handleHTTP, if_neg post, if_pos versioned, if_pos rfl]
  rfl

/-- What serving a post below the version path comes to. -/
theorem served_post (sources : PageSources) (s : Scheduler)
    (versioned : find kVersionAPIUrl.toList url.toList = some 0)
    (parts : ∀ chunk ∈ chunks, chunk ≠ "") :
    serveRequest sources s url "POST" chunks =
      some
        { state :=
            { scheduler := setTargetVersion s (String.join chunks)
              setters := [.setTargetVersion (String.join chunks)]
              dispatched := [("POST", url, String.join chunks)] }
          postData := some (String.join chunks)
          response := some (respond url (String.join chunks)) } := by
  rw [serveRequest, serve_post parts]
  simp only [dispatcher, handled_post sources s _ versioned]
  rfl

/-- Any other request leaves the framework as it was. -/
theorem served_other {exchange : Exchange Serving} (parts : ∀ chunk ∈ chunks, chunk ≠ "")
    (other : ¬ (method = "POST" ∧ find kVersionAPIUrl.toList url.toList = some 0))
    (served : serveRequest sources s url method chunks = some exchange) :
    exchange.state.scheduler = s ∧ exchange.state.setters = [] := by
  have untouched {body page : String} {serving : Serving}
      (dispatched : dispatcher sources method url body { scheduler := s } = some (serving, page)) :
      serving.scheduler = s ∧ serving.setters = [] := by
    obtain ⟨handled, reply, same⟩ := Option.map_eq_some_iff.mp dispatched
    obtain ⟨rfl, _⟩ := Prod.mk.inj same
    obtain ⟨scheduler, setters⟩ := handled_untouched reply other
    exact ⟨scheduler, by simp [setters]⟩
  unfold serveRequest at served
  by_cases post : method = "POST"
  · subst post
    rw [serve_post parts] at served
    obtain ⟨⟨serving, page⟩, dispatched, rfl⟩ := Option.map_eq_some_iff.mp served
    exact untouched dispatched
  · rw [serve_other post] at served
    obtain ⟨⟨serving, page⟩, dispatched, rfl⟩ := Option.map_eq_some_iff.mp served
    exact untouched dispatched

private theorem posted_iff (sources : PageSources) (held : message.values = s.state)
    (parts : ∀ chunk ∈ chunks, chunk ≠ "") :
    ∃ exchange, serveRequest sources s kVersionAPIUrl "POST" chunks = some exchange ∧
      (Posted message (String.join chunks) exchange ↔ String.join chunks ≠ "") := by
  refine ⟨_, served_post sources s (by decide) parts, ?_, ?_⟩
  · rintro posted empty
    have answered := posted.answered
    simp [empty, respond] at answered
  · intro present
    refine ⟨rfl, rfl, ⟨?_, fun format value version => rfl⟩, ?_⟩
    · simp only [Serving.memory, List.foldl_cons, List.foldl_nil, values_set, held]
      rfl
    · simp [respond, present]

/-- A posted shutdown leaves nothing as it was unless the framework is down already. -/
private theorem shutdown_untouched_iff (held : message.values = s.state) (value : String)
    (version : ℕ) (dispatched : List (String × String × String)) :
    Untouched s message value version
        { scheduler := setTargetVersion s "", setters := [.setTargetVersion ""]
          dispatched := dispatched } ↔ AlreadyDown message value := by
  have stored : Serving.stored
      { scheduler := setTargetVersion s "", setters := [.setTargetVersion ""]
        dispatched := dispatched } message value version =
      { memory := { message with targetVersion := some "" }
        value := printMessage { message with targetVersion := some "" }
        version := version + 1, calls := [.returned] } := by
    simp only [Serving.stored, List.foldl_cons, List.foldl_nil, call_eq]
    rfl
  have kept : ({ message with targetVersion := some "" } : StateMessage) = message ↔
      message.targetVersion = some "" := by
    cases message
    simp [eq_comm]
  constructor
  · rintro ⟨_, memory, text⟩
    rw [stored] at memory text
    refine ⟨kept.mp memory, ?_⟩
    rw [← text]
    exact congrArg printMessage memory
  · rintro ⟨empty, text⟩
    have unwanted : s.state.targetVersion = "" := by rw [← held, StateMessage.values, empty]; rfl
    have same : ({ s.state with targetVersion := "" } : SchedulerState) = s.state := by
      rw [← unwanted]
    refine ⟨by simp [setTargetVersion, same], ?_, ?_⟩
    · rw [stored]
      exact kept.mpr empty
    · rw [stored, kept.mpr empty, text]

/-- A 404 means that nothing was changed, but for a shutdown that is carried out. -/
private theorem untouched_iff (sources : PageSources) (held : message.values = s.state)
    (value : String) (version : ℕ) (parts : ∀ chunk ∈ chunks, chunk ≠ "") :
    (∀ exchange body, serveRequest sources s url method chunks = some exchange →
        exchange.response = some ⟨404, body⟩ →
          Untouched s message value version exchange.state) ↔
      (ShutdownPosted url method chunks → AlreadyDown message value) := by
  constructor
  · rintro unchanged ⟨rfl, versioned, empty⟩
    have served := served_post sources s versioned parts
    rw [empty] at served
    have untouched := unchanged _ ("Not found: " ++ url) served (by simp [respond])
    exact (shutdown_untouched_iff held value version _).mp untouched
  · intro down exchange body served missing
    by_cases post : method = "POST" ∧ find kVersionAPIUrl.toList url.toList = some 0
    · obtain ⟨rfl, versioned⟩ := post
      rw [served_post sources s versioned parts] at served
      cases served
      have status := congrArg Response.status (Option.some.inj missing)
      have empty : String.join chunks = "" := status_404_iff.mp status
      rw [empty]
      exact (shutdown_untouched_iff held value version _).mpr (down ⟨rfl, versioned, empty⟩)
    · obtain ⟨scheduler, setters⟩ := served_other parts post served
      refine ⟨scheduler, ?_, ?_⟩ <;> simp [Serving.stored, setters, constructed]

def plainSources : PageSources := ⟨⟨fun _ => "", fun _ => "", fun _ => ""⟩, none⟩

/-- A framework that has a version, and its store. -/
def deployed : StateMessage := { frameworkIdValue := some "f1", targetVersion := some "1.1.5" }

end HttpRequests

end QuobyteMesos
