import QuobyteMesos.NodeSteps
import QuobyteMesos.RecordSteps

/-! The way of a probe to the agent and of its answer back.

A request goes to the agent of the offer; the answer is matched with the agent
stored when the entry of the host was made, by an offer or by an update, and
never renewed. The answer reaches the entry of the host that was probed, and of no
host that moved on to another agent, exactly if the one stores the agent asked and
the others do not (`probe_answer_iff`). That is so for as long as hosts keep the
agents they were entered with (`AgentStays`). -/
namespace QuobyteMesos.ProbeAnswers
open Mesos Machine SchedulerRuns SchedulerSteps LaunchSteps NodeSteps RecordSteps

variable {R : Type} {s s' : Scheduler} {hostname host agent : String} {input : Input R}
variable {seen : List (Input R)} {now : Int} {offer : Offer R} {node : NodeState}

/-- The agent an offer of the host comes from. -/
def offeredBy (hostname : String) : Input R → Option String
  | .offer _ offer => if offer.hostname = hostname then some offer.slaveId else none
  | .statusUpdate .. | .frameworkMessage .. | .registered _ | .reregistered | .postVersion _ => none

/-- The agent of the latest offer of a host. -/
def latestAgent (hostname : String) (seen : List (Input R)) : Option String :=
  (seen.filterMap (offeredBy hostname)).getLast?

/-- An offer comes from the agent its host was entered with, and an update that
enters a host comes from the agent of the latest offer of that host, if there was
one. -/
def AgentStays (seen : List (Input R)) (s : Scheduler) : Input R → Prop
  | .offer _ offer => ∀ facts, s.facts offer.hostname = some facts →
      facts.slaveIdValue = offer.slaveId
  | .statusUpdate _ status => ∀ service hostname, splitTaskId status.taskId = some (service, hostname) →
      s.facts hostname = none → ∀ agent, latestAgent hostname seen = some agent →
        agent = status.slaveId
  | .frameworkMessage .. | .registered _ | .reregistered | .postVersion _ => True

/-- Every entry stores the agent of the latest offer of its host. -/
def StoresLatest (seen : List (Input R)) (s : Scheduler) : Prop :=
  ∀ hostname facts agent, s.facts hostname = some facts → latestAgent hostname seen = some agent →
    facts.slaveIdValue = agent

theorem latestAgent_append (seen : List (Input R)) (input : Input R) :
    latestAgent hostname (seen ++ [input]) =
      (offeredBy hostname input).or (latestAgent hostname seen) := by
  cases offered : offeredBy hostname input <;> simp [latestAgent, offered]

/-- What a node is after a response of its agent. -/
def answered (now : Int) (response : ProbeResponse) (node : NodeState) : NodeState :=
  { node with
    deviceType := response.deviceType
    clientMountPoint := response.clientMountPoint
    prober := { node.prober with lastSeenS := now }
    deviceTypesValid := true }

variable [Resources R] {config : Config R}

/-! ### Stored agents -/

/-- An entry keeps its agent. -/
theorem agent_kept {facts facts' : NodeFacts} (stepped : (inputStep config s input).next = some s')
    (known : s.facts hostname = some facts) (after : s'.facts hostname = some facts') :
    facts'.slaveIdValue = facts.slaveIdValue := by
  have step := node_step stepped hostname
  rw [after] at step
  generalize same : some facts' = left at step
  cases step with
  | kept =>
    rw [known] at same
    rw [Option.some.inj same]
  | added slaveId absent =>
    rw [known] at absent
    cases absent
  | @probed _ _ _ facts'' before =>
    rw [known] at before
    cases same
    rw [Option.some.inj before]

theorem stores_latest_step (stores : StoresLatest seen s) (met : AgentStays seen s input)
    (stepped : (inputStep config s input).next = some s') : StoresLatest (seen ++ [input]) s' := by
  intro hostname facts agent known latest
  rw [latestAgent_append] at latest
  cases before : s.facts hostname with
  | none =>
    rcases entry_added stepped before known with ⟨now, offer, rfl, rfl, stored⟩ |
      ⟨now, status, service, rfl, split, stored⟩
    · rw [offeredBy, if_pos rfl, Option.some_or] at latest
      rw [stored]
      exact Option.some.inj latest
    · rw [offeredBy, Option.none_or] at latest
      rw [stored, met service hostname split before agent latest]
  | some facts' =>
    rw [agent_kept stepped before known]
    cases offered : offeredBy hostname input with
    | none =>
      rw [offered, Option.none_or] at latest
      exact stores hostname facts' agent before latest
    | some slaveId =>
      rw [offered, Option.some_or] at latest
      cases input with
      | offer now offer =>
        by_cases here : offer.hostname = hostname
        · subst here
          rw [offeredBy, if_pos rfl] at offered
          rw [met facts' before, Option.some.inj offered, Option.some.inj latest]
        · rw [offeredBy, if_neg here] at offered
          cases offered
      | statusUpdate | frameworkMessage | registered | reregistered | postVersion => cases offered

omit [Resources R] in
theorem stores_latest_fresh (state : SchedulerState) :
    StoresLatest ([] : List (Input R)) (Scheduler.fresh state) := by
  intro hostname facts agent _ latest
  cases latest

theorem stores_latest_run {state : SchedulerState} {inputs : List (Input R)}
    (met : Throughout AgentStays (inputStep config) (Scheduler.fresh state) inputs)
    (ran : (run (inputStep config) (Scheduler.fresh state) inputs).next = some s) :
    StoresLatest inputs s := by
  have keeps : ∀ seen s input s', StoresLatest seen s → AgentStays seen s input →
      (inputStep config s input).next = some s' → StoresLatest (seen ++ [input]) s' :=
    fun _ _ _ _ => stores_latest_step
  exact run_fed StoresLatest keeps (stores_latest_fresh state) met ran

/-- The host has an entry with that agent. -/
def EnteredWith (s : Scheduler) (hostname slaveId : String) : Prop :=
  ∃ facts, s.facts hostname = some facts ∧ facts.slaveIdValue = slaveId

theorem entered_with_step {slaveId : String} (entered : EnteredWith s hostname slaveId)
    (stepped : (inputStep config s input).next = some s') : EnteredWith s' hostname slaveId := by
  obtain ⟨facts, known, stored⟩ := entered
  have present : hostname ∈ s'.nodes := by
    apply mem_nodes_step stepped
    by_contra absent
    rw [facts_eq_none_iff.mpr absent] at known
    cases known
  cases after : s'.facts hostname with
  | none => exact absurd present (facts_eq_none_iff.mp after)
  | some facts' => exact ⟨facts', after, (agent_kept stepped known after).trans stored⟩

/-! ### Requests -/

/-- A request is sent to the agent of the offer, for a host that has an entry. -/
theorem probe_request {executorId slaveId : String} {data : ProbeRequest}
    (stepped : (inputStep config s (.offer now offer)).next = some s')
    (sent : .called (.sendFrameworkMessage executorId slaveId data) ∈
      (inputStep config s (.offer now offer)).out) :
    slaveId = offer.slaveId ∧ offer.hostname ∈ s.nodes := by
  obtain ⟨calls, answered, out⟩ := offer_step stepped
  rw [out] at sent
  obtain ⟨call, made, same⟩ := List.mem_map.mp sent
  obtain rfl := Event.called.inj same
  cases answered with
  | restricted => simp at made
  | discovered => simp [reconcileHost] at made
  | prober => simp at made
  | probe node known =>
    refine ⟨?_, ?_⟩
    · simp [triggerProbe, reconcileHost] at made
      exact made.2.1
    · rw [Std.ExtTreeMap.mem_iff_isSome_getElem?, known]
      rfl
  | launch => split at made <;> simp at made
  | shutdown =>
    rcases List.mem_append.mp made with killed | declined
    · obtain ⟨task, same⟩ := killServices_kills killed
      cases same
    · simp at declined

/-! ### Answers -/

/-- A response of the agent is taken over by the entry of the host, and leaves every
host alone whose latest offer came from another agent. -/
structure TakenOver (seen : List (Input R)) (s : Scheduler) (hostname slaveId : String)
    (later : Int) (response : ProbeResponse) : Prop where
  here : ∃ node, s.nodes[hostname]? = some node ∧
    (frameworkMessage s later slaveId (some response)).nodes[hostname]? =
      some (answered later response node)
  elsewhere : ∀ host agent, latestAgent host seen = some agent → agent ≠ slaveId →
    (frameworkMessage s later slaveId (some response)).nodes[host]? = s.nodes[host]?

omit [Resources R] in
/-- A response tells an entry of another agent nothing. -/
private theorem response_at_iff {slaveId : String} (known : s.nodes[hostname]? = some node) :
    (∀ later response, (frameworkMessage s later slaveId (some response)).nodes[hostname]? =
        some (answered later response node)) ↔ node.slaveIdValue = slaveId := by
  constructor
  · intro taken
    by_contra other
    have kept := taken (node.prober.lastSeenS + 1) {}
    rw [nodes_frameworkMessage, known, Option.map_some, if_neg other] at kept
    have seen := congrArg (fun node => node.prober.lastSeenS) (Option.some.inj kept)
    simp only [answered] at seen
    omega
  · intro stored later response
    rw [nodes_frameworkMessage, known, Option.map_some, if_pos stored, answered]

omit [Resources R] in
/-- Responses of an agent reach the entries that store it. -/
theorem taken_over_iff {slaveId : String} :
    (∀ later response, TakenOver seen s hostname slaveId later response) ↔
      EnteredWith s hostname slaveId ∧
        ∀ host, EnteredWith s host slaveId →
          ∀ agent, latestAgent host seen = some agent → agent = slaveId := by
  constructor
  · intro taken
    obtain ⟨node, known, _⟩ := (taken 0 {}).here
    refine ⟨⟨node.facts, by rw [Scheduler.facts, known]; rfl, ?_⟩, ?_⟩
    · refine (response_at_iff known).mp fun later response => ?_
      obtain ⟨node', known', took⟩ := (taken later response).here
      obtain rfl := Option.some.inj (known.symm.trans known')
      exact took
    · rintro host ⟨facts, entered, stored⟩ agent latest
      obtain ⟨other, present, rfl⟩ := Option.map_eq_some_iff.mp entered
      by_contra moved
      -- a response at another time than the last one would be noticed
      have left := (taken (other.prober.lastSeenS + 1) {}).elsewhere host agent latest moved
      have took := (response_at_iff present).mpr stored (other.prober.lastSeenS + 1) {}
      have same := Option.some.inj (took.symm.trans (left.trans present))
      have seen := congrArg (fun node => node.prober.lastSeenS) same
      simp only [answered] at seen
      omega
  · rintro ⟨⟨facts, entered, stored⟩, alone⟩ later response
    obtain ⟨node, known, rfl⟩ := Option.map_eq_some_iff.mp entered
    refine ⟨⟨node, known, (response_at_iff known).mpr stored later response⟩, ?_⟩
    intro host agent latest other
    rw [nodes_frameworkMessage]
    cases present : s.nodes[host]? with
    | none => rfl
    | some node =>
      rw [Option.map_some, if_neg]
      intro stored
      exact other (alone host ⟨node.facts, by rw [Scheduler.facts, present]; rfl, stored⟩ agent latest)

/-- In every run: the responses of an agent that was asked to probe a host, delivered at
any time later, reach the entry of that host and of no host that moved on exactly if
the entry stored the agent when it was asked, and no entry of a host stores it whose
latest offer came from another one. -/
theorem probe_answer_iff {state : SchedulerState} {callbacks : List (Callback R)}
    {before between : List (Input R)} {asked : Scheduler} {executorId slaveId : String}
    {data : ProbeRequest}
    (split : callbacks.flatMap Callback.inputs = before ++ .offer now offer :: between)
    (asking : (run (inputStep config) (Scheduler.fresh state) before).next = some asked)
    (sent : .called (.sendFrameworkMessage executorId slaveId data) ∈
      (inputStep config asked (.offer now offer)).out)
    (ran : (run (callbackStep config) (Scheduler.fresh state) callbacks).next = some s) :
    slaveId = offer.slaveId ∧
    ((∀ later response, TakenOver (callbacks.flatMap Callback.inputs) s offer.hostname slaveId
        later response) ↔
      EnteredWith asked offer.hostname slaveId ∧
        ∀ host, EnteredWith s host slaveId →
          ∀ agent, latestAgent host (callbacks.flatMap Callback.inputs) = some agent →
            agent = slaveId) := by
  obtain ⟨middle, stepped⟩ := continues_of_emitted sent
  obtain ⟨rfl, entered⟩ := probe_request stepped sent
  rw [callback_runs, split, run_append_next asking, run_cons_next stepped] at ran
  have ended : (run (inputStep config) middle between).next = some s := ran
  have kept (agent : String) (held : EnteredWith asked offer.hostname agent) :
      EnteredWith s offer.hostname agent := by
    have after := run_invariant (fun _ _ _ => entered_with_step) (entered_with_step held stepped) ended
    exact after
  refine ⟨rfl, ?_⟩
  rw [taken_over_iff]
  refine and_congr_left fun _ => ⟨?_, kept offer.slaveId⟩
  rintro ⟨facts, after, stored⟩
  cases known : asked.facts offer.hostname with
  | none => exact absurd entered (facts_eq_none_iff.mp known)
  | some facts' =>
    obtain ⟨_, after', stored'⟩ := kept facts'.slaveIdValue ⟨facts', known, rfl⟩
    obtain rfl := Option.some.inj (after.symm.trans after')
    exact ⟨facts', known, stored'.symm.trans stored⟩

/-- In every run in which hosts keep their agents: a response of the agent that
was asked to probe a host, delivered at any time later, is taken over by the entry
of that host, and leaves every host alone whose latest offer came from another
agent. -/
theorem probe_answer_reaches (config : Config R) (state : SchedulerState)
    {callbacks : List (Callback R)} {before between : List (Input R)} {asked : Scheduler}
    {executorId slaveId : String} {data : ProbeRequest}
    (met : Throughout AgentStays (inputStep config) (Scheduler.fresh state)
      (callbacks.flatMap Callback.inputs))
    (split : callbacks.flatMap Callback.inputs = before ++ .offer now offer :: between)
    (asking : (run (inputStep config) (Scheduler.fresh state) before).next = some asked)
    (sent : .called (.sendFrameworkMessage executorId slaveId data) ∈
      (inputStep config asked (.offer now offer)).out)
    (ran : (run (callbackStep config) (Scheduler.fresh state) callbacks).next = some s)
    (later : Int) (response : ProbeResponse) :
    slaveId = offer.slaveId ∧
    (∃ node, s.nodes[offer.hostname]? = some node ∧
      (frameworkMessage s later slaveId (some response)).nodes[offer.hostname]? =
        some (answered later response node)) ∧
    ∀ host agent, latestAgent host (callbacks.flatMap Callback.inputs) = some agent →
      agent ≠ slaveId →
        (frameworkMessage s later slaveId (some response)).nodes[host]? = s.nodes[host]? := by
  obtain ⟨rfl, reaches⟩ := probe_answer_iff split asking sent ran
  obtain ⟨middle, stepped⟩ := continues_of_emitted sent
  have here : EnteredWith asked offer.hostname offer.slaveId := by
    cases known : asked.facts offer.hostname with
    | none => exact absurd (probe_request stepped sent).2 (facts_eq_none_iff.mp known)
    | some facts => exact ⟨facts, known, met before (.offer now offer) between asked split asking facts known⟩
  have stores := stores_latest_run met (by rw [← callback_runs]; exact ran)
  have taken := reaches.mpr ⟨here, fun host entered agent latest => by
    obtain ⟨facts, known, stored⟩ := entered
    rw [← stores host facts agent known latest, stored]⟩
  exact ⟨rfl, (taken later response).here, (taken later response).elsewhere⟩

/-! ### A host that is probed -/

/-- A prober reports in on a host that has been offered. -/
def proberRuns : List (Callback TextResources) :=
  [.resourceOffers [(1, wideOffer "o1" "h1")],
    .statusUpdate 2 { taskId := "quobyte-device-prober-h1", state := .running,
                      slaveId := "agent-h1" }]

/-- The host is offered again when a probe is due. -/
def hostProbed : List (Callback TextResources) :=
  proberRuns ++ [.resourceOffers [(200, wideOffer "o2" "h1")]]

/-- A sufficient check of the condition: whatever names a known host comes from the
agent it was entered with, and updates name no other host. -/
def agentAsEntered (s : Scheduler) : Input R → Bool
  | .offer _ offer => (s.facts offer.hostname).all (·.slaveIdValue = offer.slaveId)
  | .statusUpdate _ status => (splitTaskId status.taskId).all fun parts => (s.facts parts.2).isSome
  | .frameworkMessage .. | .registered _ | .reregistered | .postVersion _ => true

omit [Resources R] in
private theorem agent_stays_of_entered (entered : agentAsEntered s input = true) :
    AgentStays seen s input := by
  cases input with
  | offer now offer =>
    intro facts known
    simpa [agentAsEntered, known] using entered
  | statusUpdate now status =>
    intro service hostname split absent
    simp [agentAsEntered, split, absent] at entered
  | frameworkMessage | registered | reregistered | postVersion => trivial

/-- Whether handling the offer sends a request to the agent. -/
def asks (config : Config R) (s : Scheduler) (now : Int) (offer : Offer R) (slaveId : String) : Bool :=
  (handleOffer config s now offer).toOption.any fun answer =>
    answer.2.any fun call => match call with
      | .sendFrameworkMessage _ agent _ => agent = slaveId
      | .launchTasks .. | .declineOffer _ | .killTask _ | .reconcileTasks _ => false

private theorem request_of_asks {slaveId : String} (asked : asks config s now offer slaveId = true) :
    ∃ executorId data, .called (.sendFrameworkMessage executorId slaveId data) ∈
      (inputStep config s (.offer now offer)).out := by
  obtain ⟨⟨s', calls⟩, handled, found⟩ := except_any_ok asked
  obtain ⟨call, made, kind⟩ := List.any_eq_true.mp found
  cases call with
  | sendFrameworkMessage executorId agent data =>
    obtain rfl : agent = slaveId := by simpa using kind
    refine ⟨executorId, data, ?_⟩
    rw [inputStep, handled]
    exact List.mem_map_of_mem made
  | launchTasks | declineOffer | killTask | reconcileTasks => cases kind

/-- The answer of the probed agent is taken over. -/
theorem probed_host_answered : ∃ s node,
    (run (callbackStep defaultConfig) (Scheduler.fresh { targetVersion := "1" })
      hostProbed).next = some s ∧
    (frameworkMessage s 201 "agent-h1" (some { deviceType := [.data] })).nodes["h1"]? =
      some (answered 201 { deviceType := [.data] } node) := by
  have checked : throughoutCheck (fun _ => agentAsEntered) (inputStep defaultConfig) []
      (Scheduler.fresh { targetVersion := "1" }) (hostProbed.flatMap Callback.inputs) = true := by
    decide +kernel
  have implies : ∀ seen s (input : Input TextResources),
      agentAsEntered s input = true → AgentStays seen s input := fun _ _ _ => agent_stays_of_entered
  have met := throughout_of_check _ implies checked
  have probed : (run (inputStep defaultConfig) (Scheduler.fresh { targetVersion := "1" })
      (proberRuns.flatMap Callback.inputs)).next.map
        (fun s => asks defaultConfig s 200 (wideOffer "o2" "h1") "agent-h1") = some true := by
    decide +kernel
  have returns : (run (callbackStep defaultConfig) (Scheduler.fresh { targetVersion := "1" })
      hostProbed).next.isSome = true := by decide +kernel
  obtain ⟨asked, asking, sends⟩ := Option.map_eq_some_iff.mp probed
  obtain ⟨executorId, data, sent⟩ := request_of_asks sends
  obtain ⟨s, ran⟩ := Option.isSome_iff_exists.mp returns
  have split : hostProbed.flatMap Callback.inputs =
    proberRuns.flatMap Callback.inputs ++ .offer 200 (wideOffer "o2" "h1") :: [] := rfl
  obtain ⟨_, ⟨node, _, taken⟩, _⟩ := probe_answer_reaches defaultConfig _ met split asking sent ran
    201 { deviceType := [.data] }
  exact ⟨s, node, ran, taken⟩

/-- The agent of a host is replaced before the host is probed. -/
def agentReplaced : List (Callback TextResources) :=
  proberRuns ++ [.resourceOffers [(200, { wideOffer "o2" "h1" with slaveId := "agent-2" })]]

/-- The new agent is asked, and its answer is dropped. -/
theorem replaced_agent_ignored : ∃ asked s executorId data,
    (run (inputStep defaultConfig) (Scheduler.fresh { targetVersion := "1" })
      (proberRuns.flatMap Callback.inputs)).next = some asked ∧
    .called (.sendFrameworkMessage executorId "agent-2" data) ∈
      (inputStep defaultConfig asked
        (.offer 200 { wideOffer "o2" "h1" with slaveId := "agent-2" })).out ∧
    (run (callbackStep defaultConfig) (Scheduler.fresh { targetVersion := "1" })
      agentReplaced).next = some s ∧
    ((frameworkMessage s 201 "agent-2" (some { deviceType := [.data] })).node "h1").deviceTypesValid =
      false := by
  have probed : (run (inputStep defaultConfig) (Scheduler.fresh { targetVersion := "1" })
      (proberRuns.flatMap Callback.inputs)).next.map (fun s => asks defaultConfig s 200
        { wideOffer "o2" "h1" with slaveId := "agent-2" } "agent-2") = some true := by
    decide +kernel
  have ended : (run (callbackStep defaultConfig) (Scheduler.fresh { targetVersion := "1" })
      agentReplaced).next.map (fun s => ((frameworkMessage s 201 "agent-2"
        (some { deviceType := [.data] })).node "h1").deviceTypesValid) = some false := by
    decide +kernel
  obtain ⟨asked, asking, sends⟩ := Option.map_eq_some_iff.mp probed
  obtain ⟨executorId, data, sent⟩ := request_of_asks sends
  obtain ⟨s, ran, dropped⟩ := Option.map_eq_some_iff.mp ended
  exact ⟨asked, s, executorId, data, asking, sent, ran, dropped⟩

end QuobyteMesos.ProbeAnswers
