import QuobyteMesos.LaunchExclusion
import Mathlib.Data.Finset.Basic

/-! The scheduler in its cluster.

Tasks are live or not; launches, kills, reconciliation requests and status
updates are in flight until the cluster or the scheduler takes them up, in any
order and after any delay. The master answers a request truthfully. The
scheduler keeps one record for each cluster service and believes it idle once
any host's update clears it, so at most one instance is started in the runs in
which such an update comes when the service is really gone
(`cluster_services_exclusive`). -/
namespace QuobyteMesos

/-- The tasks that run and the messages under way. A request without an id asks
about every task. -/
structure Cluster where
  scheduler : Scheduler
  live : Finset String := ∅
  launches : List String := []
  kills : List String := []
  requests : List (Option String) := []
  updates : List Mesos.TaskStatus := []

namespace Cluster
open Mesos Machine SchedulerRuns SchedulerSteps RecordSteps LaunchExclusion

variable {R : Type}

/-- What can happen: the scheduler handles an input, or the cluster takes up a
message or loses a task, and reports so. -/
inductive Action (R : Type) where
  | handle (input : Input R)
  | started (report : TaskStatus)
  | dropped (report : TaskStatus)
  | stopped (report : TaskStatus)
  | killed (report : TaskStatus)
  | answered (report : TaskStatus)

/-- The calls of the scheduler become messages. -/
def send (c : Cluster) (s : Scheduler) (out : List (Event R)) : Cluster :=
  { c with
    scheduler := s
    launches := c.launches ++ out.flatMap Event.launched
    kills := c.kills ++ out.flatMap Event.killed
    requests := c.requests ++ out.flatMap Event.requested }

/-- The state the master knows a task in. -/
def known (c : Cluster) (id : String) : Mesos.TaskState :=
  if id ∈ c.live then .running else .lost

/-- How a kill ends. -/
def afterKill (c : Cluster) (id : String) : Mesos.TaskState :=
  if id ∈ c.live then .killed else .lost

/-- A report is under way to the scheduler. -/
def report (c : Cluster) (status : TaskStatus) : Cluster :=
  { c with updates := status :: c.updates }

variable [Resources R]

def handle (config : Config R) (c : Cluster) (input : Input R) : Outcome Cluster (Event R) :=
  ⟨(inputStep config c.scheduler input).next.map fun s =>
      c.send s (inputStep config c.scheduler input).out,
    (inputStep config c.scheduler input).out⟩

/-- An action that cannot happen leaves the cluster as it is. -/
def step (config : Config R) (c : Cluster) : Action R → Outcome Cluster (Event R)
  | .handle (.statusUpdate now status) =>
    if status ∈ c.updates then
      handle config { c with updates := c.updates.erase status } (.statusUpdate now status)
    else ⟨some c, []⟩
  | .handle input => handle config c input
  | .started status =>
    if status.state = .running ∧ status.taskId ∈ c.launches then
      ⟨some ({ c with
        launches := c.launches.erase status.taskId
        live := insert status.taskId c.live }.report status), []⟩
    else ⟨some c, []⟩
  | .dropped status =>
    if isTerminal status.state ∧ status.taskId ∈ c.launches then
      ⟨some ({ c with launches := c.launches.erase status.taskId }.report status), []⟩
    else ⟨some c, []⟩
  | .stopped status =>
    if isTerminal status.state ∧ status.taskId ∈ c.live then
      ⟨some ({ c with live := c.live.erase status.taskId }.report status), []⟩
    else ⟨some c, []⟩
  | .killed status =>
    if status.taskId ∈ c.kills ∧ status.state = c.afterKill status.taskId then
      ⟨some ({ c with
        kills := c.kills.erase status.taskId
        live := c.live.erase status.taskId }.report status), []⟩
    else ⟨some c, []⟩
  | .answered status =>
    -- a request about every task is answered once for each task that runs
    if none ∈ c.requests ∧ status.taskId ∈ c.live ∧ status.state = .running then
      ⟨some (c.report status), []⟩
    else if some status.taskId ∈ c.requests ∧ status.state = c.known status.taskId then
      ⟨some ({ c with requests := c.requests.erase (some status.taskId) }.report status), []⟩
    else ⟨some c, []⟩

variable {config : Config R} {c c' : Cluster} {action : Action R}

/-- The scheduler has just been constructed; nothing is said about what runs or is
under way. -/
def Restarted (c : Cluster) : Prop := ∃ state, c.scheduler = Scheduler.fresh state

/-- At most one task of each cluster service runs. -/
def Single (c : Cluster) : Prop :=
  ∀ kind : ServiceKind, kind.clusterWide = true → ∀ host host',
    taskId kind host ∈ c.live → taskId kind host' ∈ c.live → host = host'

/-- No task of the service runs or is about to. -/
def Gone (c : Cluster) (kind : ServiceKind) : Prop :=
  ∀ host, taskId kind host ∉ c.live ∧ taskId kind host ∉ c.launches

/-- An update that clears the record of a cluster service finds the service gone. -/
def ClearsWhenGone (c : Cluster) : Action R → Prop
  | .handle (.statusUpdate _ status) => status ∈ c.updates →
      ∀ kind host, statusTarget status.taskId = some (kind, host) → kind.clusterWide = true →
        isTerminal status.state = true → status.state ≠ .finished →
        acceptsUpdate (c.scheduler.record host kind) status = true → c.Gone kind
  | .handle _ | .started _ | .dropped _ | .stopped _ | .killed _ | .answered _ => True

/-- A cluster service recorded as idle is gone. -/
def IdleGone (c : Cluster) : Prop :=
  ∀ kind host, kind.clusterWide = true →
    (c.scheduler.record host kind).state = .notRunning → c.Gone kind

theorem idle_gone_start (start : Restarted c) : IdleGone c := by
  intro kind host _ idle
  obtain ⟨state, fresh⟩ := start
  rw [fresh] at idle
  cases kind <;> cases idle

private theorem idle_gone_handle {input : Input R} (inv : IdleGone c)
    (clears : ∀ now status kind host, input = .statusUpdate now status →
      statusTarget status.taskId = some (kind, host) → kind.clusterWide = true →
      isTerminal status.state = true → status.state ≠ .finished →
      acceptsUpdate (c.scheduler.record host kind) status = true → c.Gone kind)
    (handled : (handle config c input).next = some c') : IdleGone c' := by
  obtain ⟨s', stepped, rfl⟩ := Option.map_eq_some_iff.mp handled
  intro kind host shared idle
  have quiet : ∀ other, taskId kind other ∉
      (inputStep config c.scheduler input).out.flatMap Event.launched := by
    intro other launched
    obtain ⟨event, emitted, started⟩ := List.mem_flatMap.mp launched
    obtain ⟨now, offer, _, _, rfl, launches⟩ := launched_event started emitted stepped
    cases launches with
    | prober => cases shared
    | service _ _ _ _ _ _ _ named =>
      have running := (named (.inl shared)).1
      rw [record_shared shared _ host] at running
      exact absurd (running.symm.trans idle) (by decide)
  have gone : c.Gone kind := by
    have after := record_step stepped host kind
    change (s'.record host kind).state = .notRunning at idle
    generalize s'.record host kind = record at after idle
    cases after with
    | kept state => exact inv kind host shared (by rw [← state, idle])
    | launched _ _ _ _ running =>
      rw [running] at idle
      cases idle
    | proberStarted isProber =>
      rw [isProber] at shared
      cases shared
    | seen => cases idle
    | @terminated now status other _ target here terminal ended accepted =>
      rw [record_shared shared host other] at accepted
      exact clears now status kind other rfl target shared terminal ended accepted
  intro other
  refine ⟨(gone other).1, ?_⟩
  show taskId kind other ∉ c.launches ++ _
  rw [List.mem_append, not_or]
  exact ⟨(gone other).2, quiet other⟩

/-- What the cluster does by itself brings no task back. -/
private theorem idle_gone_fewer (inv : IdleGone c) (same : c'.scheduler = c.scheduler)
    (fewer : ∀ id, id ∈ c'.live ∨ id ∈ c'.launches → id ∈ c.live ∨ id ∈ c.launches) :
    IdleGone c' := by
  intro kind host shared idle other
  rw [same] at idle
  have before := inv kind host shared idle other
  constructor
  · intro live
    exact (fewer _ (.inl live)).elim before.1 before.2
  · intro launched
    exact (fewer _ (.inr launched)).elim before.1 before.2

/-- Every action keeps idle services gone, as long as updates clear records only
then. -/
theorem idle_gone_step (inv : IdleGone c) (clears : ClearsWhenGone c action)
    (stepped : (step config c action).next = some c') : IdleGone c' := by
  cases action with
  | handle input =>
    cases input with
    | statusUpdate now status =>
      rw [step] at stepped
      split at stepped
      · rename_i sent
        have taken : IdleGone { c with updates := c.updates.erase status } := inv
        refine idle_gone_handle taken ?_ stepped
        rintro now status kind host ⟨⟩ target shared terminal ended accepted
        exact clears sent kind host target shared terminal ended accepted
      · cases stepped
        exact inv
    | offer | frameworkMessage | registered | reregistered | postVersion =>
      refine idle_gone_handle inv ?_ stepped
      rintro now status kind host ⟨⟩
  | started status =>
    rw [step] at stepped
    split at stepped
    · rename_i sent
      cases stepped
      refine idle_gone_fewer inv rfl ?_
      rintro id (live | launched)
      · rcases Finset.mem_insert.mp live with rfl | live
        · exact .inr sent.2
        · exact .inl live
      · exact .inr (List.mem_of_mem_erase launched)
    · cases stepped
      exact inv
  | dropped status =>
    rw [step] at stepped
    split at stepped
    · cases stepped
      exact idle_gone_fewer inv rfl fun _ => .imp (fun live => live) List.mem_of_mem_erase
    · cases stepped
      exact inv
  | stopped status | killed status =>
    rw [step] at stepped
    split at stepped
    · cases stepped
      exact idle_gone_fewer inv rfl fun _ => .imp Finset.mem_of_mem_erase fun launched => launched
    · cases stepped
      exact inv
  | answered status =>
    rw [step] at stepped
    repeat' split at stepped
    all_goals
      cases stepped
      exact idle_gone_fewer inv rfl fun _ present => present

/-- From a scheduler just constructed, a cluster service is launched only when no
task of it runs or is under way, in every run in which its record is cleared only
when the service is gone. -/
theorem cluster_services_exclusive {actions : List (Action R)} (start : Restarted c)
    (clears : Along ClearsWhenGone (step config) c actions)
    (ran : (run (step config) c actions).next = some c') {now : Int} {offer : Offer R}
    {event : Event R} (emitted : event ∈ (step config c' (.handle (.offer now offer))).out)
    {kind : ServiceKind} (shared : kind.clusterWide = true) {host : String}
    (started : Starts kind host event) : c'.Gone kind := by
  have inv : IdleGone c' := run_invariant_along
    (fun _ _ _ inv clears stepped => idle_gone_step inv clears stepped)
    (idle_gone_start start) clears ran
  have emitted' : event ∈ (inputStep config c'.scheduler (.offer now offer)).out := emitted
  obtain ⟨s', stepped⟩ := continues_of_emitted emitted'
  obtain ⟨_, _, same, _, rfl, launches⟩ := launched_event started emitted' stepped
  obtain ⟨rfl, rfl⟩ := Input.offer.inj same
  cases launches with
  | prober => cases shared
  | service _ _ _ _ idle => exact inv kind _ shared idle

/-- The api runs on one host when the scheduler is constructed. -/
def apiCluster : Cluster where
  scheduler := Scheduler.fresh { targetVersion := "1" }
  live := {"quobyte-api-h1"}

/-- The api answers, fails and is reported; then a second host is offered that runs
none and turns out to have no devices. -/
def apiEnds : List (Action TextResources) :=
  [.handle (.offer 1 (wideOffer "o1" "h1")),
    .answered { taskId := "quobyte-api-h1", state := .running, slaveId := "agent-h1" },
    .handle (.statusUpdate 1
      { taskId := "quobyte-api-h1", state := .running, slaveId := "agent-h1" }),
    .stopped { taskId := "quobyte-api-h1", state := .failed, slaveId := "agent-h1" },
    .handle (.statusUpdate 2
      { taskId := "quobyte-api-h1", state := .failed, slaveId := "agent-h1" }),
    .handle (.offer 3 (wideOffer "o2" "h2")),
    .answered { taskId := "quobyte-api-h2", state := .lost, slaveId := "agent-h2" },
    .handle (.statusUpdate 3 { taskId := "quobyte-api-h2", state := .lost, slaveId := "agent-h2" }),
    .handle (.frameworkMessage 3 "agent-h2" (some {}))]

/-- Nothing lives or is on its way to an agent when a terminal update is delivered. -/
def clearsEmpty (c : Cluster) : Action R → Bool
  | .handle (.statusUpdate _ status) =>
    !isTerminal status.state || decide (c.live = ∅ ∧ c.launches = [])
  | .handle _ | .started _ | .dropped _ | .stopped _ | .killed _ | .answered _ => true

omit [Resources R] in
private theorem clears_of_empty (empty : clearsEmpty c action = true) : ClearsWhenGone c action := by
  cases action with
  | handle input =>
    cases input with
    | statusUpdate now status =>
      intro _ kind _ _ _ terminal _ _ host
      obtain ⟨live, launches⟩ : c.live = ∅ ∧ c.launches = [] := by
        simpa [clearsEmpty, terminal] using empty
      simp [live, launches]
    | offer | frameworkMessage | registered | reregistered | postVersion => trivial
  | started | dropped | stopped | killed | answered => trivial

/-- The update of the api that ended clears the record, the next offer of the second
host launches another, and none runs. -/
theorem ended_api_launched : "quobyte-api-h1" ∈ apiCluster.live ∧ ∃ c', c'.Gone .api ∧
    "quobyte-api-h2" ∈ (step defaultConfig c'
      (.handle (.offer 4 (wideOffer "o3" "h2")))).out.flatMap Event.launched := by
  have clears : Along ClearsWhenGone (step defaultConfig) apiCluster apiEnds :=
    along_of_check (fun c action => clearsEmpty c action) (fun _ _ => clears_of_empty)
      (by decide +kernel)
  have launched : (run (step defaultConfig) apiCluster apiEnds).next.map (fun c =>
      (step defaultConfig c (.handle (.offer 4 (wideOffer "o3" "h2")))).out.flatMap
        Event.launched) = some ["quobyte-api-h2"] := by decide +kernel
  obtain ⟨c', ran, ids⟩ := Option.map_eq_some_iff.mp launched
  have listed : taskId .api "h2" ∈ (step defaultConfig c'
      (.handle (.offer 4 (wideOffer "o3" "h2")))).out.flatMap Event.launched := by
    rw [ids]
    exact List.mem_singleton_self _
  obtain ⟨event, emitted, started⟩ := List.mem_flatMap.mp listed
  exact ⟨Finset.mem_singleton_self _, c',
    cluster_services_exclusive ⟨_, rfl⟩ clears ran emitted rfl started, listed⟩

/-- After a restart the api runs on one host, and the prober of another answers
first. -/
def splitCluster : Cluster where
  scheduler := Scheduler.fresh { targetVersion := "1" }
  live := {"quobyte-api-h1", "quobyte-device-prober-h2"}

/-- The second host is offered, its tasks are answered for truthfully, and it is
probed. The host that runs the api has not been heard of. -/
def secondHostFirst : List (Action TextResources) :=
  [.handle (.offer 1 (wideOffer "o1" "h2")),
    .answered { taskId := "quobyte-device-prober-h2", state := .running, slaveId := "agent-h2" },
    .answered { taskId := "quobyte-api-h2", state := .lost, slaveId := "agent-h2" },
    .handle (.statusUpdate 1
      { taskId := "quobyte-device-prober-h2", state := .running, slaveId := "agent-h2" }),
    .handle (.statusUpdate 1
      { taskId := "quobyte-api-h2", state := .lost, slaveId := "agent-h2" }),
    .handle (.offer 200 (wideOffer "o2" "h2")),
    .handle (.frameworkMessage 200 "agent-h2" (some {}))]

/-- The next offer of the second host launches a second api, in a cluster that began with
one and with nothing under way. -/
theorem second_api_launched : Restarted splitCluster ∧ Single splitCluster ∧
    (splitCluster.launches = [] ∧ splitCluster.kills = [] ∧ splitCluster.requests = [] ∧
      splitCluster.updates = []) ∧ ∃ c',
    (run (step defaultConfig) splitCluster secondHostFirst).next = some c' ∧
      "quobyte-api-h1" ∈ c'.live ∧
      "quobyte-api-h2" ∈ (step defaultConfig c'
        (.handle (.offer 201 (wideOffer "o3" "h2")))).out.flatMap Event.launched := by
  refine ⟨⟨_, rfl⟩, ?_, ⟨rfl, rfl, rfl, rfl⟩, ?_⟩
  · intro kind shared host host' live live'
    have only : ∀ host, taskId kind host ∈ splitCluster.live → host = "h1" := by
      intro host live
      simp only [splitCluster, Finset.mem_insert, Finset.mem_singleton] at live
      rcases live with api | prober
      · exact (taskId_injective (api.trans (show _ = taskId .api "h1" from rfl))).2
      · obtain ⟨rfl, _⟩ := taskId_injective
          (prober.trans (show _ = taskId .prober "h2" from rfl))
        cases shared
    rw [only host live, only host' live']
  · have launched : (run (step defaultConfig) splitCluster secondHostFirst).next.map (fun c =>
        (decide ("quobyte-api-h1" ∈ c.live), (step defaultConfig c
          (.handle (.offer 201 (wideOffer "o3" "h2")))).out.flatMap Event.launched)) =
        some (true, ["quobyte-api-h2"]) := by decide +kernel
    obtain ⟨c', ran, seen⟩ := Option.map_eq_some_iff.mp launched
    obtain ⟨live, ids⟩ := Prod.mk.inj seen
    exact ⟨c', ran, of_decide_eq_true live, by rw [ids]; exact List.mem_singleton_self _⟩

end Cluster

end QuobyteMesos
