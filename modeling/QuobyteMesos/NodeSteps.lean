import QuobyteMesos.SchedulerSteps

/-! Every input seen from one host.

An entry is added once, keeps its host name and agent from then on, and learns
its devices from framework messages alone; `node_step` says so. The service
records of an entry are the subject of `record_step`. -/
namespace QuobyteMesos

/-- What an entry holds besides service records and clock readings. -/
structure NodeFacts where
  hostname : String
  slaveIdValue : String
  deviceType : List DeviceType
  clientMountPoint : Bool
  deviceTypesValid : Bool
  deriving DecidableEq, Repr

def NodeState.facts (node : NodeState) : NodeFacts :=
  ⟨node.hostname, node.slaveIdValue, node.deviceType, node.clientMountPoint, node.deviceTypesValid⟩

/-- The facts known about a host, if it has an entry. -/
def Scheduler.facts (s : Scheduler) (hostname : String) : Option NodeFacts :=
  s.nodes[hostname]?.map NodeState.facts

namespace NodeSteps
open Mesos Machine SchedulerRuns SchedulerSteps LaunchSteps

variable {R : Type} {s s' : Scheduler} {hostname host : String} {kind : ServiceKind}
variable {node : NodeState} {records : Records} {now : Int} {status : TaskStatus} {input : Input R}

/-- The facts about a host after an input. -/
inductive NodeStep (s : Scheduler) (hostname : String) : Input R → Option NodeFacts → Prop where
  | kept {input : Input R} : NodeStep s hostname input (s.facts hostname)
  | added {input : Input R} (slaveId : String) (absent : s.facts hostname = none) :
      NodeStep s hostname input (some (Scheduler.newNode hostname slaveId).facts)
  | probed {now : Int} {slaveId : String} {response : ProbeResponse} {facts : NodeFacts}
      (known : s.facts hostname = some facts) (agent : facts.slaveIdValue = slaveId) :
      NodeStep s hostname (.frameworkMessage now slaveId (some response))
        (some { facts with
          deviceType := response.deviceType
          clientMountPoint := response.clientMountPoint
          deviceTypesValid := true })

@[simp] theorem facts_setService {service : ServiceState} :
    (records.setService kind service).node.facts = records.node.facts := by
  cases kind <;> rfl

/-- Writing back a node whose facts were not touched changes no facts. -/
theorem facts_store (known : s.nodes[hostname]? = some node)
    (same : records.node.facts = node.facts) :
    (s.store hostname records).facts host = s.facts host := by
  simp only [Scheduler.facts, Scheduler.store, Std.ExtTreeMap.getElem?_insert,
    Std.compare_eq_iff_eq]
  split
  · rename_i here
    subst here
    rw [known, Option.map_some, Option.map_some, same]
  · rfl

theorem facts_eq_none_iff : s.facts hostname = none ↔ hostname ∉ s.nodes := by
  rw [Scheduler.facts, Option.map_eq_none_iff, Std.ExtTreeMap.mem_iff_isSome_getElem?]
  simp

theorem facts_createHost (s : Scheduler) (hostname slaveId host : String) :
    (s.createHost hostname slaveId).facts host =
      if hostname = host ∧ s.facts hostname = none then
        some (Scheduler.newNode hostname slaveId).facts
      else s.facts host := by
  simp only [facts_eq_none_iff]
  simp only [Scheduler.facts, Scheduler.createHost, Std.ExtTreeMap.getElem?_insertIfNew,
    Std.compare_eq_iff_eq]
  split <;> rfl

private theorem node_step_created (slaveId : String) :
    NodeStep s host input ((s.createHost hostname slaveId).facts host) := by
  rw [facts_createHost]
  split
  · rename_i created
    obtain ⟨rfl, absent⟩ := created
    exact .added slaveId absent
  · exact .kept

/-- An update whose id has a dash adds an entry for the text behind the last one
and changes no other facts. -/
theorem facts_statusUpdate (s : Scheduler) (now : Int) (status : TaskStatus) (hostname : String) :
    (statusUpdate (R := R) s now status).1.facts hostname =
      match splitTaskId status.taskId with
      | none => s.facts hostname
      | some (_, host) => (s.createHost host status.slaveId).facts hostname := by
  unfold statusUpdate
  cases splitTaskId status.taskId with
  | none => rfl
  | some parts =>
    obtain ⟨service, host⟩ := parts
    obtain ⟨created, known⟩ := findOrCreate_spec s host status.slaveId
    cases named : getService service with
    | none => simp only [named, created]
    | some kind =>
      simp only [named, created]
      rw [updateService_eq]
      exact facts_store known facts_setService

private theorem node_step_update :
    NodeStep s hostname (.statusUpdate now status : Input R)
      ((statusUpdate (R := R) s now status).1.facts hostname) := by
  rw [facts_statusUpdate]
  split
  · exact .kept
  · exact node_step_created status.slaveId

/-- An update about a record leaves an entry for its host. -/
theorem mem_nodes_update (target : statusTarget status.taskId = some (kind, hostname)) :
    hostname ∈ (statusUpdate (R := R) s now status).1.nodes := by
  obtain ⟨node, _, ran⟩ := statusUpdate_of_target (R := R) s now target
  rw [ran]
  simp [Scheduler.store]

/-- A response is taken over by the entries of its agent. -/
theorem nodes_frameworkMessage (s : Scheduler) (now : Int) (slaveId : String)
    (response : ProbeResponse) (hostname : String) :
    (frameworkMessage s now slaveId (some response)).nodes[hostname]? =
      s.nodes[hostname]?.map fun node =>
        if node.slaveIdValue = slaveId then
          { node with
            deviceType := response.deviceType
            clientMountPoint := response.clientMountPoint
            prober := { node.prober with lastSeenS := now }
            deviceTypesValid := true }
        else node := by
  rw [frameworkMessage, Std.ExtTreeMap.getElem?_map]

private theorem node_step_message (slaveId : String) (data : Option ProbeResponse) :
    NodeStep s hostname (.frameworkMessage now slaveId data : Input R)
      ((frameworkMessage s now slaveId data).facts hostname) := by
  cases data with
  | none => exact .kept
  | some response =>
    rw [Scheduler.facts, nodes_frameworkMessage]
    cases known : s.nodes[hostname]? with
    | none =>
      have same : s.facts hostname = none := by rw [Scheduler.facts, known]; rfl
      simp only [Option.map_none]
      rw [← same]
      exact .kept
    | some node =>
      have before : s.facts hostname = some node.facts := by rw [Scheduler.facts, known]; rfl
      simp only [Option.map_some]
      split
      · rename_i agent
        exact .probed before agent
      · rw [← before]
        exact .kept

variable [Resources R] {config : Config R} {offer : Offer R}

/-- An offer that leaves a state changes no facts, but for the entry it may add
for its host. -/
theorem facts_offer (stepped : (inputStep config s (.offer now offer)).next = some s')
    (hostname : String) :
    s'.facts hostname = s.facts hostname ∨
      s'.facts hostname = (s.createHost offer.hostname offer.slaveId).facts hostname := by
  obtain ⟨calls, answered, _⟩ := offer_step stepped
  cases answered with
  | restricted => exact .inl rfl
  | discovered => exact .inr rfl
  | prober node known | shutdown node known => exact .inl (facts_store known rfl)
  | probe node known =>
    left
    rw [triggerProbe, reconcileHost, facts_createHost, facts_store known rfl, facts_store known rfl,
      if_neg]
    rintro ⟨_, absent⟩
    rw [Scheduler.facts, known] at absent
    cases absent
  | launch node due ran =>
    have progress := progress_steps (start_services_steps ran)
    left
    apply facts_store due.known
    rw [progress.node]
    rfl

private theorem node_step_offer
    (stepped : (inputStep config s (.offer now offer)).next = some s') :
    NodeStep s hostname (.offer now offer) (s'.facts hostname) := by
  rcases facts_offer stepped hostname with same | added
  · rw [same]
    exact .kept
  · rw [added]
    exact node_step_created offer.slaveId

/-- Every input keeps what is known about a host, adds an entry for it, or takes
over a probe of its agent. -/
theorem node_step (stepped : (inputStep config s input).next = some s') (hostname : String) :
    NodeStep s hostname input (s'.facts hostname) := by
  cases input with
  | offer now offer => exact node_step_offer stepped
  | statusUpdate now status =>
    cases stepped
    exact node_step_update
  | frameworkMessage now slaveId data =>
    cases stepped
    exact node_step_message slaveId data
  | registered | reregistered | postVersion =>
    cases stepped
    exact .kept

/-- An entry is never removed. -/
theorem mem_nodes_step (stepped : (inputStep config s input).next = some s')
    (present : hostname ∈ s.nodes) : hostname ∈ s'.nodes := by
  by_contra gone
  have before := mt facts_eq_none_iff.mp (not_not.mpr present)
  have after := facts_eq_none_iff.mpr gone
  have step := node_step stepped hostname
  rw [after] at step
  generalize found : (none : Option NodeFacts) = left at step
  cases step with
  | kept => exact before found.symm
  | added | probed => cases found

/-- An entry that was not there carries the agent of the offer or the update that
named its host. -/
theorem entry_added {facts : NodeFacts} (stepped : (inputStep config s input).next = some s')
    (absent : s.facts hostname = none) (known : s'.facts hostname = some facts) :
    (∃ now offer, input = .offer now offer ∧ offer.hostname = hostname ∧
      facts.slaveIdValue = offer.slaveId) ∨
    ∃ now status service, input = .statusUpdate now status ∧
      splitTaskId status.taskId = some (service, hostname) ∧ facts.slaveIdValue = status.slaveId := by
  have created : ∀ host slaveId, (s.createHost host slaveId).facts hostname = some facts →
      host = hostname ∧ facts.slaveIdValue = slaveId := by
    intro host slaveId entered
    rw [facts_createHost] at entered
    split at entered
    · rename_i added
      exact ⟨added.1, (congrArg NodeFacts.slaveIdValue (Option.some.inj entered)).symm⟩
    · rw [absent] at entered
      cases entered
  cases input with
  | offer now offer =>
    rcases facts_offer stepped hostname with same | added
    · rw [same, absent] at known
      cases known
    · rw [added] at known
      exact .inl ⟨now, offer, rfl, created _ _ known⟩
  | statusUpdate now status =>
    cases stepped
    rw [facts_statusUpdate] at known
    split at known
    · rw [absent] at known
      cases known
    · rename_i service host split
      obtain ⟨rfl, agent⟩ := created _ _ known
      exact .inr ⟨now, status, service, rfl, split, agent⟩
  | frameworkMessage now slaveId data =>
    cases stepped
    have nothing : (frameworkMessage s now slaveId data).facts hostname = none := by
      have away := Option.map_eq_none_iff.mp absent
      cases data with
      | none => exact absent
      | some response => rw [Scheduler.facts, nodes_frameworkMessage, away]; rfl
    rw [nothing] at known
    cases known
  | registered | reregistered | postVersion =>
    cases stepped
    exact absurd (absent.symm.trans known) (by simp)

end NodeSteps

end QuobyteMesos
