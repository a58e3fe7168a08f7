import QuobyteMesos.NodeSteps
import QuobyteMesos.RecordSteps

/-! The relation between an entry's key, a record's state and the task id it
holds.

`RecordInv` is kept by every input and so holds in every reachable state: a
record names a task exactly while it is running, and the task it names is the
one built for its service on its host. -/
namespace QuobyteMesos.ServiceRecords
open Mesos Machine SchedulerRuns SchedulerSteps NodeSteps RecordSteps

variable {R : Type} [Resources R] {config : Config R} {s s' : Scheduler} {input : Input R}
variable {hostname : String} {kind : ServiceKind} {status : TaskStatus}

/-- The relation every reachable state satisfies. The record of a host without
an entry is the empty one. -/
structure RecordInv (s : Scheduler) : Prop where
  keys : ∀ hostname (node : NodeState), s.nodes[hostname]? = some node → node.hostname = hostname
  running : ∀ hostname kind,
    (s.record hostname kind).taskId ≠ "" ↔ (s.record hostname kind).state = .running
  own : ∀ hostname kind, kind.clusterWide = false → (s.record hostname kind).taskId ≠ "" →
    (s.record hostname kind).taskId = taskId kind hostname
  shared : ∀ hostname kind, kind.clusterWide = true → (s.record hostname kind).taskId ≠ "" →
    ∃ key ∈ s.nodes, (s.record hostname kind).taskId = taskId kind key

theorem record_inv_fresh (state : SchedulerState) : RecordInv (Scheduler.fresh state) := by
  have empty : ∀ hostname kind, (Scheduler.fresh state).record hostname kind = {} := by
    intro hostname kind
    cases kind <;> rfl
  constructor
  · intro hostname node known
    simp [Scheduler.fresh] at known
  · intro hostname kind
    simp [empty]
  · intro hostname kind _ named
    exact absurd (by rw [empty]) named
  · intro hostname kind _ named
    exact absurd (by rw [empty]) named

private theorem keys_step (inv : RecordInv s) (stepped : (inputStep config s input).next = some s') :
    ∀ hostname (node : NodeState), s'.nodes[hostname]? = some node → node.hostname = hostname := by
  intro hostname node known
  have before : ∀ facts, s.facts hostname = some facts → facts.hostname = hostname := by
    intro facts held
    obtain ⟨node, known, rfl⟩ := Option.map_eq_some_iff.mp held
    exact inv.keys hostname node known
  have after : s'.facts hostname = some node.facts := by
    rw [Scheduler.facts, known]
    rfl
  have step := node_step stepped hostname
  rw [after] at step
  generalize held : some node.facts = facts at step
  cases step with
  | kept => exact before node.facts held.symm
  | added => exact congrArg NodeFacts.hostname (Option.some.inj held)
  | @probed _ _ _ facts known' =>
    have same := congrArg NodeFacts.hostname (Option.some.inj held)
    exact same.trans (before facts known')

private theorem running_step (inv : RecordInv s)
    (stepped : (inputStep config s input).next = some s') (hostname : String) (kind : ServiceKind) :
    (s'.record hostname kind).taskId ≠ "" ↔ (s'.record hostname kind).state = .running := by
  have step := record_step stepped hostname kind
  generalize s'.record hostname kind = after at step ⊢
  cases step with
  | kept state id => rw [state, id, inv.running]
  | launched noted here known idle running id =>
    rw [running, id]
    simp [taskId_ne_empty]
  | proberStarted isProber here resting starting id =>
    have unnamed := mt (inv.running hostname kind).mp resting.1
    rw [starting, id, not_not.mp unnamed]
    simp
  | seen target =>
    simp [recordSeen, (target_iff.mp target).1, taskId_ne_empty]
  | terminated => simp [recordTerminated]

/-- Every input keeps the relation. -/
theorem record_inv_step (inv : RecordInv s) (stepped : (inputStep config s input).next = some s') :
    RecordInv s' := by
  refine ⟨keys_step inv stepped, running_step inv stepped, ?_, ?_⟩
  · intro hostname kind local' named
    have step := record_step stepped hostname kind
    generalize s'.record hostname kind = after at step named ⊢
    cases step with
    | kept state id =>
      rw [id] at named ⊢
      exact inv.own hostname kind local' named
    | launched noted here known idle running id =>
      rcases here with shared | rfl
      · rw [local'] at shared
        cases shared
      · exact id
    | proberStarted isProber here resting starting id =>
      rw [id] at named ⊢
      exact inv.own hostname kind local' named
    | seen target here =>
      rcases here with shared | rfl
      · rw [local'] at shared
        cases shared
      · exact (target_iff.mp target).1
    | terminated => exact absurd rfl named
  · intro hostname kind shared named
    have step := record_step stepped hostname kind
    have stays : ∀ key, key ∈ s.nodes → key ∈ s'.nodes := fun key => mem_nodes_step stepped
    generalize s'.record hostname kind = after at step named ⊢
    cases step with
    | kept state id | proberStarted _ _ _ _ id =>
      rw [id] at named ⊢
      obtain ⟨key, present, same⟩ := inv.shared hostname kind shared named
      exact ⟨key, stays key present, same⟩
    | launched noted here known idle running id => exact ⟨_, stays _ known, id⟩
    | seen target =>
      cases stepped
      exact ⟨_, mem_nodes_update target, (target_iff.mp target).1⟩
    | terminated => exact absurd rfl named

theorem record_inv_reachable (reachable : Reachable config s) : RecordInv s :=
  reachable_invariant record_inv_fresh (fun _ _ _ => record_inv_step) reachable

/-- An update of a record no other host shares finds the record empty or naming
the same task. -/
theorem own_update_accepted (inv : RecordInv s)
    (target : statusTarget status.taskId = some (kind, hostname)) (own : kind.clusterWide = false) :
    acceptsUpdate (s.record hostname kind) status = true := by
  by_cases named : (s.record hostname kind).taskId = ""
  · simp [acceptsUpdate, named]
  · have built := inv.own hostname kind own named
    simp [acceptsUpdate, built, (target_iff.mp target).1]

/-- In every reachable state keys, states and task ids are related, and no
update of a host's own record is discarded for its id. -/
theorem record_invariant (reachable : Reachable config s) :
    RecordInv s ∧ ∀ status kind hostname,
      statusTarget status.taskId = some (kind, hostname) → kind.clusterWide = false →
        acceptsUpdate (s.record hostname kind) status = true :=
  have inv := record_inv_reachable reachable
  ⟨inv, fun _ _ _ target own => own_update_accepted inv target own⟩

/-- The relation in the state after a launch. -/
theorem launched_api_recorded : ∃ s, Reachable defaultConfig s ∧
    (s.record "h1" .api).taskId = "quobyte-api-h1" ∧ RecordInv s := by
  have ran : (run (callbackStep defaultConfig) (Scheduler.fresh { targetVersion := "1" })
      apiLaunched).next.map (fun s => (s.record "h1" .api).taskId) = some "quobyte-api-h1" := by
    decide +kernel
  obtain ⟨s, reachable, named⟩ := reachable_of_run ran
  exact ⟨s, reachable, named, (record_invariant reachable).1⟩

end QuobyteMesos.ServiceRecords
