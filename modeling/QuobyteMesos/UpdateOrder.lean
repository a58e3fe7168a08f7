import QuobyteMesos.NodeSteps

/-! Status updates in another order.

Mesos keeps the updates of one task in order and says nothing about those of two. An
update reads and writes the record it names, and no more than adds the entry of its
host, which carries the agent of the update that came first. Updates about different
records, from the same agent where they find no entry, may therefore change places
(`updates_reordered`). -/
namespace QuobyteMesos.UpdateOrder
open Mesos Machine SchedulerRuns SchedulerSteps NodeSteps

variable {R : Type} {s s' : Scheduler} {hostname host : String} {kind : ServiceKind}
variable {now later : Int} {status other : TaskStatus} {node : NodeState} {records : Records}

/-! ### A scheduler in two parts -/

/-- An entry without its service records. -/
def bare (node : NodeState) : NodeState :=
  { node with prober := {}, registry := {}, metadata := {}, data := {}, client := {} }

/-- What is known of a host besides its service records. -/
def entry (s : Scheduler) (hostname : String) : Option NodeState := s.nodes[hostname]?.map bare

private theorem node_of_parts {records records' : Records} (same : bare records.node = bare records'.node)
    (services : ∀ kind, records.service kind = records'.service kind) : records.node = records'.node := by
  have prober := services .prober
  have registry := services .registry
  have metadata := services .metadata
  have data := services .data
  have client := services .client
  simp only [Records.service] at prober registry metadata data client
  cases h : records.node
  cases h' : records'.node
  simp_all [bare]

/-- A scheduler is its stored state, its service records, and what else it knows of the
hosts. -/
theorem scheduler_ext (state : s.state = s'.state) (entries : ∀ hostname, entry s hostname = entry s' hostname)
    (services : ∀ hostname kind, s.record hostname kind = s'.record hostname kind) : s = s' := by
  have nodes : s.nodes = s'.nodes := by
    apply Std.ExtTreeMap.ext_getElem?
    intro hostname
    have same := entries hostname
    unfold entry at same
    cases known : s.nodes[hostname]? with
    | none =>
      rw [known, Option.map_none] at same
      exact (Option.map_eq_none_iff.mp same.symm).symm
    | some node =>
      rw [known, Option.map_some] at same
      obtain ⟨node', known', equal⟩ := Option.map_eq_some_iff.mp same.symm
      rw [known']
      refine congrArg some (@node_of_parts (s.records node) (s'.records node') equal.symm fun kind => ?_)
      rw [← record_of_node known, ← record_of_node known', services]
  have api : s.apiState = s'.apiState := services "" .api
  have console : s.consoleState = s'.consoleState := services "" .webconsole
  have s3 : s.s3State = s'.s3State := services "" .s3
  cases s
  cases s'
  simp_all

/-! ### What an update reads and writes -/

/-- The update is about the record. -/
def Touches (status : TaskStatus) (hostname : String) (kind : ServiceKind) : Prop :=
  ∃ host, statusTarget status.taskId = some (kind, host) ∧ (kind.clusterWide = true ∨ hostname = host)

theorem state_update : (statusUpdate (R := R) s now status).1.state = s.state := by
  cases target : statusTarget status.taskId with
  | none =>
    rcases (statusUpdate_of_no_target (R := R) s now target).2 with same | ⟨_, added⟩
    · rw [same]
    · rw [added]
      rfl
  | some found =>
    obtain ⟨node, _, ran⟩ := statusUpdate_of_target (R := R) s now target
    rw [ran]
    rfl

private theorem entry_eq_none_iff : entry s hostname = none ↔ hostname ∉ s.nodes := by
  rw [entry, Option.map_eq_none_iff, Std.ExtTreeMap.mem_iff_isSome_getElem?]
  simp

theorem entry_createHost (slaveId : String) : entry (s.createHost host slaveId) hostname =
    if host = hostname ∧ entry s host = none then some (Scheduler.newNode host slaveId)
    else entry s hostname := by
  simp only [entry_eq_none_iff]
  simp only [entry, Scheduler.createHost, Std.ExtTreeMap.getElem?_insertIfNew, Std.compare_eq_iff_eq]
  split <;> rfl

private theorem entry_store (known : s.nodes[host]? = some node) (same : bare records.node = bare node) :
    entry (s.store host records) hostname = entry s hostname := by
  simp only [entry, Scheduler.store, Std.ExtTreeMap.getElem?_insert, Std.compare_eq_iff_eq]
  split
  · rename_i here
    subst here
    rw [known, Option.map_some, Option.map_some, same]
  · rfl

/-- An update may add the entry of its host, and leaves all others. -/
theorem entry_update : entry (statusUpdate (R := R) s now status).1 hostname =
    match splitTaskId status.taskId with
    | none => entry s hostname
    | some (_, host) => entry (s.createHost host status.slaveId) hostname := by
  unfold statusUpdate
  cases splitTaskId status.taskId with
  | none => rfl
  | some parts =>
    obtain ⟨service, host⟩ := parts
    obtain ⟨created, known⟩ := findOrCreate_spec s host status.slaveId
    cases named : getService service with
    | none => simp only [named, created]
    | some kind =>
      simp only [named, created]
      rw [updateService_eq]
      refine entry_store known ?_
      cases kind <;> rfl

private theorem lacksDevice_of_entry (s : Scheduler) (hostname : String) (kind : ServiceKind) :
    s.lacksDevice hostname kind = (((entry s hostname).getD {}).deviceTypesValid &&
      deviceMissing ((entry s hostname).getD {}) kind) := by
  unfold Scheduler.lacksDevice Scheduler.node entry
  cases s.nodes[hostname]? <;> cases kind <;> rfl

/-- No update changes what is known of the devices. -/
theorem lacksDevice_update : (statusUpdate (R := R) s now status).1.lacksDevice hostname kind =
    s.lacksDevice hostname kind := by
  rw [lacksDevice_of_entry, entry_update]
  split
  · exact (lacksDevice_of_entry s hostname kind).symm
  · rw [← lacksDevice_of_entry, lacksDevice_createHost]

/-- A record that an update is not about is left as it was. -/
theorem record_untouched (untouched : ¬ Touches status hostname kind) :
    (statusUpdate (R := R) s now status).1.record hostname kind = s.record hostname kind := by
  cases target : statusTarget status.taskId with
  | none =>
    rcases (statusUpdate_of_no_target (R := R) s now target).2 with same | ⟨_, added⟩
    · rw [same]
    · rw [added, record_createHost]
  | some found =>
    obtain ⟨service, host⟩ := found
    apply record_statusUpdate_other target
    rintro rfl
    have apart : ¬ (kind.clusterWide = true ∨ hostname = host) :=
      fun within => untouched ⟨host, target, within⟩
    rw [not_or, Bool.not_eq_true] at apart
    exact apart

private theorem shouldRun_untouched (untouched : ¬ Touches status hostname kind) :
    (statusUpdate (R := R) s now status).1.shouldRun hostname kind other = s.shouldRun hostname kind other := by
  rw [Scheduler.shouldRun, Scheduler.shouldRun, record_untouched untouched, lacksDevice_update]

/-- An update that is not about a record does not change what becomes of it. -/
theorem record_behind (untouched : ¬ Touches status hostname kind) :
    (statusUpdate (R := R) (statusUpdate (R := R) s now status).1 later other).1.record hostname kind =
      (statusUpdate (R := R) s later other).1.record hostname kind := by
  by_cases touched : Touches other hostname kind
  · obtain ⟨host, target, within⟩ := touched
    have here (s : Scheduler) : s.record hostname kind = s.record host kind := by
      rcases within with shared | rfl
      · exact record_shared shared _ _
      · rfl
    have away : ¬ Touches status host kind := by
      rintro ⟨host', target', within'⟩
      rcases within with shared | rfl
      · exact untouched ⟨host', target', .inl shared⟩
      · exact untouched ⟨host', target', within'⟩
    rw [here, here, record_statusUpdate target, record_statusUpdate target, shouldRun_untouched away,
      record_untouched away]
  · rw [record_untouched touched, record_untouched touched, record_untouched untouched]

/-- An update is answered as if others had not come before it. -/
theorem calls_behind (untouched : ∀ kind host, statusTarget other.taskId = some (kind, host) →
      ¬ Touches status host kind) :
    (statusUpdate (R := R) (statusUpdate (R := R) s now status).1 later other).2 =
      (statusUpdate (R := R) s later other).2 := by
  cases target : statusTarget other.taskId with
  | none => rw [(statusUpdate_of_no_target _ later target).1, (statusUpdate_of_no_target _ later target).1]
  | some found =>
    obtain ⟨kind, host⟩ := found
    rw [calls_statusUpdate target, calls_statusUpdate target, shouldRun_untouched (untouched kind host target),
      state_update]

/-! ### Two updates -/

/-- The updates are about different records, and name the same agent if both find no
entry of their host. -/
structure Independent (s : Scheduler) (status other : TaskStatus) : Prop where
  records : ∀ kind host host', statusTarget status.taskId = some (kind, host) →
    statusTarget other.taskId = some (kind, host') → kind.clusterWide = false ∧ host ≠ host'
  agents : ∀ service service' host, splitTaskId status.taskId = some (service, host) →
    splitTaskId other.taskId = some (service', host) → host ∈ s.nodes ∨ status.slaveId = other.slaveId

theorem Independent.symm (independent : Independent s status other) : Independent s other status where
  records kind host host' first second := by
    obtain ⟨own, away⟩ := independent.records kind host' host second first
    exact ⟨own, away.symm⟩
  agents service service' host first second :=
    (independent.agents service' service host second first).imp_right Eq.symm

private theorem Independent.untouched (independent : Independent s status other)
    (touched : Touches other hostname kind) : ¬ Touches status hostname kind := by
  rintro ⟨host, target, within⟩
  obtain ⟨host', target', within'⟩ := touched
  obtain ⟨own, away⟩ := independent.records kind host host' target target'
  have local' {place : String} (within : kind.clusterWide = true ∨ hostname = place) : hostname = place :=
    within.resolve_left (by simp [own])
  exact away ((local' within).symm.trans (local' within'))

private theorem entries_commute (known : ∀ service service' host,
      splitTaskId status.taskId = some (service, host) → splitTaskId other.taskId = some (service', host) →
        host ∈ s.nodes ∨ status.slaveId = other.slaveId) (hostname : String) :
    entry (statusUpdate (R := R) (statusUpdate (R := R) s now status).1 later other).1 hostname =
      entry (statusUpdate (R := R) (statusUpdate (R := R) s later other).1 now status).1 hostname := by
  cases first : splitTaskId status.taskId with
  | none => simp only [entry_update, entry_createHost, first]
  | some parts =>
    cases second : splitTaskId other.taskId with
    | none => simp only [entry_update, entry_createHost, first, second]
    | some parts' =>
      obtain ⟨service, host⟩ := parts
      obtain ⟨service', host'⟩ := parts'
      simp only [entry_update, entry_createHost, first, second]
      by_cases same : host = host'
      · subst same
        rcases known service service' host first second with present | agent
        · have held : entry s host ≠ none := fun absent => entry_eq_none_iff.mp absent present
          simp [held]
        · simp [agent]
      · by_cases here : host = hostname
        · subst here
          simp [same, Ne.symm same]
        · simp [here, same, Ne.symm same]

/-- Independent updates may change places: they leave the same state, and each is
answered the same. -/
theorem updates_commute (independent : Independent s status other) (now later : Int) :
    (statusUpdate (R := R) (statusUpdate (R := R) s now status).1 later other).1 =
        (statusUpdate (R := R) (statusUpdate (R := R) s later other).1 now status).1 ∧
      (statusUpdate (R := R) (statusUpdate (R := R) s now status).1 later other).2 =
        (statusUpdate (R := R) s later other).2 ∧
      (statusUpdate (R := R) (statusUpdate (R := R) s later other).1 now status).2 =
        (statusUpdate (R := R) s now status).2 := by
  have answers {status other : TaskStatus} (independent : Independent s status other) (now later : Int) :
      (statusUpdate (R := R) (statusUpdate (R := R) s now status).1 later other).2 =
        (statusUpdate (R := R) s later other).2 :=
    calls_behind fun kind host target => independent.untouched ⟨host, target, .inr rfl⟩
  refine ⟨scheduler_ext ?_ (entries_commute independent.agents) fun hostname kind => ?_,
    answers independent now later, answers independent.symm later now⟩
  · simp only [state_update]
  · by_cases touched : Touches status hostname kind
    · rw [record_untouched (independent.symm.untouched touched),
        record_behind (independent.symm.untouched touched)]
    · rw [record_behind touched, record_untouched touched]

/-! ### Any number of updates -/

variable [Resources R] {config : Config R}

/-- The updates as inputs. -/
def told (updates : List (Int × TaskStatus)) : List (Input R) :=
  updates.map fun update => .statusUpdate update.1 update.2

/-- Updates of which any two are independent may change places together with the time
they are delivered at. -/
theorem timed_updates_reordered {updates updates' : List (Int × TaskStatus)} (perm : updates.Perm updates')
    (independent : updates.Pairwise fun update update' => Independent s update.2 update'.2) :
    (run (inputStep config) s (told updates)).next = (run (inputStep config) s (told updates')).next ∧
      (run (inputStep config) s (told updates)).out.Perm
        (run (inputStep config) s (told updates')).out := by
  let step (s : Scheduler) (update : Int × TaskStatus) : Outcome Scheduler (Event R) :=
    inputStep config s (.statusUpdate update.1 update.2)
  obtain ⟨s', ran⟩ : ∃ s', (run step s updates).next = some s' :=
    run_continues (fun _ => True) (fun _ _ _ _ => ⟨_, rfl, trivial⟩) trivial
      (fun _ _ => (trivial : (fun _ => True) _))
  have kept (known : Scheduler) (update : Int × TaskStatus) (next : Scheduler)
      (present : ∀ host ∈ s.nodes, host ∈ known.nodes) (stepped : (step known update).next = some next) :
      ∀ host ∈ s.nodes, host ∈ next.nodes :=
    fun host member => mem_nodes_step stepped (present host member)
  have commute (known : Scheduler) (first second : Int × TaskStatus) (s₁ s₂ : Scheduler)
      (present : ∀ host ∈ s.nodes, host ∈ known.nodes) (apart : Independent s first.2 second.2)
      (stepped : (step known first).next = some s₁) (stepped' : (step s₁ second).next = some s₂) :
      ∃ s', (step known second).next = some s' ∧ (step known second).out = (step s₁ second).out ∧
        (step s' first).next = some s₂ ∧ (step s' first).out = (step known first).out := by
    have apart' : Independent known first.2 second.2 :=
      ⟨apart.records, fun service service' host split split' =>
        (apart.agents service service' host split split').imp_left (present host)⟩
    cases stepped
    cases stepped'
    obtain ⟨same, answer, answer'⟩ := updates_commute (R := R) apart' first.1 second.1
    refine ⟨_, rfl, ?_, ?_, ?_⟩
    · simp only [step, inputStep, answer]
    · simp only [step, inputStep, same]
    · simp only [step, inputStep, answer']
  obtain ⟨next, out⟩ := run_perm (fun apart => apart.symm) kept commute perm independent
    (fun _ member => member) ran
  rw [told, told, ← run_map, ← run_map]
  exact ⟨ran.trans next.symm, out.symm⟩

/-- The updates as inputs of one moment. -/
def toldAt (now : Int) (updates : List TaskStatus) : List (Input R) :=
  updates.map (.statusUpdate now)

/-- Updates of which any two are independent may come in any order at one moment: the
state is the same in the end, and the same tasks are killed. -/
theorem updates_reordered {updates updates' : List TaskStatus} (perm : updates.Perm updates')
    (independent : updates.Pairwise (Independent s)) (now : Int) :
    (run (inputStep config) s (toldAt now updates)).next =
        (run (inputStep config) s (toldAt now updates')).next ∧
      (run (inputStep config) s (toldAt now updates)).out.Perm
        (run (inputStep config) s (toldAt now updates')).out := by
  have timed (updates : List TaskStatus) :
      (toldAt now updates : List (Input R)) = told (updates.map (now, ·)) := by
    rw [told, toldAt, List.map_map]
    rfl
  rw [timed, timed]
  exact timed_updates_reordered (perm.map _) (List.pairwise_map.mpr independent)

/-! ### Two hosts -/

private theorem independent_of_targets {kind' : ServiceKind} {host' : String}
    (first : statusTarget status.taskId = some (kind, host))
    (second : statusTarget other.taskId = some (kind', host'))
    (apart : kind = kind' → kind.clusterWide = false ∧ host ≠ host')
    (agent : host = host' → status.slaveId = other.slaveId) : Independent s status other := by
  have split {id : String} {kind : ServiceKind} {host : String}
      (target : statusTarget id = some (kind, host)) : splitTaskId id = some (kind.taskName, host) := by
    rw [splitTaskId_eq_some_iff]
    exact target_iff.mp target
  constructor
  · intro service place place' here here'
    obtain ⟨rfl, rfl⟩ := Prod.mk.inj (Option.some.inj (first.symm.trans here))
    obtain ⟨rfl, rfl⟩ := Prod.mk.inj (Option.some.inj (second.symm.trans here'))
    exact apart rfl
  · intro service service' place here here'
    obtain ⟨_, rfl⟩ := Prod.mk.inj (Option.some.inj ((split first).symm.trans here))
    obtain ⟨_, same⟩ := Prod.mk.inj (Option.some.inj ((split second).symm.trans here'))
    exact .inr (agent same.symm)

/-- The registries of two hosts and the api of the first report in. -/
def threeReports : List TaskStatus :=
  [{ taskId := "quobyte-registry-h1", state := .running, slaveId := "agent-h1" },
    { taskId := "quobyte-registry-h2", state := .lost, slaveId := "agent-h2" },
    { taskId := "quobyte-api-h1", state := .running, slaveId := "agent-h1" }]

/-- They may come in the opposite order. -/
theorem reports_reversed :
    (run (inputStep defaultConfig) (Scheduler.fresh {}) (toldAt 1 threeReports)).next =
      (run (inputStep defaultConfig) (Scheduler.fresh {}) (toldAt 1 threeReports.reverse)).next := by
  have registry : statusTarget "quobyte-registry-h1" = some (.registry, "h1") := by decide +kernel
  have second : statusTarget "quobyte-registry-h2" = some (.registry, "h2") := by decide +kernel
  have api : statusTarget "quobyte-api-h1" = some (.api, "h1") := by decide +kernel
  have independent : threeReports.Pairwise (Independent (Scheduler.fresh {})) := by
    simp only [threeReports, List.pairwise_cons, List.mem_cons, List.not_mem_nil, or_false,
      forall_eq_or_imp, forall_eq, false_imp_iff, implies_true, List.Pairwise.nil, and_true]
    refine ⟨⟨independent_of_targets registry second ?_ ?_, independent_of_targets registry api ?_ ?_⟩,
      independent_of_targets second api ?_ ?_⟩ <;> decide
  exact (updates_reordered (List.reverse_perm threeReports).symm independent 1).1

end QuobyteMesos.UpdateOrder
