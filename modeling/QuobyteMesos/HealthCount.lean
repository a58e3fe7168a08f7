import QuobyteMesos.HttpRequests
import QuobyteMesos.TerminatedServices

/-! What the health page counts.

The number under `/v1/health` is added up over the records of the cluster's services
and of all hosts. In every run it is the number of different tasks that these records
name, and each of them has been launched or reported alive and, as long as its host can
be told from its id, has not ended since (`health_counts`). -/
namespace QuobyteMesos.HealthCount
open Mesos Machine SchedulerRuns SchedulerSteps RecordSteps ServiceRecords HttpRequests StdString

variable {R : Type}

/-! ### The records that are counted -/

/-- The records the page is added up from; the host of a shared record does not matter. -/
def slots (s : Scheduler) : List (ServiceKind × String) :=
  [(.api, ""), (.s3, ""), (.webconsole, "")] ++
    s.nodes.toList.flatMap fun entry => [(.registry, entry.1), (.metadata, entry.1), (.data, entry.1)]

/-- The record says that its task runs. -/
def runs (s : Scheduler) (slot : ServiceKind × String) : Bool :=
  (s.record slot.2 slot.1).state = .running

/-- The tasks that are counted. -/
def counted (s : Scheduler) : List String :=
  ((slots s).filter (runs s)).map fun slot => (s.record slot.2 slot.1).taskId

variable {s s' : Scheduler} {hostname id : String} {kind : ServiceKind}

private theorem running_hosts (entries : List (String × NodeState))
    (known : ∀ entry ∈ entries, s.nodes[entry.1]? = some entry.2) :
    (entries.map fun entry => running [entry.2.registry, entry.2.metadata, entry.2.data]).sum =
      (entries.flatMap fun entry =>
        [(ServiceKind.registry, entry.1), (.metadata, entry.1), (.data, entry.1)]).countP (runs s) := by
  induction entries with
  | nil => rfl
  | cons entry entries ih =>
    have here (kind : ServiceKind) : s.record entry.1 kind = (s.records entry.2).service kind :=
      record_of_node (known entry List.mem_cons_self)
    rw [List.map_cons, List.sum_cons, ih fun other member => known other (List.mem_cons_of_mem _ member),
      List.flatMap_cons, List.countP_append]
    simp [running, List.countP_cons, runs, here, Scheduler.records, Records.service]

/-- The page adds up one for each record that says so. -/
theorem countRunningServices_eq (s : Scheduler) : countRunningServices s = (counted s).length := by
  rw [countRunningServices, running_hosts (s := s) _ fun entry member =>
    Std.ExtTreeMap.mem_toList_iff_getElem?_eq_some.mp member]
  rw [counted, List.length_map, ← List.countP_eq_length_filter, slots, List.countP_append]
  rfl

theorem mem_slots {slot : ServiceKind × String} : slot ∈ slots s ↔
    slot.1.clusterWide = true ∧ slot.2 = "" ∨ slot.1.core = true ∧ slot.2 ∈ s.nodes := by
  obtain ⟨kind, hostname⟩ := slot
  have entry : hostname ∈ s.nodes ↔ ∃ node, s.nodes[hostname]? = some node := by
    rw [Std.ExtTreeMap.mem_iff_isSome_getElem?, Option.isSome_iff_exists]
  cases kind <;> simp [slots, ServiceKind.clusterWide, ServiceKind.core, entry]

private theorem slots_nodup (s : Scheduler) : (slots s).Nodup := by
  have distinct : (s.nodes.toList.flatMap fun entry =>
      [(ServiceKind.registry, entry.1), (.metadata, entry.1), (.data, entry.1)]).Nodup := by
    rw [List.nodup_flatMap]
    refine ⟨fun entry _ => by simp, ?_⟩
    refine s.nodes.distinct_keys_toList.imp fun {first second} apart => ?_
    have other : first.1 ≠ second.1 := fun same => apart (Std.LawfulEqCmp.compare_eq_iff_eq.mpr same)
    simp [Function.onFun, Ne.symm other]
  rw [slots, List.nodup_append]
  refine ⟨by decide, distinct, ?_⟩
  rintro slot shared other own rfl
  obtain ⟨entry, _, member⟩ := List.mem_flatMap.mp own
  simp at shared member
  grind

/-- The record names the task of its service, on its host unless it is shared. -/
private theorem task_of_running (inv : RecordInv s) (running : (s.record hostname kind).state = .running) :
    ∃ host, (s.record hostname kind).taskId = taskId kind host ∧
      (kind.clusterWide = false → host = hostname) := by
  have named := (inv.running hostname kind).mpr running
  cases shared : kind.clusterWide with
  | true =>
    obtain ⟨host, _, same⟩ := inv.shared hostname kind shared named
    exact ⟨host, same, nofun⟩
  | false => exact ⟨hostname, inv.own hostname kind shared named, fun _ => rfl⟩

/-- Each record that runs names a task of its own. -/
theorem counted_nodup (inv : RecordInv s) : (counted s).Nodup := by
  refine List.Nodup.map_on ?_ ((slots_nodup s).filter _)
  rintro ⟨kind, hostname⟩ first ⟨kind', hostname'⟩ second same
  obtain ⟨listed, running⟩ := List.mem_filter.mp first
  obtain ⟨listed', running'⟩ := List.mem_filter.mp second
  obtain ⟨host, names, here⟩ := task_of_running inv (of_decide_eq_true running)
  obtain ⟨host', names', here'⟩ := task_of_running inv (of_decide_eq_true running')
  obtain ⟨rfl, rfl⟩ := taskId_injective (names.symm.trans (same.trans names'))
  rw [mem_slots] at listed listed'
  rcases listed with ⟨shared, rfl⟩ | ⟨core, _⟩
  · rcases listed' with ⟨_, rfl⟩ | ⟨core, _⟩
    · rfl
    · rw [ServiceKind.clusterWide_of_core core] at shared
      cases shared
  · have own := ServiceKind.clusterWide_of_core core
    exact congrArg (Prod.mk _) ((here own).symm.trans (here' own))

/-- The services that are counted. -/
def onPage (kind : ServiceKind) : Bool := kind.clusterWide || kind.core

theorem mem_counted : id ∈ counted s ↔ ∃ hostname kind, onPage kind = true ∧
    (s.record hostname kind).state = .running ∧ (s.record hostname kind).taskId = id := by
  simp only [counted, List.mem_map, List.mem_filter, mem_slots, runs, decide_eq_true_eq]
  constructor
  · rintro ⟨⟨kind, hostname⟩, ⟨listed, running⟩, named⟩
    refine ⟨hostname, kind, ?_, running, named⟩
    rcases listed with ⟨shared, _⟩ | ⟨core, _⟩
    · simp [onPage, shared]
    · simp [onPage, core]
  · rintro ⟨hostname, kind, page, running, named⟩
    cases shared : kind.clusterWide with
    | true =>
      rw [record_shared shared hostname ""] at running named
      exact ⟨(kind, ""), ⟨.inl ⟨shared, rfl⟩, running⟩, named⟩
    | false =>
      have core : kind.core = true := by simpa [onPage, shared] using page
      refine ⟨(kind, hostname), ⟨.inr ⟨core, ?_⟩, running⟩, named⟩
      by_contra unknown
      have empty : s.record hostname kind = {} := by
        have absent : s.nodes[hostname]? = none := Std.ExtTreeMap.getElem?_eq_none unknown
        cases kind <;> cases core <;>
          simp [Scheduler.record, Scheduler.node, absent, Scheduler.records, Records.service]
      rw [empty] at running
      cases running

/-! ### What is heard of them -/

variable {out : List (Event R)}

/-- The task is launched or reported alive; a finished one counts as such. -/
def Begins (id : String) : Event R → Prop
  | .called call => id ∈ call.launched
  | .delivered status => status.taskId = id ∧ (status.state = .running ∨ status.state = .finished)

/-- The task is reported ended otherwise. -/
def Ends (id : String) : Event R → Prop
  | .called _ => False
  | .delivered status => status.taskId = id ∧ isTerminal status.state = true ∧ status.state ≠ .finished

/-- The task has begun and not ended since. -/
def Heard (id : String) (out : List (Event R)) : Prop :=
  ∃ left event right, out = left ++ event :: right ∧ Begins id event ∧
    (statusTarget id ≠ none → ∀ later ∈ right, ¬ Ends id later)

/-- What is known of every record but those of the probers. -/
structure Counts (out : List (Event R)) (s : Scheduler) : Prop where
  records : RecordInv s
  heard : ∀ hostname kind, kind ≠ .prober → (s.record hostname kind).taskId ≠ "" →
    Heard (s.record hostname kind).taskId out

theorem counts_fresh (state : SchedulerState) : Counts ([] : List (Event R)) (Scheduler.fresh state) where
  records := record_inv_fresh state
  heard hostname kind _ named := by
    cases kind <;> exact absurd rfl named

variable [Resources R] {config : Config R} {input : Input R}

omit [Resources R] in
private theorem Heard.more {new : List (Event R)} (heard : Heard id out)
    (silent : statusTarget id ≠ none → ∀ later ∈ new, ¬ Ends id later) : Heard id (out ++ new) := by
  obtain ⟨left, event, right, rfl, begins, rest⟩ := heard
  refine ⟨left, event, right ++ new, by simp, begins, fun decodes later member => ?_⟩
  rcases List.mem_append.mp member with before | now
  · exact rest decodes later before
  · exact silent decodes later now

/-- An update that ends a recorded task clears the record. -/
private theorem ended_cleared {event : Event R} (inv : RecordInv s)
    (stepped : (inputStep config s input).next = some s') (named : (s.record hostname kind).taskId ≠ "")
    (decodes : statusTarget (s.record hostname kind).taskId ≠ none)
    (emitted : event ∈ (inputStep config s input).out) (ends : Ends (s.record hostname kind).taskId event) :
    (s'.record hostname kind).taskId = "" := by
  cases event with
  | called => cases ends
  | delivered status =>
    obtain ⟨same, terminal, unfinished⟩ := ends
    obtain ⟨now, rfl⟩ := delivered_told emitted
    cases stepped
    obtain ⟨host, task, here⟩ := task_of_running inv ((inv.running hostname kind).mp named)
    obtain ⟨target, decoded⟩ := Option.ne_none_iff_exists'.mp decodes
    obtain ⟨kind', host'⟩ := target
    obtain ⟨built, plain⟩ := target_iff.mp decoded
    obtain ⟨rfl, rfl⟩ := taskId_injective (task.symm.trans built)
    have elsewhere (s : Scheduler) : s.record hostname kind = s.record host kind := by
      cases shared : kind.clusterWide with
      | true => exact record_shared shared _ _
      | false => rw [here shared]
    rw [elsewhere] at same
    have accepted : acceptsUpdate (s.record host kind) status = true := by simp [acceptsUpdate, same]
    have target : statusTarget status.taskId = some (kind, host) := by rw [same, ← elsewhere, decoded]
    rw [elsewhere]
    exact ((TerminatedServices.cleared_iff now inv target terminal accepted).mpr fun finished =>
      absurd finished unfinished).2

theorem counts_step (counts : Counts out s) (stepped : (inputStep config s input).next = some s') :
    Counts (out ++ (inputStep config s input).out) s' := by
  refine ⟨record_inv_step counts.records stepped, fun hostname kind service named => ?_⟩
  have after := record_step stepped hostname kind
  generalize new : s'.record hostname kind = record at after named
  generalize emitted : (inputStep config s input).out = events at after
  cases after with
  | kept state id =>
    rw [id] at named ⊢
    refine (counts.heard hostname kind service named).more fun decodes later member ends => ?_
    rw [← emitted] at member
    have cleared := ended_cleared counts.records stepped named decodes member ends
    rw [new, id] at cleared
    exact named cleared
  | launched noted here known idle running id called =>
    obtain ⟨call, rfl, launched⟩ := called
    rw [id]
    exact ⟨out, _, [], rfl, launched, fun _ _ => nofun⟩
  | proberStarted isProber => exact absurd isProber service
  | seen target here alive =>
    cases stepped
    rw [← emitted]
    refine ⟨out, .delivered _, _, rfl, ⟨rfl, alive⟩, fun _ later member ends => ?_⟩
    obtain ⟨call, _, rfl⟩ := List.mem_map.mp member
    exact ends
  | terminated => exact absurd rfl named

/-- Whatever has happened, the page gives the number of different tasks that the records
of the cluster's services and of all hosts name. Each of them was launched or reported
alive, and one whose host can be told from its id has not been reported ended since, but
for a report that it finished. -/
theorem health_counts {state : SchedulerState} {callbacks : List (Callback R)}
    (ran : (run (callbackStep config) (Scheduler.fresh state) callbacks).next = some s)
    (sources : PageSources) (data : String) :
    ∃ tasks : List String, tasks.Nodup ∧
      handleHTTP sources s "GET" kHealthUrl data =
        some { scheduler := s, page := "OK. Running services: " ++ toString tasks.length } ∧
      (∀ id, id ∈ tasks ↔ ∃ hostname kind, onPage kind = true ∧
        (s.record hostname kind).state = .running ∧ (s.record hostname kind).taskId = id) ∧
      ∀ id ∈ tasks, Heard id (run (callbackStep config) (Scheduler.fresh state) callbacks).out := by
  have counts : Counts (run (callbackStep config) (Scheduler.fresh state) callbacks).out s := by
    rw [callback_runs] at ran ⊢
    have history := @run_history _ _ _ _ _ _ _ (fun _ out s => Counts out s) (fun _ _ _ => True)
      (fun _ _ _ _ _ counts _ stepped => counts_step counts stepped) [] [] (counts_fresh state)
      (fun _ _ _ _ _ _ => trivial) ran
    simpa only [List.nil_append] using history
  refine ⟨counted s, counted_nodup counts.records, ?_, fun _ => mem_counted, fun id member => ?_⟩
  · have other : find kVersionAPIUrl.toList kHealthUrl.toList ≠ some 0 := by decide +kernel
    rw [handleHTTP, if_neg (by decide), if_neg other, if_pos ⟨rfl, rfl⟩, countRunningServices_eq]
  · obtain ⟨hostname, kind, page, running, rfl⟩ := mem_counted.mp member
    refine counts.heard hostname kind ?_ ((counts.records.running hostname kind).mpr running)
    rintro rfl
    cases page

/-- The api that was launched is on the page. -/
theorem launched_api_counted : ∃ s, ∃ tasks : List String, "quobyte-api-h1" ∈ tasks ∧
    handleHTTP plainSources s "GET" kHealthUrl "" =
      some { scheduler := s, page := "OK. Running services: " ++ toString tasks.length } := by
  have ran : (run (callbackStep defaultConfig) (Scheduler.fresh { targetVersion := "1" })
      apiLaunched).next.map (fun s => ((s.record "h1" .api).state, (s.record "h1" .api).taskId)) =
        some (.running, "quobyte-api-h1") := by decide +kernel
  obtain ⟨s, reached, recorded⟩ := Option.map_eq_some_iff.mp ran
  obtain ⟨running, named⟩ := Prod.mk.inj recorded
  obtain ⟨tasks, _, page, members, _⟩ := health_counts reached plainSources ""
  exact ⟨s, tasks, (members _).mpr ⟨"h1", .api, rfl, running, named⟩, page⟩

end QuobyteMesos.HealthCount
