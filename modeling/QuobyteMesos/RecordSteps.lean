import QuobyteMesos.SchedulerSteps

/-! Every input seen from one record, and where a launched task comes from.

`record_step` gives each record its four ways to change state or task id: a
launch, a prober being started, an update of a living task, an update of a dead
one. `launch_origin` names the offer and the record behind a launched task id. -/
namespace QuobyteMesos.RecordSteps
open Mesos Machine SchedulerRuns SchedulerSteps LaunchSteps

variable {R : Type} [Resources R] {config : Config R} {s s' : Scheduler}
variable {hostname host : String} {kind : ServiceKind}
variable {now : Int} {status : TaskStatus} {offer : Offer R} {input : Input R}

/-- What one input makes of a record, given what the input emitted. -/
inductive RecordStep (s : Scheduler) (hostname : String) (kind : ServiceKind) :
    Input R → List (Event R) → ServiceState → Prop where
  | kept {input : Input R} {out : List (Event R)} {after : ServiceState}
      (state : after.state = (s.record hostname kind).state)
      (id : after.taskId = (s.record hostname kind).taskId) :
      RecordStep s hostname kind input out after
  | launched {now : Int} {offer : Offer R} {out : List (Event R)} {after : ServiceState}
      (noted : kind.clusterWide = true ∨ kind = .client)
      (here : kind.clusterWide = true ∨ hostname = offer.hostname)
      (known : offer.hostname ∈ s.nodes)
      (idle : (s.record hostname kind).state = .notRunning)
      (running : after.state = .running) (id : after.taskId = taskId kind offer.hostname)
      (called : ∃ call, out = [.called call] ∧ taskId kind offer.hostname ∈ call.launched) :
      RecordStep s hostname kind (.offer now offer) out after
  | proberStarted {now : Int} {offer : Offer R} {out : List (Event R)} {after : ServiceState}
      (isProber : kind = .prober) (here : hostname = offer.hostname)
      (resting : (s.record hostname kind).state ≠ .running ∧
        (s.record hostname kind).state ≠ .starting)
      (starting : after.state = .starting) (id : after.taskId = (s.record hostname kind).taskId) :
      RecordStep s hostname kind (.offer now offer) out after
  | seen {now : Int} {status : TaskStatus} {host : String} {out : List (Event R)}
      (target : statusTarget status.taskId = some (kind, host))
      (here : kind.clusterWide = true ∨ hostname = host)
      (alive : status.state = .running ∨ status.state = .finished)
      (present : s.lacksDevice host kind = false)
      (accepted : acceptsUpdate (s.record hostname kind) status = true) :
      RecordStep s hostname kind (.statusUpdate now status) out
        (recordSeen now status (s.record hostname kind))
  | terminated {now : Int} {status : TaskStatus} {host : String} {out : List (Event R)}
      (target : statusTarget status.taskId = some (kind, host))
      (here : kind.clusterWide = true ∨ hostname = host)
      (terminal : isTerminal status.state = true) (ended : status.state ≠ .finished)
      (accepted : acceptsUpdate (s.record hostname kind) status = true) :
      RecordStep s hostname kind (.statusUpdate now status) out
        (recordTerminated now status (s.record hostname kind))

omit [Resources R] in
private theorem unchanged {out : List (Event R)} {after : ServiceState}
    (same : after = s.record hostname kind) : RecordStep s hostname kind input out after :=
  .kept (by rw [same]) (by rw [same])

private theorem record_step_prober {node : NodeState} {out : List (Event R)}
    (known : s.nodes[offer.hostname]? = some node)
    (due : proberDue config.flags now { node with lastOfferS := now } = true) :
    RecordStep s hostname kind (.offer now offer) out
      ((s.store offer.hostname (s.records { node with
        lastOfferS := now
        prober := { node.prober with state := .starting, lastUpdateS := now } })).record
          hostname kind) := by
  by_cases started : kind = .prober ∧ hostname = offer.hostname
  · obtain ⟨rfl, rfl⟩ := started
    rw [record_store, if_pos (.inr rfl)]
    have before : s.record offer.hostname .prober = _ := record_of_node known
    simp only [proberDue, Bool.and_eq_true, decide_eq_true_eq] at due
    refine .proberStarted rfl rfl ?_ rfl ?_
    · rw [before]
      exact ⟨due.1.2, due.2⟩
    · rw [before]
      rfl
  · apply unchanged
    by_cases isProber : kind = .prober
    · subst kind
      rw [record_store, if_neg]
      rintro (shared | here)
      · cases shared
      · exact started ⟨rfl, here⟩
    · refine record_store_same known ?_
      cases kind <;> first | rfl | exact absurd rfl isProber

private theorem record_step_launch {node : NodeState} {round : LaunchRound R}
    (known : s.nodes[offer.hostname]? = some node)
    (ran : startServices config s.state.targetVersion offer
      { records := s.records { node with lastOfferS := now }
        remainingResources := offer.resources } = .ok round) :
    RecordStep s hostname kind (.offer now offer)
      ((if round.tasksToStart ≠ [] then [DriverCall.launchTasks offer.id round.tasksToStart]
        else [.declineOffer offer.id]).map .called)
      ((s.store offer.hostname round.records).record hostname kind) := by
  have progress := progress_steps (start_services_steps ran)
  have before : ∀ kind, (s.records { node with lastOfferS := now }).service kind =
      s.record offer.hostname kind := by
    intro kind
    rw [record_of_node known]
    cases kind <;> rfl
  have member : offer.hostname ∈ s.nodes := by
    rw [Std.ExtTreeMap.mem_iff_isSome_getElem?, known]
    rfl
  by_cases within : kind.clusterWide = true ∨ hostname = offer.hostname
  · have local' : s.record hostname kind = s.record offer.hostname kind := by
      rcases within with shared | rfl
      · exact record_shared shared _ _
      · rfl
    rw [record_store, if_pos within]
    have kept := progress.records kind
    rw [before] at kept
    rcases kept with ⟨state, id⟩ | ⟨noted, idle, running, id, listed⟩
    · exact .kept (by rw [state, local']) (by rw [id, local'])
    · have nonempty : round.tasksToStart ≠ [] := by
        intro empty
        rw [empty] at listed
        cases listed
      rw [if_pos nonempty]
      exact .launched noted within member (by rw [local', idle]) running id ⟨_, rfl, listed⟩
  · apply unchanged
    rw [record_store, if_neg within]

private theorem record_step_offer
    (stepped : (inputStep config s (.offer now offer)).next = some s') :
    RecordStep s hostname kind (.offer now offer) (inputStep config s (.offer now offer)).out
      (s'.record hostname kind) := by
  obtain ⟨calls, answered, out⟩ := offer_step stepped
  rw [out]
  cases answered with
  | restricted => exact unchanged rfl
  | discovered => exact unchanged (record_createHost _)
  | prober node known due => exact record_step_prober known due
  | probe node known =>
    apply unchanged
    rw [triggerProbe, reconcileHost]
    simp only [record_createHost]
    exact record_store_same known (by cases kind <;> rfl)
  | launch node due ran => exact record_step_launch due.known ran
  | shutdown node known => exact unchanged (record_store_same known (by cases kind <;> rfl))

private theorem record_step_update :
    RecordStep s hostname kind (.statusUpdate now status)
      (inputStep config s (.statusUpdate now status)).out
      ((QuobyteMesos.statusUpdate (R := R) s now status).1.record hostname kind) := by
  cases target : statusTarget status.taskId with
  | none =>
    rcases (statusUpdate_of_no_target (R := R) s now target).2 with same | ⟨host, added⟩
    · exact unchanged (by rw [same])
    · exact unchanged (by rw [added, record_createHost])
  | some found =>
    obtain ⟨service, host⟩ := found
    by_cases within : kind = service ∧ (kind.clusterWide = true ∨ hostname = host)
    · obtain ⟨rfl, here⟩ := within
      have local' : ∀ s : Scheduler, s.record hostname kind = s.record host kind := by
        intro s
        rcases here with shared | rfl
        · exact record_shared shared _ _
        · rfl
      rw [local', record_statusUpdate target, ← local']
      rcases recordAfter_cases (s.shouldRun host kind status) now status
        (s.record hostname kind) with kept |
        ⟨alive, needed, accepted, seen⟩ | ⟨terminal, ended, accepted, cleared⟩
      · exact unchanged kept
      · rw [seen]
        simp only [Scheduler.shouldRun, Bool.and_eq_true, Bool.not_eq_true'] at needed
        exact .seen target here alive needed.2 accepted
      · rw [cleared]
        exact .terminated target here terminal ended accepted
    · apply unchanged
      apply record_statusUpdate_other target
      rintro rfl
      rw [not_and_or, not_or, Bool.not_eq_true] at within
      rcases within with other | apart
      · exact absurd rfl other
      · exact apart

/-- Every input keeps a record's state and task id, or changes them in one of
the ways listed. -/
theorem record_step (stepped : (inputStep config s input).next = some s') (hostname : String)
    (kind : ServiceKind) :
    RecordStep s hostname kind input (inputStep config s input).out (s'.record hostname kind) := by
  cases input with
  | offer now offer => exact record_step_offer stepped
  | statusUpdate now status =>
    cases stepped
    exact record_step_update
  | frameworkMessage now slaveId data =>
    cases stepped
    obtain ⟨state, id⟩ := record_frameworkMessage s now hostname kind slaveId data
    exact .kept state id
  | registered | reregistered | postVersion =>
    cases stepped
    exact unchanged rfl

/-! ### Where a launched task comes from -/

/-- What an offer found when it launched a task for a service, and what the
record of a recorded service says afterwards. -/
inductive Launches (config : Config R) (s s' : Scheduler) (now : Int) (offer : Offer R) :
    ServiceKind → Prop where
  | prober
      (resting : (s.record offer.hostname .prober).state ≠ .running ∧
        (s.record offer.hostname .prober).state ≠ .starting)
      (starting : (s'.record offer.hostname .prober).state = .starting) :
      Launches config s s' now offer .prober
  | service {kind : ServiceKind} {node : NodeState} {round : LaunchRound R} (other : kind ≠ .prober)
      (due : ServicesDue config s now offer node)
      (ran : startServices config s.state.targetVersion offer
        { records := s.records { node with lastOfferS := now }
          remainingResources := offer.resources } = .ok round)
      (listed : taskId kind offer.hostname ∈ round.tasksToStart.map TaskInfo.taskId)
      (idle : (s.record offer.hostname kind).state = .notRunning)
      (valid : (s.node offer.hostname).deviceTypesValid = true)
      (device : kind.core = true →
        ∃ device ∈ (s.node offer.hostname).deviceType, requiredBy device = some kind)
      (named : kind.clusterWide = true ∨ kind = .client →
        (s'.record offer.hostname kind).state = .running ∧
          (s'.record offer.hostname kind).taskId = taskId kind offer.hostname) :
      Launches config s s' now offer kind

private theorem launches_of_round {node : NodeState} {round : LaunchRound R} {id : String}
    (due : ServicesDue config s now offer node)
    (ran : startServices config s.state.targetVersion offer
      { records := s.records { node with lastOfferS := now }
        remainingResources := offer.resources } = .ok round)
    (listed : id ∈ round.tasksToStart.map TaskInfo.taskId) :
    ∃ kind, id = taskId kind offer.hostname ∧
      Launches config s (s.store offer.hostname round.records) now offer kind := by
  have progress := progress_steps (start_services_steps ran)
  obtain ⟨task, member, rfl⟩ := List.mem_map.mp listed
  rcases progress.tasks task member with earlier | ⟨kind, other, built, idle, valid, device⟩
  · cases earlier
  · rw [built.id] at listed
    refine ⟨kind, built.id, .service other due ran listed ?_ ?_ ?_ ?_⟩
    · rw [record_of_node due.known]
      cases kind <;> exact idle
    · simpa [Scheduler.node, due.known, Scheduler.records] using valid
    · simpa [Scheduler.node, due.known, Scheduler.records] using device
    · intro noted
      rw [record_store, if_pos (.inr rfl)]
      rcases progress.named kind noted listed with earlier | names
      · cases earlier
      · exact names

private theorem launches_of_offer {calls : List (DriverCall R)} {call : DriverCall R} {id : String}
    (answered : Answered config s now offer s' calls) (made : call ∈ calls)
    (launched : id ∈ call.launched) :
    ∃ kind, calls = [call] ∧ id = taskId kind offer.hostname ∧
      Launches config s s' now offer kind := by
  cases answered with
  | restricted =>
    rw [List.mem_singleton.mp made] at launched
    cases launched
  | discovered =>
    simp only [reconcileHost, List.cons_append, List.nil_append, List.mem_cons,
      List.not_mem_nil, or_false] at made
    rcases made with rfl | rfl <;> cases launched
  | @prober node task known due fits built agent resources =>
    rw [List.mem_singleton.mp made] at launched ⊢
    refine ⟨.prober, rfl, by simpa [DriverCall.launched, built] using launched, .prober ?_ ?_⟩
    · simp only [proberDue, Bool.and_eq_true, decide_eq_true_eq] at due
      rw [record_of_node known]
      exact ⟨due.1.2, due.2⟩
    · rw [record_store, if_pos (.inr rfl)]
      rfl
  | probe =>
    simp only [triggerProbe, reconcileHost, List.cons_append, List.nil_append, List.mem_cons,
      List.not_mem_nil, or_false] at made
    rcases made with rfl | rfl | rfl <;> cases launched
  | launch node due ran =>
    split at made
    · rename_i nonempty
      have only := List.mem_singleton.mp made
      rw [only] at launched ⊢
      obtain ⟨kind, built, launches⟩ := launches_of_round due ran launched
      exact ⟨kind, if_pos nonempty, built, launches⟩
    · rw [List.mem_singleton.mp made] at launched
      cases launched
  | shutdown =>
    rcases List.mem_append.mp made with killed | declined
    · obtain ⟨task, rfl⟩ := killServices_kills killed
      cases launched
    · rw [List.mem_singleton.mp declined] at launched
      cases launched

/-- A task is launched only in answer to an offer, by the only call of that
answer, for a service of the offering host. -/
theorem launch_origin {call : DriverCall R} {id : String}
    (stepped : (inputStep config s input).next = some s')
    (emitted : Event.called call ∈ (inputStep config s input).out) (launched : id ∈ call.launched) :
    ∃ now offer kind, input = .offer now offer ∧
      (inputStep config s input).out = [.called call] ∧ id = taskId kind offer.hostname ∧
      Launches config s s' now offer kind := by
  cases input with
  | offer now offer =>
    obtain ⟨calls, answered, out⟩ := offer_step stepped
    rw [out] at emitted ⊢
    obtain ⟨made, member, same⟩ := List.mem_map.mp emitted
    obtain rfl := Event.called.inj same
    obtain ⟨kind, only, built, launches⟩ := launches_of_offer answered member launched
    exact ⟨now, offer, kind, rfl, by rw [only]; rfl, built, launches⟩
  | statusUpdate now status =>
    have killed : call = .killTask status.taskId := by
      have made : call ∈ (QuobyteMesos.statusUpdate s now status).2 := by
        simpa [inputStep] using emitted
      exact statusUpdate_kills made
    rw [killed] at launched
    cases launched
  | registered | reregistered =>
    have asked : call = .reconcileTasks [] := by
      simpa [inputStep, QuobyteMesos.registered, QuobyteMesos.reregistered] using emitted
    rw [asked] at launched
    cases launched
  | frameworkMessage | postVersion => cases emitted

/-- An input that emits anything leaves a state. -/
theorem continues_of_emitted {event : Event R}
    (emitted : event ∈ (inputStep config s input).out) :
    ∃ s', (inputStep config s input).next = some s' := by
  cases input with
  | offer now offer =>
    cases stepped : (inputStep config s (.offer now offer)).next with
    | none =>
      rw [offer_ended stepped] at emitted
      cases emitted
    | some s' => exact ⟨s', rfl⟩
  | statusUpdate | frameworkMessage | registered | reregistered | postVersion => exact ⟨_, rfl⟩

/-- What is delivered is the update being handled. -/
theorem delivered_told {status : TaskStatus} (emitted : .delivered status ∈ (inputStep config s input).out) :
    ∃ now, input = .statusUpdate now status := by
  cases input with
  | offer now offer =>
    obtain ⟨s', stepped⟩ := continues_of_emitted emitted
    obtain ⟨calls, _, out⟩ := offer_step stepped
    rw [out] at emitted
    simp at emitted
  | statusUpdate now report =>
    obtain rfl : status = report := by simpa [inputStep] using emitted
    exact ⟨now, rfl⟩
  | frameworkMessage | postVersion => cases emitted
  | registered | reregistered => simp [inputStep] at emitted

end QuobyteMesos.RecordSteps
