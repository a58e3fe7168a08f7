import QuobyteMesos.ServiceRecords
import QuobyteMesos.TaskIds

/-! What a reconciliation of a host clears up.

`reconcileHost` asks about seven of the eight services. Once every task it asked
about has been reported lost, each of their records is idle or names a task that
runs elsewhere; the record of the client, which it never asks about, is where it
was. On a host with a dash in its name no answer reaches a record, but there the
record of the client cannot be known either. -/
namespace QuobyteMesos.Reconciliation
open Mesos Machine SchedulerRuns SchedulerSteps LaunchSteps RecordSteps ServiceRecords TaskIds

variable {R : Type} [Resources R] {config : Config R} {s s' : Scheduler} {now : Int}
variable {offer : Offer R} {hostname : String} {kind other : ServiceKind} {status : TaskStatus}
variable {updates : List (Int × TaskStatus)} {input : Input R}

/-- The answers of a master that knows none of the tasks it was asked about: one
update for each of them, in any order. -/
structure ReportedLost (asked : List TaskStatus) (updates : List (Int × TaskStatus)) : Prop where
  each : (updates.map (·.2.taskId)).Perm (asked.map TaskStatus.taskId)
  lost : ∀ update ∈ updates, update.2.state = .lost

/-- The updates delivered one after the other. -/
def delivered (updates : List (Int × TaskStatus)) : List (Input R) :=
  updates.map fun update => .statusUpdate update.1 update.2

/-! ### The request -/

/-- An offer that reconciles its host asks about the services listed and leaves
every record as it was. -/
theorem reconciling_offer {calls : List (DriverCall R)} {asked : List TaskStatus}
    (answered : Answered config s now offer s' calls) (made : .reconcileTasks asked ∈ calls) :
    asked.map TaskStatus.taskId = reconciledKinds.map (taskId · offer.hostname) ∧
      ∀ kind, s'.record offer.hostname kind = s.record offer.hostname kind := by
  cases answered with
  | restricted => simp at made
  | discovered =>
    have list : asked = reconciledKinds.map fun kind =>
        { taskId := taskId kind offer.hostname, state := .lost } := by
      simpa [reconcileHost] using made
    refine ⟨?_, fun kind => record_createHost _⟩
    rw [list, List.map_map]
    rfl
  | prober => simp at made
  | probe node known =>
    have list : asked = reconciledKinds.map fun kind =>
        { taskId := taskId kind offer.hostname, state := .lost } := by
      simpa [triggerProbe, reconcileHost] using made
    refine ⟨?_, fun kind => ?_⟩
    · rw [list, List.map_map]
      rfl
    · rw [triggerProbe, reconcileHost]
      simp only [record_createHost]
      exact record_store_same known (by cases kind <;> rfl)
  | launch =>
    split at made <;> simp at made
  | shutdown =>
    rcases List.mem_append.mp made with killed | declined
    · obtain ⟨task, same⟩ := killServices_kills killed
      cases same
    · simp at declined

/-- Whatever task is launched or asked about by its id has the id built for a service of
the offering host, and is found again in an update exactly if that host has no dash. -/
theorem sent_id_round_trips {event : Event R} {id : String}
    (emitted : event ∈ (inputStep config s input).out)
    (sent : id ∈ event.launched ∨ some id ∈ event.requested) :
    ∃ now offer kind, input = .offer now offer ∧ id = taskId kind offer.hostname ∧
      (RoundTrips R kind offer.hostname ↔ '-' ∉ offer.hostname.toList) := by
  have exact' (kind : ServiceKind) (host : String) : RoundTrips R kind host ↔ '-' ∉ host.toList :=
    ⟨plain_of_round_trips, round_trips_of_plain R kind⟩
  obtain ⟨s', stepped⟩ := continues_of_emitted emitted
  cases event with
  | delivered => simp [Event.launched, Event.requested] at sent
  | called call =>
    rcases sent with launched | requested
    · obtain ⟨now, offer, kind, rfl, _, built, _⟩ := launch_origin stepped emitted launched
      exact ⟨now, offer, kind, rfl, built, exact' kind offer.hostname⟩
    · obtain ⟨asked, rfl, named⟩ : ∃ asked, call = .reconcileTasks asked ∧
          id ∈ asked.map TaskStatus.taskId := by
        unfold Event.requested at requested
        split at requested
        · simp at requested
        · rename_i asked _ same
          refine ⟨asked, Event.called.inj same, ?_⟩
          simpa using requested
        · simp at requested
        · simp at requested
      cases input with
      | offer now offer =>
        obtain ⟨calls, answered, out⟩ := offer_step stepped
        rw [out] at emitted
        obtain ⟨call, made, same⟩ := List.mem_map.mp emitted
        obtain rfl := Event.called.inj same
        rw [(reconciling_offer answered made).1] at named
        obtain ⟨kind, _, rfl⟩ := List.mem_map.mp named
        exact ⟨now, offer, kind, rfl, rfl, exact' kind offer.hostname⟩
      | statusUpdate now status =>
        have made : .reconcileTasks asked ∈ (statusUpdate (R := R) s now status).2 := by
          simpa [inputStep] using emitted
        cases statusUpdate_kills made
      | registered | reregistered =>
        have all : asked = [] := by
          simpa [inputStep, registered, reregistered] using emitted
        simp [all] at named
      | frameworkMessage | postVersion => cases emitted

/-! ### The answers -/

omit [Resources R] in
/-- A lost task is not unknown any more, and no other record hears of it. -/
private theorem lost_step (now : Int) (other : ServiceKind) (inv : RecordInv s) (plain : '-' ∉ hostname.toList)
    (named : status.taskId = taskId kind hostname) (lost : status.state = .lost) :
    ((statusUpdate (R := R) s now status).1.record hostname other).state = .unknown ↔
      (s.record hostname other).state = .unknown ∧ status.taskId ≠ taskId other hostname := by
  have target : statusTarget status.taskId = some (kind, hostname) := target_iff.mpr ⟨named, plain⟩
  by_cases same : other = kind
  · subst other
    have known : ((statusUpdate (R := R) s now status).1.record hostname kind).state ≠ .unknown := by
      rw [record_statusUpdate target, recordAfter]
      cases accepted : acceptsUpdate (s.record hostname kind) status with
      | true => simp [lost, isTerminal, recordTerminated]
      | false =>
        have held : (s.record hostname kind).taskId ≠ "" := by
          intro empty
          simp [acceptsUpdate, empty] at accepted
        simp [lost, (inv.running hostname kind).mp held]
    simp [known, named]
  · have kept : (statusUpdate (R := R) s now status).1.record hostname other =
        s.record hostname other :=
      record_statusUpdate_other target fun equal => absurd equal same
    have apart : status.taskId ≠ taskId other hostname := by
      rw [named]
      exact fun equal => same (taskId_injective equal).1.symm
    simp [kept, apart]

/-- After updates that report tasks of the host lost, the records still unknown
are those that were and are not among them. -/
private theorem lost_run (other : ServiceKind) (inv : RecordInv s) (plain : '-' ∉ hostname.toList)
    (named : ∀ update ∈ updates, ∃ kind, update.2.taskId = taskId kind hostname)
    (lost : ∀ update ∈ updates, update.2.state = .lost)
    (ran : (run (inputStep config) s (delivered updates)).next = some s') :
    (s'.record hostname other).state = .unknown ↔ (s.record hostname other).state = .unknown ∧
      taskId other hostname ∉ updates.map (·.2.taskId) := by
  induction updates generalizing s with
  | nil =>
    cases ran
    simp
  | cons update updates ih =>
    have stepped : (inputStep config s (.statusUpdate update.1 update.2)).next =
      some (statusUpdate (R := R) s update.1 update.2).1 := rfl
    obtain ⟨kind, id⟩ := named update List.mem_cons_self
    have first := lost_step (R := R) update.1 other inv plain id
      (lost update List.mem_cons_self)
    rw [delivered, List.map_cons, run_cons_next stepped] at ran
    rw [ih (record_inv_step inv stepped)
      (fun later member => named later (List.mem_cons_of_mem _ member))
      (fun later member => lost later (List.mem_cons_of_mem _ member)) ran, first]
    simp only [List.map_cons, List.mem_cons, not_or, and_assoc, ne_eq, eq_comm]

/-! ### Hosts with a dash -/

/-- No record of its own of such a host has ever been written. -/
def DashedUnknown (s : Scheduler) : Prop :=
  ∀ hostname kind, '-' ∈ hostname.toList → kind.clusterWide = false → kind ≠ .prober →
    (s.record hostname kind).state = .unknown

private theorem dashed_unknown_step (dashed : DashedUnknown s)
    (stepped : (inputStep config s input).next = some s') : DashedUnknown s' := by
  intro hostname kind dash own service
  have before := dashed hostname kind dash own service
  have step := record_step stepped hostname kind
  generalize s'.record hostname kind = after at step ⊢
  cases step with
  | kept state => rw [state, before]
  | launched noted here known idle =>
    rw [before] at idle
    cases idle
  | proberStarted isProber => exact absurd isProber service
  | seen target here | terminated target here =>
    rcases here with shared | rfl
    · rw [own] at shared
      cases shared
    · exact absurd dash (target_iff.mp target).2

private theorem dashed_unknown_fresh (state : SchedulerState) : DashedUnknown (Scheduler.fresh state) := by
  intro hostname kind _ own _
  cases kind <;> cases own <;> rfl

/-! ### A whole reconciliation -/

/-- In every reachable state and for every offer that reconciles its host: once
the tasks asked about are all reported lost, no record of a service that is
started on the host is unknown if and only if that of the client was not. -/
theorem reconciliation_iff (reachable : Reachable config s) {calls : List (DriverCall R)}
    (handled : handleOffer config s now offer = .ok (s', calls)) {asked : List TaskStatus}
    (made : .reconcileTasks asked ∈ calls) (reported : ReportedLost asked updates) {after : Scheduler}
    (ran : (run (inputStep config) s' (delivered updates)).next = some after) :
    (∀ kind : ServiceKind, kind ≠ .prober → (after.record offer.hostname kind).state ≠ .unknown) ↔
      (s.record offer.hostname .client).state ≠ .unknown := by
  have stepped : (inputStep config s (.offer now offer)).next = some s' := by
    rw [inputStep, handled]
    rfl
  obtain ⟨ids, same⟩ := reconciling_offer (offer_cases handled) made
  by_cases plain : '-' ∈ offer.hostname.toList
  · have before := reachable_invariant dashed_unknown_fresh (fun _ _ _ => dashed_unknown_step) reachable
    have end' := run_invariant (fun _ _ _ => dashed_unknown_step) (dashed_unknown_step before stepped) ran
    constructor
    · intro known
      exact absurd (end' _ .client plain rfl (by decide)) (known .client (by decide))
    · intro known
      exact absurd (before _ .client plain rfl (by decide)) known
  · have inv := record_inv_step (record_inv_reachable reachable) stepped
    have listed : ∀ id, id ∈ updates.map (·.2.taskId) ↔
        id ∈ reconciledKinds.map (taskId · offer.hostname) := by
      intro id
      rw [← ids]
      exact reported.each.mem_iff
    have left := fun kind => lost_run kind inv plain (fun update member => by
      obtain ⟨kind, _, id⟩ := List.mem_map.mp ((listed _).mp (List.mem_map_of_mem member))
      exact ⟨kind, id.symm⟩) reported.lost ran
    have asks : ∀ kind, taskId kind offer.hostname ∈ updates.map (·.2.taskId) ↔ kind ≠ .client := by
      intro kind
      rw [listed]
      constructor
      · rintro member rfl
        obtain ⟨kind, listed, id⟩ := List.mem_map.mp member
        rw [(taskId_injective id).1] at listed
        exact absurd listed (by decide)
      · intro asked
        refine List.mem_map_of_mem (f := (taskId · offer.hostname)) ?_
        cases kind <;> first | decide | exact absurd rfl asked
    constructor
    · intro known
      have client := mt (left .client).mpr (known .client (by decide))
      simpa [asks, same] using client
    · intro client kind _ unknown
      obtain ⟨before, silent⟩ := (left kind).mp unknown
      rw [asks, not_not] at silent
      rw [silent, same] at before
      exact client before

/-- The request of a host, answered in its order. -/
def lostAnswers (hostname : String) : List (Int × TaskStatus) :=
  reconciledKinds.map fun kind => (201, { taskId := taskId kind hostname, state := .lost })

private theorem lost_answers_reported {asked : List TaskStatus}
    (ids : asked.map TaskStatus.taskId = reconciledKinds.map (taskId · hostname)) :
    ReportedLost asked (lostAnswers hostname) := by
  constructor
  · rw [ids, lostAnswers, List.map_map]
    exact .refl _
  · intro update member
    obtain ⟨kind, _, rfl⟩ := List.mem_map.mp member
    rfl

private theorem reconciles_answer (asks : reconciles config s now offer = true) :
    ∃ s' calls asked, handleOffer config s now offer = .ok (s', calls) ∧
      .reconcileTasks asked ∈ calls := by
  obtain ⟨⟨s', calls⟩, handled, found⟩ := except_any_ok asks
  obtain ⟨call, made, kind⟩ := List.any_eq_true.mp found
  cases call with
  | reconcileTasks asked => exact ⟨s', calls, asked, handled, made⟩
  | launchTasks | declineOffer | killTask | sendFrameworkMessage => cases kind

/-- A prober and a client run on the host when it is offered, so that it is probed:
with the answers in, nothing is unknown. -/
theorem client_host_reconciled : ∃ s s' after : Scheduler, ∃ calls, Reachable defaultConfig s ∧
    handleOffer defaultConfig s 200 (wideOffer "o1" "h1") = .ok (s', calls) ∧
    (run (inputStep defaultConfig) s' (delivered (lostAnswers "h1"))).next = some after ∧
    ∀ kind : ServiceKind, kind ≠ .prober → (after.record "h1" kind).state ≠ .unknown := by
  have ran : (run (callbackStep defaultConfig) (Scheduler.fresh { targetVersion := "1" })
      [.statusUpdate 1 { taskId := "quobyte-client-h1", state := .running },
        .statusUpdate 1 { taskId := "quobyte-device-prober-h1", state := .running }]).next.map
      (fun s => ((s.record "h1" .client).state,
        reconciles defaultConfig s 200 (wideOffer "o1" "h1"))) = some (.running, true) := by
    decide +kernel
  obtain ⟨s, reachable, viewed⟩ := reachable_of_run ran
  obtain ⟨running, asks⟩ := Prod.mk.inj viewed
  obtain ⟨s', calls, asked, handled, made⟩ := reconciles_answer asks
  have reported := lost_answers_reported (reconciling_offer (offer_cases handled) made).1
  refine ⟨s, s', _, calls, reachable, handled, rfl, ?_⟩
  have known : (s.record "h1" .client).state ≠ .unknown := by
    rw [running]
    decide
  exact (reconciliation_iff reachable handled made reported rfl).mpr known

/-- A host that is offered for the first time: with the answers in, its client is
unknown still. -/
theorem client_left_unknown : ∃ s' after : Scheduler, ∃ calls asked,
    handleOffer defaultConfig (Scheduler.fresh { targetVersion := "1" }) 200 (wideOffer "o1" "h1") =
      .ok (s', calls) ∧
    .reconcileTasks asked ∈ calls ∧ ReportedLost asked (lostAnswers "h1") ∧
    (run (inputStep defaultConfig) s' (delivered (lostAnswers "h1"))).next = some after ∧
    (after.record "h1" .client).state = .unknown := by
  refine ⟨_, _, _, reconciledKinds.map fun kind => { taskId := taskId kind "h1", state := .lost },
    rfl, List.mem_cons_self, lost_answers_reported rfl, rfl, ?_⟩
  decide +kernel

end QuobyteMesos.Reconciliation
