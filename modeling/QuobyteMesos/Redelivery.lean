import QuobyteMesos.SchedulerSteps

/-! A status update delivered more than once.

Mesos delivers an update until it is acknowledged, so one can come again. The
second handling runs against the record that the first has left: kept, taken over
or cleared. In each case it leaves the same record and is answered alike
(`update_again`). -/
namespace QuobyteMesos.Redelivery
open Mesos Machine SchedulerRuns SchedulerSteps

variable {R : Type} {s : Scheduler} {records : Records} {kind : ServiceKind}
variable {now : Int} {status : TaskStatus} {hostname : String}

/-! ### One record -/

private theorem setService_twice {first second : ServiceState} :
    (records.setService kind first).setService kind second = records.setService kind second := by
  cases kind <;> rfl

/-- A task that has been taken over is as welcome as it was before. -/
private theorem should_run_seen (now : Int) (needed : serviceShouldRun records kind status = true) :
    serviceShouldRun (records.setService kind
      (recordSeen now status (records.service kind))) kind status = true := by
  have devices : ∀ service, (records.setService kind service).node.deviceTypesValid =
        records.node.deviceTypesValid ∧
      deviceMissing (records.setService kind service).node kind = deviceMissing records.node kind := by
    intro service
    cases kind <;> exact ⟨rfl, rfl⟩
  simp only [serviceShouldRun, Bool.and_eq_true] at needed ⊢
  obtain ⟨valid, missing⟩ := devices (recordSeen now status (records.service kind))
  rw [Records.service_setService_self, valid, missing]
  exact ⟨by simp [recordSeen], needed.2⟩

/-- What an update has made of the records is left alone by the same update, which
is answered as before. -/
theorem update_again (now : Int) (status : TaskStatus) (kind : ServiceKind) (records : Records) :
    updateService (R := R) now status kind (updateService (R := R) now status kind records).1 =
      updateService now status kind records := by
  have handled : updateService (R := R) now status kind records = _ := updateService_eq
  rw [handled]
  rcases recordAfter_cases (serviceShouldRun records kind status) now status
    (records.service kind) with kept | ⟨alive, needed, accepted, seen⟩ | ⟨dead, unfinished, accepted, cleared⟩
  · rw [kept, Records.setService_service, updateService_eq, kept, Records.setService_service]
  · have still := should_run_seen now needed
    have same : recordAfter true now status (recordSeen now status (records.service kind)) =
        recordSeen now status (records.service kind) := by
      simp [recordAfter, alive, acceptsUpdate, recordSeen]
    rw [seen, updateService_eq, Records.service_setService_self, still, same, setService_twice, needed]
  · have idle : ¬ (status.state = .running ∨ status.state = .finished) := by
      rintro (running | finished)
      · rw [running] at dead
        cases dead
      · exact unfinished finished
    have same (shouldRun : Bool) :
        recordAfter shouldRun now status (recordTerminated now status (records.service kind)) =
          recordTerminated now status (records.service kind) := by
      simp [recordAfter, idle, dead, acceptsUpdate, recordTerminated]
    rw [cleared, updateService_eq, Records.service_setService_self, same, setService_twice,
      if_neg (fun both => idle both.1), if_neg (fun both => idle both.1)]

/-! ### The whole scheduler -/

private theorem store_again (records : Records) :
    (s.store hostname records).store hostname records = s.store hostname records := by
  have nodes : (s.nodes.insert hostname records.node).insert hostname records.node =
      s.nodes.insert hostname records.node := by
    apply Std.ExtTreeMap.ext_getElem?
    intro host
    simp only [Std.ExtTreeMap.getElem?_insert, Std.compare_eq_iff_eq]
    split <;> rfl
  simp [Scheduler.store, nodes]

private theorem records_store (records : Records) :
    (s.store hostname records).records records.node = records := rfl

private theorem mem_store (records : Records) : hostname ∈ (s.store hostname records).nodes := by
  simp [Scheduler.store]

private theorem again_of_target (target : statusTarget status.taskId = some (kind, hostname)) :
    statusUpdate (R := R) (statusUpdate (R := R) s now status).1 now status =
      statusUpdate s now status := by
  obtain ⟨node, _, ran⟩ := statusUpdate_of_target (R := R) s now target
  have handled := update_again (R := R) now status kind
    ((s.createHost hostname status.slaveId).records node)
  rw [ran]
  generalize (updateService (R := R) now status kind
    ((s.createHost hostname status.slaveId).records node)) = outcome at handled ⊢
  obtain ⟨records, kills⟩ := outcome
  obtain ⟨node', known, ran'⟩ := statusUpdate_of_target (R := R)
    ((s.createHost hostname status.slaveId).store hostname records) now target
  rw [createHost_known (mem_store records)] at known ran'
  have stored : node' = records.node := by
    simp [Scheduler.store] at known
    exact known.symm
  subst stored
  rw [ran', records_store, handled, store_again]
  rfl

private theorem again_of_no_target (none : statusTarget status.taskId = none) :
    statusUpdate (R := R) (statusUpdate (R := R) s now status).1 now status =
      statusUpdate s now status := by
  cases split : splitTaskId status.taskId with
  | none => simp only [statusUpdate, split]
  | some parts =>
    obtain ⟨service, host⟩ := parts
    have unnamed : getService service = Option.none := by
      simpa [statusTarget, split] using none
    have added : host ∈ (s.createHost host status.slaveId).nodes := by
      simp [Scheduler.createHost]
    rw [statusUpdate_unnamed s now split unnamed, statusUpdate_unnamed _ now split unnamed,
      createHost_known added]

/-- Handling an update again changes nothing and makes the same calls. -/
theorem statusUpdate_again (s : Scheduler) (now : Int) (status : TaskStatus) :
    statusUpdate (R := R) (statusUpdate (R := R) s now status).1 now status =
      statusUpdate s now status := by
  cases target : statusTarget status.taskId with
  | none => exact again_of_no_target target
  | some found =>
    obtain ⟨kind, hostname⟩ := found
    exact again_of_target target

/-- In any state, reachable or not, an update handled twice under one clock reading
leaves the state it leaves when handled once, and the second time kills no task
that was not killed the first time. -/
theorem redelivery_harmless (s : Scheduler) (now : Int) (status : TaskStatus) :
    (statusUpdate (R := R) (statusUpdate (R := R) s now status).1 now status).1 =
        (statusUpdate (R := R) s now status).1 ∧
      ∀ id, .killTask id ∈
          (statusUpdate (R := R) (statusUpdate (R := R) s now status).1 now status).2 →
        .killTask id ∈ (statusUpdate (R := R) s now status).2 := by
  rw [statusUpdate_again]
  exact ⟨rfl, fun _ killed => killed⟩

/-- However often an update is delivered in a row, the state is that of one
delivery. -/
theorem redelivered_run [Resources R] (config : Config R) (s : Scheduler) (now : Int)
    (status : TaskStatus) (times : ℕ) :
    (run (callbackStep config) s (List.replicate (times + 1) (.statusUpdate now status))).next =
      some (statusUpdate (R := R) s now status).1 := by
  induction times generalizing s with
  | zero => rw [List.replicate_one, run_singleton]; rfl
  | succ times ih =>
    have stepped : (callbackStep config s (.statusUpdate now status)).next =
        some (statusUpdate (R := R) s now status).1 := rfl
    rw [List.replicate_succ, run_cons_next stepped]
    simp only [ih, statusUpdate_again]

end QuobyteMesos.Redelivery
