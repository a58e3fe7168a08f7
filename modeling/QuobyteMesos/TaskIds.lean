import QuobyteMesos.SchedulerSteps
import QuobyteMesos.SchedulerRuns

/-! The way of a task id from the scheduler to the cluster and back.

An id is the service name and the host name joined by a dash; an update is taken
apart at the last dash. `round_trips_iff` says for which host names this finds
the record the id was built for, and `update_of_dashed_host` what becomes of the
updates of all other hosts. -/
namespace QuobyteMesos.TaskIds
open Mesos Machine SchedulerRuns SchedulerSteps

variable {s : Scheduler} {hostname host : String} {kind : ServiceKind} {now : Int}
variable {status : TaskStatus}

/-- An update naming the id built for a service on a host is applied to the
record of that service at that host's entry, created if there is none, and no
other entry is touched. -/
structure RoundTrips (R : Type) (kind : ServiceKind) (hostname : String) : Prop where
  decoded : statusTarget (taskId kind hostname) = some (kind, hostname)
  applied : ∀ (s : Scheduler) (now : Int) (status : TaskStatus),
    status.taskId = taskId kind hostname →
      ∃ node, (s.createHost hostname status.slaveId).nodes[hostname]? = some node ∧
        (statusUpdate (R := R) s now status).1 =
          (s.createHost hostname status.slaveId).store hostname
            (updateService (R := R) now status kind
              ((s.createHost hostname status.slaveId).records node)).1
  alone : ∀ (s : Scheduler) (now : Int) (status : TaskStatus),
    status.taskId = taskId kind hostname →
      ∀ host, host ≠ hostname →
        (statusUpdate (R := R) s now status).1.nodes[host]? = s.nodes[host]?

private theorem other_entry_kept (other : host ≠ hostname) (slaveId : String) (records : Records) :
    ((s.createHost hostname slaveId).store hostname records).nodes[host]? = s.nodes[host]? := by
  simp only [Scheduler.store, Scheduler.createHost, Std.ExtTreeMap.getElem?_insert,
    Std.ExtTreeMap.getElem?_insertIfNew, Std.compare_eq_iff_eq]
  rw [if_neg (Ne.symm other), if_neg fun created => other created.1.symm]

/-- The ids of a host whose name has no dash come back. -/
theorem round_trips_of_plain (R : Type) (kind : ServiceKind) (plain : '-' ∉ hostname.toList) :
    RoundTrips R kind hostname := by
  have target : statusTarget (taskId kind hostname) = some (kind, hostname) :=
    target_iff.mpr ⟨rfl, plain⟩
  constructor
  · exact target
  · intro s now status named
    obtain ⟨node, known, ran⟩ := statusUpdate_of_target (R := R) s now (named ▸ target)
    exact ⟨node, known, congrArg Prod.fst ran⟩
  · intro s now status named host other
    obtain ⟨node, known, ran⟩ := statusUpdate_of_target (R := R) s now (named ▸ target)
    rw [ran]
    exact other_entry_kept other status.slaveId _

theorem plain_of_round_trips {R : Type} (round : RoundTrips R kind hostname) :
    '-' ∉ hostname.toList :=
  (target_iff.mp round.decoded).2

/-- The ids of a host come back exactly when its name has no dash. -/
theorem round_trips_iff (R : Type) (kind : ServiceKind) (hostname : String) :
    RoundTrips R kind hostname ↔ '-' ∉ hostname.toList :=
  ⟨plain_of_round_trips, round_trips_of_plain R kind⟩

/-- The registry of an EC2 host: its update is dropped, and an entry appears for
the text behind the last dash. -/
theorem dashed_host_not_found :
    ¬ RoundTrips TextResources .registry "ip-10-0-0-1.ec2.internal" ∧
      (statusUpdate (R := TextResources) (Scheduler.fresh {}) 0
        { taskId := "quobyte-registry-ip-10-0-0-1.ec2.internal", state := .running }).1.nodes.keys =
        ["1.ec2.internal"] := by
  constructor
  · intro round
    exact absurd round.decoded (by decide +kernel)
  · decide +kernel

/-- The id of a host with a dash names no record. -/
theorem dashed_host_target (dashed : '-' ∈ hostname.toList) :
    statusTarget (taskId kind hostname) = none := by
  cases found : statusTarget (taskId kind hostname) with
  | none => rfl
  | some target =>
    obtain ⟨other, host⟩ := target
    obtain ⟨same, plain⟩ := target_iff.mp found
    obtain ⟨_, rfl⟩ := taskId_injective same
    exact absurd dashed plain

/-- No record of any host learns of the update, and nothing is answered. -/
theorem update_of_dashed_host {R : Type} (dashed : '-' ∈ hostname.toList)
    (named : status.taskId = taskId kind hostname) (host : String) (other : ServiceKind) :
    (statusUpdate (R := R) s now status).1.record host other = s.record host other ∧
      (statusUpdate (R := R) s now status).2 = [] := by
  have none : statusTarget status.taskId = none := by
    rw [named]
    exact dashed_host_target dashed
  obtain ⟨silent, left⟩ := statusUpdate_of_no_target (R := R) s now none
  refine ⟨?_, silent⟩
  rcases left with same | ⟨key, created⟩
  · rw [same]
  · rw [created, record_createHost]

end QuobyteMesos.TaskIds
