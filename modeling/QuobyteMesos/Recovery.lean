import QuobyteMesos.ServiceRecords
import QuobyteMesos.OfferAnswers
import QuobyteMesos.LaunchExclusion
import Mathlib.Data.Finset.Basic

/-! Recovery after a restart.

A scheduler just constructed knows nothing; truthful answers about the tasks of
its hosts arrive in any order and any number of times, between offers and before
any probe. `Recovered` is what holds at every moment of this, in terms of the
answers heard so far; once all have been heard, the records agree with the
cluster and every surplus task of a cluster service has been killed. -/
namespace QuobyteMesos.Recovery
open Mesos Machine SchedulerRuns SchedulerSteps NodeSteps RecordSteps ServiceRecords LaunchSteps
open LaunchExclusion

variable {R : Type} {hosts : Finset String} {live : ServiceKind → String → Bool}
variable {s s' : Scheduler} {hostname host : String} {kind : ServiceKind} {now : Int}
variable {status : TaskStatus} {input : Input R} {seen inputs : List (Input R)}
variable {out more : List (Event R)}

/-- An offer of one of the hosts, or the true answer about a service on one of
them. -/
def Truthful (hosts : Finset String) (live : ServiceKind → String → Bool) : Input R → Prop
  | .offer _ offer => offer.hostname ∈ hosts
  | .statusUpdate _ status => ∃ kind host, (kind.core = true ∨ kind.clusterWide = true) ∧
      host ∈ hosts ∧ status.taskId = taskId kind host ∧
      status.state = if live kind host then .running else .lost
  | .registered _ | .reregistered => True
  | .frameworkMessage .. | .postVersion _ => False

/-- An answer about the service on the host is among the inputs. -/
def Heard (kind : ServiceKind) (host : String) (inputs : List (Input R)) : Prop :=
  ∃ now status, .statusUpdate now status ∈ inputs ∧ status.taskId = taskId kind host

/-- The tasks the events ask to kill. -/
def killed (events : List (Event R)) : List String := events.flatMap Event.killed

/-- The record of a cluster service once some answers have been heard: idle until
a running task is heard of, then held by the first one. -/
inductive SharedView (hosts : Finset String) (live : ServiceKind → String → Bool)
    (kind : ServiceKind) (seen : List (Input R)) (out : List (Event R)) (service : ServiceState) :
    Prop where
  | idle (none : ∀ host ∈ hosts, Heard kind host seen → live kind host = false)
      (unnamed : service.taskId = "")
      (settled : (∃ host ∈ hosts, Heard kind host seen) → service.state = .notRunning)
      (spared : ∀ host, taskId kind host ∉ killed out)
  | held (owner : String) (listed : owner ∈ hosts) (alive : live kind owner = true)
      (running : service.state = .running) (named : service.taskId = taskId kind owner)
      (surplus : ∀ host ∈ hosts, Heard kind host seen → live kind host = true → host ≠ owner →
        taskId kind host ∈ killed out)
      (spared : taskId kind owner ∉ killed out)

/-- What holds at every moment of the recovery. -/
structure Recovered (hosts : Finset String) (live : ServiceKind → String → Bool)
    (seen : List (Input R)) (out : List (Event R)) (s : Scheduler) : Prop where
  wanted : s.state.targetVersion ≠ ""
  unprobed : ∀ hostname, (s.node hostname).deviceTypesValid = false
  records : RecordInv s
  core : ∀ kind host, kind.core = true → host ∈ hosts → Heard kind host seen →
    (s.record host kind).state = if live kind host then .running else .notRunning
  alive : ∀ kind host, kind.core = true → (s.record host kind).state = .running →
    live kind host = true
  shared : ∀ kind host, kind.clusterWide = true →
    SharedView hosts live kind seen out (s.record host kind)
  kills : ∀ id ∈ killed out, ∃ kind host, kind.clusterWide = true ∧ host ∈ hosts ∧
    live kind host = true ∧ id = taskId kind host
  quiet : ∀ id ∈ out.flatMap Event.launched, ∃ host, id = taskId .prober host

theorem recovered_fresh (hosts : Finset String) (live : ServiceKind → String → Bool)
    {state : SchedulerState} (wanted : state.targetVersion ≠ "") :
    Recovered hosts live ([] : List (Input R)) [] (Scheduler.fresh state) := by
  have nothing : ∀ kind host, ¬ Heard kind host ([] : List (Input R)) := by
    rintro kind host ⟨now, status, member, _⟩
    cases member
  have empty : ∀ hostname kind, (Scheduler.fresh state).record hostname kind = {} := by
    intro hostname kind
    cases kind <;> rfl
  constructor
  · exact wanted
  · intro hostname
    rfl
  · exact record_inv_fresh state
  · intro kind host _ _ heard
    exact absurd heard (nothing kind host)
  · intro kind host _ running
    rw [empty] at running
    cases running
  · intro kind host _
    rw [empty]
    refine .idle ?_ rfl ?_ ?_
    · intro host _ heard
      exact absurd heard (nothing kind host)
    · rintro ⟨host, _, heard⟩
      exact absurd heard (nothing kind host)
    · intro host
      exact List.not_mem_nil
  · intro id member
    cases member
  · intro id member
    cases member

/-! ### What has been heard and killed -/

private theorem heard_append : Heard kind host (seen ++ [input]) ↔
    Heard kind host seen ∨ ∃ now status, input = .statusUpdate now status ∧
      status.taskId = taskId kind host := by
  constructor
  · rintro ⟨now, status, member, named⟩
    rcases List.mem_append.mp member with earlier | last
    · exact .inl ⟨now, status, earlier, named⟩
    · exact .inr ⟨now, status, (List.mem_singleton.mp last).symm, named⟩
  · rintro (⟨now, status, member, named⟩ | ⟨now, status, rfl, named⟩)
    · exact ⟨now, status, List.mem_append_left _ member, named⟩
    · exact ⟨now, status, by simp, named⟩

private theorem mem_killed_append {id : String} :
    id ∈ killed (out ++ more) ↔ id ∈ killed out ∨ id ∈ killed more := by
  rw [killed, List.flatMap_append, List.mem_append]
  rfl

/-- A view lasts while its record keeps state and id and neither an answer nor a
kill of its service is added. -/
private theorem SharedView.keep {before after : ServiceState} {seen' : List (Input R)}
    {out' : List (Event R)} (view : SharedView hosts live kind seen out before)
    (state : after.state = before.state) (id : after.taskId = before.taskId)
    (heard : ∀ host, Heard kind host seen' → Heard kind host seen)
    (kills : ∀ host, taskId kind host ∈ killed out' ↔ taskId kind host ∈ killed out) :
    SharedView hosts live kind seen' out' after := by
  cases view with
  | idle none unnamed settled spared =>
    refine .idle ?_ (id.trans unnamed) ?_ ?_
    · intro host member answered
      exact none host member (heard host answered)
    · rintro ⟨host, member, answered⟩
      exact state.trans (settled ⟨host, member, heard host answered⟩)
    · intro host
      rw [kills]
      exact spared host
  | held owner listed alive running named surplus spared =>
    refine .held owner listed alive (state.trans running) (id.trans named) ?_ ?_
    · intro host member answered alive other
      rw [kills]
      exact surplus host member (heard host answered) alive other
    · rw [kills]
      exact spared

/-! ### Offers and registrations -/

private theorem valid_of_facts (s : Scheduler) (hostname : String) :
    (s.node hostname).deviceTypesValid = (s.facts hostname).any NodeFacts.deviceTypesValid := by
  unfold Scheduler.node Scheduler.facts
  cases s.nodes[hostname]? <;> rfl

private theorem lacks_nothing (recovered : Recovered hosts live seen out s) (hostname : String)
    (kind : ServiceKind) : s.lacksDevice hostname kind = false := by
  rw [Scheduler.lacksDevice, recovered.unprobed]
  rfl

variable [Resources R] {config : Config R}

/-- No truthful input is a probe response. -/
private theorem unprobed_step (recovered : Recovered hosts live seen out s)
    (truthful : Truthful hosts live input) (stepped : (inputStep config s input).next = some s')
    (hostname : String) : (s'.node hostname).deviceTypesValid = false := by
  have before := recovered.unprobed hostname
  rw [valid_of_facts] at before ⊢
  have step := node_step stepped hostname
  generalize s'.facts hostname = after at step ⊢
  cases step with
  | kept => exact before
  | added => rfl
  | probed => cases truthful

private theorem wanted_step (recovered : Recovered hosts live seen out s)
    (truthful : Truthful hosts live input) (stepped : (inputStep config s input).next = some s') :
    s'.state.targetVersion ≠ "" := by
  have same : s'.state.targetVersion = s.state.targetVersion := by
    cases input with
    | offer now offer =>
      obtain ⟨calls, answered, _⟩ := offer_step stepped
      cases answered <;> rfl
    | statusUpdate now status =>
      obtain ⟨kind, host, _, _, named, _⟩ := truthful
      cases stepped
      cases target : statusTarget status.taskId with
      | none =>
        rcases (statusUpdate_of_no_target (R := R) s now target).2 with same | ⟨_, added⟩
        · rw [same]
        · rw [added]
          rfl
      | some found =>
        obtain ⟨node, _, ran⟩ := statusUpdate_of_target (R := R) s now target
        rw [ran]
        rfl
    | registered | reregistered =>
      cases stepped
      rfl
    | frameworkMessage | postVersion => cases truthful
  rw [same]
  exact recovered.wanted

/-- While no devices are known, nothing but a prober is launched. -/
private theorem only_probers (recovered : Recovered hosts live seen out s)
    (stepped : (inputStep config s input).next = some s') :
    ∀ id ∈ (inputStep config s input).out.flatMap Event.launched,
      ∃ host, id = taskId .prober host := by
  intro id launched
  obtain ⟨event, emitted, started⟩ := List.mem_flatMap.mp launched
  cases event with
  | delivered => cases started
  | called call =>
    obtain ⟨now, offer, kind, _, _, built, launches⟩ := launch_origin stepped emitted started
    cases launches with
    | prober => exact ⟨offer.hostname, built⟩
    | service _ _ _ _ _ valid =>
      rw [recovered.unprobed] at valid
      cases valid

/-- While a version is wanted, an offer leads to no kill. -/
private theorem offer_spares {offer : Offer R} (recovered : Recovered hosts live seen out s)
    (stepped : (inputStep config s (.offer now offer)).next = some s') :
    killed (inputStep config s (.offer now offer)).out = [] := by
  obtain ⟨calls, answered, emitted⟩ := offer_step stepped
  rw [emitted]
  cases answered with
  | restricted | discovered | prober | probe => rfl
  | launch =>
    split <;> rfl
  | shutdown node known unwanted => exact absurd unwanted recovered.wanted

/-- An offer or a registration changes no record but a prober's. -/
private theorem record_kept (hostname : String) (recovered : Recovered hosts live seen out s)
    (stepped : (inputStep config s input).next = some s')
    (unanswered : ∀ now status, input ≠ .statusUpdate now status)
    (service : kind.core = true ∨ kind.clusterWide = true) :
    (s'.record hostname kind).state = (s.record hostname kind).state ∧
      (s'.record hostname kind).taskId = (s.record hostname kind).taskId := by
  have outer : kind ≠ .prober := by
    rintro rfl
    rcases service with isCore | shared
    · cases isCore
    · cases shared
  have step := record_step stepped hostname kind
  generalize s'.record hostname kind = after at step ⊢
  generalize emitted : (inputStep config s input).out = events at step
  cases step with
  | kept state id => exact ⟨state, id⟩
  | @launched now offer _ _ _ _ _ _ _ _ called =>
    obtain ⟨call, only, listed⟩ := called
    have launched : taskId kind offer.hostname ∈
        (inputStep config s (.offer now offer)).out.flatMap Event.launched := by
      rw [emitted, only]
      exact List.mem_flatMap.mpr ⟨_, List.mem_singleton_self _, listed⟩
    obtain ⟨host, same⟩ := only_probers recovered stepped _ launched
    exact absurd (taskId_injective same).1 outer
  | proberStarted isProber => exact absurd isProber outer
  | seen | terminated => exact absurd rfl (unanswered _ _)

omit [Resources R] in
private theorem mem_launched_append {id : String} {more : List (Event R)}
    (quiet : ∀ id ∈ out.flatMap Event.launched, ∃ host, id = taskId .prober host)
    (later : ∀ id ∈ more.flatMap Event.launched, ∃ host, id = taskId .prober host)
    (member : id ∈ (out ++ more).flatMap Event.launched) : ∃ host, id = taskId .prober host := by
  rw [List.flatMap_append, List.mem_append] at member
  exact member.elim (quiet id) (later id)

private theorem recovered_unanswered (recovered : Recovered hosts live seen out s)
    (truthful : Truthful hosts live input) (stepped : (inputStep config s input).next = some s')
    (unanswered : ∀ now status, input ≠ .statusUpdate now status)
    (spares : killed (inputStep config s input).out = []) :
    Recovered hosts live (seen ++ [input]) (out ++ (inputStep config s input).out) s' := by
  have heard : ∀ kind host, Heard kind host (seen ++ [input]) → Heard kind host seen := by
    intro kind host answered
    rcases heard_append.mp answered with earlier | ⟨now, status, same, _⟩
    · exact earlier
    · exact absurd same (unanswered now status)
  have kills : ∀ id, id ∈ killed (out ++ (inputStep config s input).out) ↔ id ∈ killed out := by
    intro id
    rw [mem_killed_append, spares]
    simp
  constructor
  · exact wanted_step recovered truthful stepped
  · exact unprobed_step recovered truthful stepped
  · exact record_inv_step recovered.records stepped
  · intro kind host isCore member answered
    rw [(record_kept host recovered stepped unanswered (.inl isCore)).1]
    exact recovered.core kind host isCore member (heard kind host answered)
  · intro kind host isCore running
    rw [(record_kept host recovered stepped unanswered (.inl isCore)).1] at running
    exact recovered.alive kind host isCore running
  · intro kind host shared
    have same := record_kept host recovered stepped unanswered (.inr shared)
    exact (recovered.shared kind host shared).keep same.1 same.2 (heard kind) fun _ => kills _
  · intro id member
    exact recovered.kills id ((kills id).mp member)
  · intro id member
    exact mem_launched_append recovered.quiet (only_probers recovered stepped) member

/-! ### Answers -/

omit [Resources R] in
/-- An answer is about one service on one host. -/
private theorem heard_answer {other : ServiceKind} (id : status.taskId = taskId kind host)
    (answered : Heard other hostname (seen ++ [.statusUpdate now status])) :
    Heard other hostname seen ∨ other = kind ∧ hostname = host := by
  rcases heard_append.mp answered with earlier | ⟨_, _, ⟨⟩, same⟩
  · exact .inl earlier
  · exact .inr (taskId_injective (same.symm.trans id))

omit [Resources R] in
/-- An answer that is taken over makes its record running or idle. -/
private theorem record_after_answer {alive : Bool} {service : ServiceState}
    (accepted : acceptsUpdate service status = true)
    (answer : status.state = if alive then .running else .lost) :
    recordAfter true now status service =
      if alive then recordSeen now status service else recordTerminated now status service := by
  cases alive with
  | true =>
    rw [if_pos rfl] at answer
    simp [recordAfter, answer, accepted]
  | false =>
    rw [if_neg Bool.false_ne_true] at answer
    simp [recordAfter, answer, accepted, isTerminal]

section Answer

variable (recovered : Recovered hosts live seen out s)
  (target : statusTarget status.taskId = some (kind, host))
  (answer : status.state = if live kind host then .running else .lost)

include recovered target answer

/-- An answer kills its task exactly when another instance holds the record. -/
private theorem killed_answer (config : Config R) (now : Int) :
    killed (inputStep config s (.statusUpdate now status)).out =
      if live kind host = true ∧ s.shouldRun host kind status = false then [status.taskId]
      else [] := by
  have version : checkVersion (R := R) s.state kind status = [] := by
    unfold checkVersion
    simp [recovered.wanted]
  have kills : killed (inputStep config s (.statusUpdate now status)).out =
      killed ((QuobyteMesos.statusUpdate (R := R) s now status).2.map .called) := rfl
  rw [kills, calls_statusUpdate target, version, List.append_nil]
  cases alive : live kind host with
  | true =>
    rw [alive] at answer
    cases s.shouldRun host kind status <;> simp [answer, killed, Event.killed]
  | false =>
    rw [alive] at answer
    simp [answer, killed]

/-- An answer about a service that should run kills nothing. -/
private theorem needed_spared (config : Config R) (now : Int)
    (needed : s.shouldRun host kind status = true) (id : String) :
    id ∈ killed (out ++ (inputStep config s (.statusUpdate now status)).out) ↔ id ∈ killed out := by
  rw [mem_killed_append, killed_answer recovered target answer config now, needed]
  simp

/-- An answer kills no task but its own. -/
private theorem other_spared (config : Config R) (now : Int) {id : String}
    (other : id ≠ taskId kind host) :
    id ∈ killed (out ++ (inputStep config s (.statusUpdate now status)).out) ↔ id ∈ killed out := by
  rw [mem_killed_append, killed_answer recovered target answer config now, or_iff_left]
  split
  · rw [List.mem_singleton, (target_iff.mp target).1]
    exact other
  · exact List.not_mem_nil

/-- What an answer kills is a live instance of a cluster service. -/
private theorem surplus_killed (config : Config R) (now : Int)
    (service : kind.core = true ∨ kind.clusterWide = true) {id : String}
    (among : id ∈ killed (inputStep config s (.statusUpdate now status)).out) :
    kind.clusterWide = true ∧ live kind host = true ∧ id = taskId kind host := by
  rw [killed_answer recovered target answer config now] at among
  split at among
  · rename_i surplus
    rw [List.mem_singleton.mp among]
    refine ⟨?_, surplus.1, (target_iff.mp target).1⟩
    rcases service with isCore | shared
    · simp [Scheduler.shouldRun, ServiceKind.clusterWide_of_core isCore, lacks_nothing recovered] at surplus
    · exact shared
  · cases among

omit [Resources R] in
/-- The record of a core service agrees with the answer. -/
private theorem core_answer (isCore : kind.core = true) :
    ((QuobyteMesos.statusUpdate (R := R) s now status).1.record host kind).state =
      if live kind host then .running else .notRunning := by
  have own := ServiceKind.clusterWide_of_core isCore
  have accepted := own_update_accepted recovered.records target own
  have needed : s.shouldRun host kind status = true := by
    simp [Scheduler.shouldRun, own, lacks_nothing recovered]
  rw [record_statusUpdate target, needed, record_after_answer accepted answer]
  split <;> rfl

/-- An idle record is taken by the first running task and kept idle by the absent
ones. -/
private theorem idle_answer (config : Config R) (now : Int) (member : host ∈ hosts)
    (none : ∀ host ∈ hosts, Heard kind host seen → live kind host = false)
    (unnamed : (s.record host kind).taskId = "")
    (spared : ∀ host, taskId kind host ∉ killed out) :
    SharedView hosts live kind (seen ++ [.statusUpdate now status])
      (out ++ (inputStep config s (.statusUpdate now status)).out)
      (recordAfter (s.shouldRun host kind status) now status (s.record host kind)) := by
  have id := (target_iff.mp target).1
  have resting : (s.record host kind).state ≠ .running :=
    mt (recovered.records.running host kind).mpr (not_not.mpr unnamed)
  have needed : s.shouldRun host kind status = true := by
    simp [Scheduler.shouldRun, resting, lacks_nothing recovered]
  have accepted : acceptsUpdate (s.record host kind) status = true := by
    simp [acceptsUpdate, unnamed]
  have spared' : ∀ other, taskId kind other ∉
      killed (out ++ (inputStep config s (.statusUpdate now status)).out) := by
    intro other
    rw [needed_spared recovered target answer config now needed]
    exact spared other
  rw [needed, record_after_answer accepted answer]
  cases alive : live kind host with
  | true =>
    refine .held host member alive rfl id ?_ (spared' host)
    intro other listed answered running different
    rcases heard_answer id answered with earlier | ⟨_, same⟩
    · rw [none other listed earlier] at running
      cases running
    · exact absurd same different
  | false =>
    refine .idle ?_ rfl (fun _ => rfl) spared'
    intro other listed answered
    rcases heard_answer id answered with earlier | ⟨_, rfl⟩
    · exact none other listed earlier
    · exact alive

/-- The task that holds the record keeps it. -/
private theorem owner_answer (config : Config R) (now : Int) (listed : host ∈ hosts)
    (alive : live kind host = true) (named : (s.record host kind).taskId = taskId kind host)
    (surplus : ∀ other ∈ hosts, Heard kind other seen → live kind other = true → other ≠ host →
      taskId kind other ∈ killed out)
    (spared : taskId kind host ∉ killed out) :
    SharedView hosts live kind (seen ++ [.statusUpdate now status])
      (out ++ (inputStep config s (.statusUpdate now status)).out)
      (recordAfter (s.shouldRun host kind status) now status (s.record host kind)) := by
  have id := (target_iff.mp target).1
  have needed : s.shouldRun host kind status = true := by
    simp [Scheduler.shouldRun, named, id, lacks_nothing recovered]
  have accepted : acceptsUpdate (s.record host kind) status = true := by
    simp [acceptsUpdate, named, id]
  have kills := needed_spared recovered target answer config now needed
  rw [needed, record_after_answer accepted answer, alive]
  refine .held host listed alive rfl id ?_ ?_
  · intro other member answered running different
    rw [kills]
    rcases heard_answer id answered with earlier | ⟨_, same⟩
    · exact surplus other member earlier running different
    · exact absurd same different
  · rw [kills]
    exact spared

/-- Against a task that holds the record, a running one is killed, and an absent
one changes nothing. -/
private theorem surplus_answer (config : Config R) (now : Int) (shared : kind.clusterWide = true)
    {owner : String} (listed : owner ∈ hosts) (owned : live kind owner = true)
    (running : (s.record host kind).state = .running)
    (named : (s.record host kind).taskId = taskId kind owner) (other : host ≠ owner)
    (surplus : ∀ host ∈ hosts, Heard kind host seen → live kind host = true → host ≠ owner →
      taskId kind host ∈ killed out)
    (spared : taskId kind owner ∉ killed out) :
    SharedView hosts live kind (seen ++ [.statusUpdate now status])
      (out ++ (inputStep config s (.statusUpdate now status)).out)
      (recordAfter (s.shouldRun host kind status) now status (s.record host kind)) := by
  have id := (target_iff.mp target).1
  have foreign : status.taskId ≠ (s.record host kind).taskId := by
    rw [id, named]
    exact fun same => other (taskId_injective same).2
  have taken : (s.record host kind).taskId ≠ "" := by
    rw [named]
    exact taskId_ne_empty kind owner
  have refused : acceptsUpdate (s.record host kind) status = false := by
    simp [acceptsUpdate, foreign, taken]
  have unneeded : s.shouldRun host kind status = false := by
    simp [Scheduler.shouldRun, shared, running, Ne.symm foreign]
  have after : recordAfter (s.shouldRun host kind status) now status (s.record host kind) =
      s.record host kind := by
    simp [recordAfter, refused]
  rw [after]
  refine .held owner listed owned running named ?_ ?_
  · intro host' member answered alive different
    rw [mem_killed_append, killed_answer recovered target answer config now]
    rcases heard_answer id answered with earlier | ⟨_, rfl⟩
    · exact .inl (surplus host' member earlier alive different)
    · rw [if_pos ⟨alive, unneeded⟩, id]
      exact .inr (List.mem_singleton_self _)
  · rw [other_spared recovered target answer config now]
    · exact spared
    · exact fun same => other (taskId_injective same).2.symm

/-- The view of a cluster service moves on with the answer. -/
private theorem shared_answer (config : Config R) (now : Int) (shared : kind.clusterWide = true)
    (member : host ∈ hosts) :
    SharedView hosts live kind (seen ++ [.statusUpdate now status])
      (out ++ (inputStep config s (.statusUpdate now status)).out)
      ((QuobyteMesos.statusUpdate (R := R) s now status).1.record host kind) := by
  rw [record_statusUpdate target]
  cases recovered.shared kind host shared with
  | idle none unnamed settled spared =>
    exact idle_answer recovered target answer config now member none unnamed spared
  | held owner listed owned running named surplus spared =>
    by_cases mine : host = owner
    · subst owner
      exact owner_answer recovered target answer config now listed owned named surplus spared
    · exact surplus_answer recovered target answer config now shared listed owned running named
        mine surplus spared

/-- The views of the other cluster services do not change. -/
private theorem shared_elsewhere (config : Config R) (now : Int) {other : ServiceKind}
    (shared : other.clusterWide = true) (different : other ≠ kind) (hostname : String) :
    SharedView hosts live other (seen ++ [.statusUpdate now status])
      (out ++ (inputStep config s (.statusUpdate now status)).out)
      ((QuobyteMesos.statusUpdate (R := R) s now status).1.record hostname other) := by
  rw [record_statusUpdate_other target (fun same => absurd same different)]
  refine (recovered.shared other hostname shared).keep rfl rfl ?_ ?_
  · intro host' answered
    exact (heard_answer (target_iff.mp target).1 answered).resolve_right fun here =>
      different here.1
  · intro host'
    apply other_spared recovered target answer config now
    exact fun same => different (taskId_injective same).1

omit [Resources R] answer recovered in
/-- The records of the other core services do not change. -/
private theorem core_elsewhere {other : ServiceKind} (isCore : other.core = true)
    (elsewhere : ¬ (other = kind ∧ hostname = host)) :
    (QuobyteMesos.statusUpdate (R := R) s now status).1.record hostname other =
      s.record hostname other := by
  apply record_statusUpdate_other target
  rintro rfl
  exact ⟨ServiceKind.clusterWide_of_core isCore, fun same => elsewhere ⟨rfl, same⟩⟩

end Answer

private theorem recovered_answered (plain : ∀ host ∈ hosts, '-' ∉ host.toList)
    (recovered : Recovered hosts live seen out s)
    (truthful : Truthful hosts live (.statusUpdate now status : Input R))
    (stepped : (inputStep config s (.statusUpdate now status)).next = some s') :
    Recovered hosts live (seen ++ [.statusUpdate now status])
      (out ++ (inputStep config s (.statusUpdate now status)).out) s' := by
  have wanted := wanted_step recovered truthful stepped
  have unprobed := unprobed_step recovered truthful stepped
  have records := record_inv_step recovered.records stepped
  have probers := only_probers recovered stepped
  obtain ⟨kind, host, service, member, id, answer⟩ := truthful
  have target : statusTarget status.taskId = some (kind, host) :=
    target_iff.mpr ⟨id, plain host member⟩
  cases stepped
  refine ⟨wanted, unprobed, records, ?_, ?_, ?_, ?_, ?_⟩
  · intro other hostname isCore listed answered
    by_cases here : other = kind ∧ hostname = host
    · obtain ⟨rfl, rfl⟩ := here
      exact core_answer recovered target answer isCore
    · rw [core_elsewhere target isCore here]
      exact recovered.core other hostname isCore listed
        ((heard_answer id answered).resolve_right here)
  · intro other hostname isCore running
    by_cases here : other = kind ∧ hostname = host
    · obtain ⟨rfl, rfl⟩ := here
      rw [core_answer recovered target answer isCore] at running
      by_contra absent
      rw [if_neg absent] at running
      cases running
    · rw [core_elsewhere target isCore here] at running
      exact recovered.alive other hostname isCore running
  · intro other hostname shared
    by_cases same : other = kind
    · subst other
      rw [record_shared shared hostname host]
      exact shared_answer recovered target answer config now shared member
    · exact shared_elsewhere recovered target answer config now shared same hostname
  · intro killedId among
    rcases mem_killed_append.mp among with earlier | latest
    · exact recovered.kills killedId earlier
    · obtain ⟨shared, alive, same⟩ :=
        surplus_killed recovered target answer config now service latest
      exact ⟨kind, host, shared, member, alive, same⟩
  · intro launchedId among
    exact mem_launched_append recovered.quiet probers among

/-- Every truthful input keeps what holds during the recovery. -/
theorem recovered_step (plain : ∀ host ∈ hosts, '-' ∉ host.toList)
    (recovered : Recovered hosts live seen out s) (truthful : Truthful hosts live input)
    (stepped : (inputStep config s input).next = some s') :
    Recovered hosts live (seen ++ [input]) (out ++ (inputStep config s input).out) s' := by
  cases input with
  | offer now offer =>
    exact recovered_unanswered recovered truthful stepped (by rintro _ _ ⟨⟩)
      (offer_spares recovered stepped)
  | statusUpdate now status => exact recovered_answered plain recovered truthful stepped
  | registered | reregistered =>
    exact recovered_unanswered recovered truthful stepped (by rintro _ _ ⟨⟩) rfl
  | frameworkMessage | postVersion => cases truthful

/-- A task that a record names is not replaced. -/
private theorem named_stays (recovered : Recovered hosts live seen out s)
    (truthful : Truthful hosts live input) (stepped : (inputStep config s input).next = some s')
    (named : (s.record hostname kind).taskId ≠ "") :
    (s'.record hostname kind).taskId = (s.record hostname kind).taskId := by
  have running := (recovered.records.running hostname kind).mp named
  have step := record_step stepped hostname kind
  generalize s'.record hostname kind = after at step ⊢
  cases step with
  | kept state id => exact id
  | launched _ _ _ idle =>
    rw [running] at idle
    cases idle
  | proberStarted _ _ _ _ id => exact id
  | seen _ _ _ _ accepted => simpa [acceptsUpdate, named, recordSeen] using accepted
  | @terminated now status host _ target here terminal _ accepted =>
    have id := (target_iff.mp target).1
    have mine : status.taskId = (s.record hostname kind).taskId := by
      simpa [acceptsUpdate, named] using accepted
    obtain ⟨other, host', service, _, id', answer⟩ := truthful
    obtain ⟨rfl, rfl⟩ := taskId_injective (id'.symm.trans id)
    have absent : live other host' = false := by
      by_contra alive
      rw [if_pos (Bool.of_not_eq_false alive)] at answer
      rw [answer] at terminal
      cases terminal
    rcases service with isCore | shared
    · have alive := recovered.alive other hostname isCore running
      rcases here with shared | rfl
      · rw [ServiceKind.clusterWide_of_core isCore] at shared
        cases shared
      · rw [absent] at alive
        cases alive
    · cases recovered.shared other hostname shared with
      | idle _ unnamed => exact absurd unnamed named
      | held owner _ alive _ names =>
        obtain ⟨_, rfl⟩ := taskId_injective (id.symm.trans (mine.trans names))
        rw [absent] at alive
        cases alive

omit [Resources R] in
/-- A task that a record names has not been killed. -/
private theorem named_spared (recovered : Recovered hosts live seen out s)
    (named : (s.record hostname kind).taskId ≠ "") :
    (s.record hostname kind).taskId ∉ killed out := by
  intro among
  obtain ⟨other, host, shared, _, _, id⟩ := recovered.kills _ among
  by_cases same : kind = other
  · subst other
    cases recovered.shared kind hostname shared with
    | idle _ unnamed => exact named unnamed
    | held owner _ _ _ names _ spared =>
      rw [names] at among
      exact spared among
  · have own : kind.clusterWide = false := by
      by_contra isShared
      obtain ⟨key, _, names⟩ := recovered.records.shared hostname kind
        (Bool.of_not_eq_false isShared) named
      exact same (taskId_injective (names.symm.trans id)).1
    have names := recovered.records.own hostname kind own named
    exact same (taskId_injective (names.symm.trans id)).1

/-! ### All answers heard -/

/-- The records agree with the cluster, the surplus instances of the cluster
services are the tasks killed, and nothing but probers was launched. -/
structure Agrees (hosts : Finset String) (live : ServiceKind → String → Bool)
    (out : List (Event R)) (s : Scheduler) : Prop where
  core : ∀ kind, kind.core = true → ∀ host ∈ hosts,
    (s.record host kind).state = if live kind host then .running else .notRunning
  absent : ∀ kind hostname, kind.clusterWide = true → (∀ host ∈ hosts, live kind host = false) →
    (s.record hostname kind).state = .notRunning
  single : ∀ kind hostname, kind.clusterWide = true → (∃ host ∈ hosts, live kind host = true) →
    ∃ owner ∈ hosts, live kind owner = true ∧ (s.record hostname kind).state = .running ∧
      (s.record hostname kind).taskId = taskId kind owner ∧
      ∀ host ∈ hosts, live kind host = true → host ≠ owner → taskId kind host ∈ killed out
  surplus : ∀ id ∈ killed out, ∃ kind host, kind.clusterWide = true ∧ host ∈ hosts ∧
    live kind host = true ∧ id = taskId kind host
  probers : ∀ id ∈ out.flatMap Event.launched, ∃ host, id = taskId .prober host

omit [Resources R] in
private theorem agrees_of_heard (recovered : Recovered hosts live seen out s)
    (some : hosts.Nonempty)
    (covered : ∀ kind host, kind.core = true ∨ kind.clusterWide = true → host ∈ hosts →
      Heard kind host seen) : Agrees hosts live out s := by
  constructor
  · intro kind isCore host member
    exact recovered.core kind host isCore member (covered kind host (.inl isCore) member)
  · intro kind hostname shared absent
    cases recovered.shared kind hostname shared with
    | idle _ _ settled =>
      obtain ⟨host, member⟩ := some
      exact settled ⟨host, member, covered kind host (.inr shared) member⟩
    | held owner listed alive =>
      rw [absent owner listed] at alive
      cases alive
  · intro kind hostname shared present
    cases recovered.shared kind hostname shared with
    | idle none =>
      obtain ⟨host, member, alive⟩ := present
      rw [none host member (covered kind host (.inr shared) member)] at alive
      cases alive
    | held owner listed alive running named surplus =>
      refine ⟨owner, listed, alive, running, named, ?_⟩
      intro host member alive different
      exact surplus host member (covered kind host (.inr shared) member) alive different
  · exact recovered.kills
  · exact recovered.quiet

/-! ### No answer ends the process -/

private theorem not_started {service : ServiceKind} {node : NodeState}
    {state : ServiceState.TaskState} (unprobed : node.deviceTypesValid = false) :
    doStartService service node state = false := by
  simp [doStartService, unprobed]

private theorem start_services_unprobed {targetVersion : String} {offer : Offer R}
    {round : LaunchRound R} (unprobed : round.records.node.deviceTypesValid = false) :
    startServices config targetVersion offer round = .ok round := by
  have cluster : ∀ kind rpcPort httpPort,
      startClusterService config targetVersion offer kind rpcPort httpPort round = .ok round := by
    intro kind rpcPort httpPort
    simp [startClusterService, not_started unprobed]
  have core : ∀ kind rpcPort httpPort,
      startCoreService config targetVersion offer kind rpcPort httpPort round = .ok round := by
    intro kind rpcPort httpPort
    simp [startCoreService, not_started unprobed]
  have s3 : startS3 config targetVersion offer round = .ok round := by
    unfold startS3
    split
    · rfl
    · exact cluster _ _ _
  have client : startClient config offer round = round := by
    simp [startClient, not_started unprobed]
  have devices : ∀ devices, startDevices config targetVersion offer devices round = .ok round := by
    intro devices
    induction devices with
    | nil => rfl
    | cons device devices ih =>
      have first : startDevice config targetVersion offer device round = .ok round := by
        cases device with
        | registry | metadata | data => exact core _ _ _
        | bootstrap | client | other => rfl
      rw [startDevices, first]
      exact ih
  rw [startServices, startApi, cluster]
  show (startS3 config targetVersion offer round).bind _ = _
  rw [s3]
  show (startWebconsole config targetVersion offer round).bind _ = _
  rw [startWebconsole, cluster]
  show startDevices config targetVersion offer _ (startClient config offer round) = _
  rw [client, devices]

private theorem recovery_continues (image : config.flags.frameworkImage ≠ "")
    (recovered : Recovered hosts live seen out s) (truthful : Truthful hosts live input) :
    ∃ s', (inputStep config s input).next = some s' := by
  cases input with
  | statusUpdate | registered | reregistered => exact ⟨_, rfl⟩
  | frameworkMessage | postVersion => cases truthful
  | offer now offer =>
    have answered : ∃ answer, handleOffer config s now offer = .ok answer := by
      unfold handleOffer
      split
      · exact ⟨_, rfl⟩
      · split
        · exact ⟨_, rfl⟩
        · rename_i node known
          have unprobed := recovered.unprobed offer.hostname
          rw [Scheduler.node, known] at unprobed
          unfold handleKnownHost
          split
          · rw [launchProber, createProberTaskInfo, if_neg image]
            exact ⟨_, rfl⟩
          · split
            · exact ⟨_, rfl⟩
            · split
              · rw [launchServices, start_services_unprobed unprobed]
                exact ⟨_, rfl⟩
              · exact ⟨_, rfl⟩
    obtain ⟨⟨s', calls⟩, handled⟩ := answered
    exact ⟨s', by rw [inputStep, handled]; rfl⟩

private theorem recovered_run (plain : ∀ host ∈ hosts, '-' ∉ host.toList)
    (recovered : Recovered hosts live seen out s)
    (truthful : ∀ input ∈ inputs, Truthful hosts live input)
    (ran : (run (inputStep config) s inputs).next = some s') :
    Recovered hosts live (seen ++ inputs) (out ++ (run (inputStep config) s inputs).out) s' ∧
      ∀ hostname kind, (s.record hostname kind).taskId ≠ "" →
        (s'.record hostname kind).taskId = (s.record hostname kind).taskId := by
  have keeps : ∀ seen out middle input next, (Recovered hosts live seen out middle ∧
      ∀ hostname kind, (s.record hostname kind).taskId ≠ "" →
        (middle.record hostname kind).taskId = (s.record hostname kind).taskId) →
      Truthful hosts live input → (inputStep config middle input).next = some next →
      Recovered hosts live (seen ++ [input]) (out ++ (inputStep config middle input).out) next ∧
        ∀ hostname kind, (s.record hostname kind).taskId ≠ "" →
          (next.record hostname kind).taskId = (s.record hostname kind).taskId := by
    intro seen out middle input next before truthful stepped
    obtain ⟨recovered, same⟩ := before
    refine ⟨recovered_step plain recovered truthful stepped, ?_⟩
    intro hostname kind named
    have kept := same hostname kind named
    rw [← kept] at named ⊢
    exact named_stays recovered truthful stepped named
  exact run_history _ keeps ⟨recovered, fun _ _ _ => rfl⟩ (throughout_of_all truthful) ran

/-- Whatever the order of the truthful answers, and however often they come: the
process goes on, once every answer has been heard the records agree with the
cluster, and a task that a record names at any moment is not killed. -/
theorem recovery_order_independent (config : Config R) (state : SchedulerState)
    (wanted : state.targetVersion ≠ "") (hosts : Finset String) (some : hosts.Nonempty)
    (plain : ∀ host ∈ hosts, '-' ∉ host.toList) (live : ServiceKind → String → Bool)
    (callbacks : List (Callback R))
    (truthful : ∀ input ∈ callbacks.flatMap Callback.inputs, Truthful hosts live input)
    (covered : ∀ kind host, kind.core = true ∨ kind.clusterWide = true → host ∈ hosts →
      Heard kind host (callbacks.flatMap Callback.inputs)) :
    (config.flags.frameworkImage ≠ "" →
      ∃ s, (run (callbackStep config) (Scheduler.fresh state) callbacks).next = .some s) ∧
    ∀ s, (run (callbackStep config) (Scheduler.fresh state) callbacks).next = .some s →
      Agrees hosts live (run (callbackStep config) (Scheduler.fresh state) callbacks).out s ∧
      ∀ before after middle, callbacks = before ++ after →
        (run (callbackStep config) (Scheduler.fresh state) before).next = .some middle →
        ∀ hostname kind, (middle.record hostname kind).taskId ≠ "" →
          (middle.record hostname kind).taskId ∉
            killed (run (callbackStep config) (Scheduler.fresh state) callbacks).out := by
  have start := recovered_fresh (R := R) hosts live wanted
  simp only [callback_runs]
  constructor
  · intro image
    refine run_continues (fun s => ∃ seen out, Recovered hosts live seen out s) ?_
      ⟨_, _, start⟩ truthful
    rintro s input ⟨seen, out, recovered⟩ allowed
    obtain ⟨s', stepped⟩ := recovery_continues image recovered allowed
    exact ⟨s', stepped, _, _, recovered_step plain recovered allowed stepped⟩
  · intro s ran
    have ended := (recovered_run plain start truthful ran).1
    simp only [List.nil_append] at ended
    refine ⟨agrees_of_heard ended some covered, ?_⟩
    rintro before after middle rfl reached hostname kind named
    rw [List.flatMap_append] at ran truthful ended
    have first := (recovered_run plain start
      (fun input member => truthful input (List.mem_append_left _ member)) reached).1
    have whole := run_append_next reached (after.flatMap Callback.inputs)
    have later : (run (inputStep config) middle (after.flatMap Callback.inputs)).next = .some s := by
      rw [whole] at ran
      exact ran
    have same := (recovered_run plain first
      (fun input member => truthful input (List.mem_append_right _ member)) later).2 hostname kind named
    rw [← same] at named ⊢
    rw [List.flatMap_append]
    exact named_spared ended named

/-- Two hosts, an api on each and a registry on the first. -/
def twoApis : ServiceKind → String → Bool
  | .api, _ => true
  | .registry, host => host = "h1"
  | _, _ => false

def answeredKinds : List ServiceKind := [.registry, .metadata, .data, .api, .s3, .webconsole]

private theorem mem_answeredKinds :
    kind ∈ answeredKinds ↔ kind.core = true ∨ kind.clusterWide = true := by
  cases kind <;> decide

/-- An offer, then an answer for every service of the second host and of the
first. -/
def twoApisAnswered : List (Callback TextResources) :=
  .resourceOffers [(1, wideOffer "o1" "h1")] ::
    ["h2", "h1"].flatMap fun host => answeredKinds.map fun kind =>
      .statusUpdate 2 {
        taskId := taskId kind host
        state := if twoApis kind host then .running else .lost }

private theorem two_apis_inputs : twoApisAnswered.flatMap Callback.inputs =
    .offer 1 (wideOffer "o1" "h1") ::
      ["h2", "h1"].flatMap fun host => answeredKinds.map fun kind =>
        .statusUpdate 2 {
          taskId := taskId kind host
          state := if twoApis kind host then .running else .lost } := rfl

/-- The api of the second host, heard of first, is kept and the other one killed. -/
theorem two_apis_recovered : ∃ s,
    (run (callbackStep defaultConfig) (Scheduler.fresh { targetVersion := "1" })
      twoApisAnswered).next = some s ∧
    Agrees {"h1", "h2"} twoApis (run (callbackStep defaultConfig)
      (Scheduler.fresh { targetVersion := "1" }) twoApisAnswered).out s := by
  have truthful : ∀ input ∈ twoApisAnswered.flatMap Callback.inputs,
      Truthful {"h1", "h2"} twoApis input := by
    intro input member
    rw [two_apis_inputs] at member
    rcases List.mem_cons.mp member with rfl | answer
    · exact Finset.mem_insert_self _ _
    · obtain ⟨host, listed, answer⟩ := List.mem_flatMap.mp answer
      obtain ⟨kind, service, rfl⟩ := List.mem_map.mp answer
      refine ⟨kind, host, mem_answeredKinds.mp service, ?_, rfl, rfl⟩
      simpa [or_comm] using listed
  have covered : ∀ kind host, kind.core = true ∨ kind.clusterWide = true →
      host ∈ ({"h1", "h2"} : Finset String) →
        Heard kind host (twoApisAnswered.flatMap Callback.inputs) := by
    intro kind host service member
    rw [two_apis_inputs]
    refine ⟨2, _, List.mem_cons_of_mem _ (List.mem_flatMap.mpr ⟨host, ?_,
      List.mem_map.mpr ⟨kind, mem_answeredKinds.mpr service, rfl⟩⟩), rfl⟩
    simpa [or_comm] using member
  have recovery := recovery_order_independent defaultConfig { targetVersion := "1" } (by decide)
    {"h1", "h2"} ⟨"h1", by decide⟩ (by decide +kernel) twoApis twoApisAnswered truthful covered
  obtain ⟨s, ran⟩ := recovery.1 (by decide)
  exact ⟨s, ran, (recovery.2 s ran).1⟩

end QuobyteMesos.Recovery
