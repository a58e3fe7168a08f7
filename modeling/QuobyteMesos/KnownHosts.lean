import QuobyteMesos.NodeSteps

/-! What is kept about a host once it is known, and how often it is probed.

An entry carries two clock readings, of the latest probe and of the latest offer.
`times_step` lists what an input can make of them: only a probe renews the first,
and only behind the interval. Over a clock that does not run backwards both only
grow, and the readings that consecutive probes leave are further apart than the
interval (`Machine.readings_chain`). -/
namespace QuobyteMesos

/-- The clock readings of an entry. -/
structure NodeTimes where
  lastProbeS : Int := 0
  lastOfferS : Int := 0
  deriving DecidableEq, Repr

def NodeState.times (node : NodeState) : NodeTimes := ⟨node.lastProbeS, node.lastOfferS⟩

/-- The readings of the entry of a host, if it has one. -/
def Scheduler.times (s : Scheduler) (hostname : String) : Option NodeTimes :=
  s.nodes[hostname]?.map NodeState.times

/-- The same, with no readings for a host that has no entry. -/
def Scheduler.lastTimes (s : Scheduler) (hostname : String) : NodeTimes :=
  (s.times hostname).getD {}

/-- The clock readings an input is handled under. -/
def SchedulerRuns.Input.readings {R : Type} : SchedulerRuns.Input R → List Int
  | .offer now _ | .statusUpdate now _ | .frameworkMessage now .. => [now]
  | .registered _ | .reregistered | .postVersion _ => []

namespace KnownHosts
open Mesos Machine SchedulerRuns SchedulerSteps NodeSteps LaunchSteps

variable {R : Type} {s s' : Scheduler} {hostname host : String} {kind : ServiceKind}
variable {node : NodeState} {records : Records} {now : Int} {status : TaskStatus} {input : Input R}

/-! ### Readings under one input -/

/-- A probe is requested. -/
def isProbe : Event R → Bool
  | .called (.sendFrameworkMessage ..) => true
  | .called (.launchTasks ..) | .called (.declineOffer _) | .called (.killTask _)
  | .called (.reconcileTasks _) | .delivered _ => false

/-- The input is an offer of the host that a probe is requested on. -/
def probes (hostname : String) (input : Input R) (out : List (Event R)) : Bool :=
  match input with
  | .offer _ offer => offer.hostname = hostname && out.any isProbe
  | .statusUpdate .. | .frameworkMessage .. | .registered _ | .reregistered | .postVersion _ => false

@[simp] theorem times_setService {service : ServiceState} :
    (records.setService kind service).node.times = records.node.times := by
  cases kind <;> rfl

/-- Only the host written to has new readings. -/
theorem times_store (s : Scheduler) (records : Records) (hostname host : String) :
    (s.store hostname records).times host =
      if hostname = host then some records.node.times else s.times host := by
  simp only [Scheduler.times, Scheduler.store, Std.ExtTreeMap.getElem?_insert,
    Std.compare_eq_iff_eq]
  split <;> rfl

theorem times_of_node (known : s.nodes[hostname]? = some node) :
    s.times hostname = some node.times := by
  rw [Scheduler.times, known, Option.map_some]

/-- A new entry has no readings yet. -/
theorem times_createHost (s : Scheduler) (hostname slaveId host : String) :
    (s.createHost hostname slaveId).times host =
      if hostname = host ∧ s.times hostname = none then some {} else s.times host := by
  have absent : s.times hostname = none ↔ hostname ∉ s.nodes := by
    rw [Scheduler.times, Option.map_eq_none_iff, Std.ExtTreeMap.mem_iff_isSome_getElem?]
    simp
  simp only [absent]
  simp only [Scheduler.times, Scheduler.createHost, Std.ExtTreeMap.getElem?_insertIfNew,
    Std.compare_eq_iff_eq]
  split <;> rfl

variable [Resources R] {config : Config R}

/-- The readings for a host after an input, and whether it requests a probe of the
host. -/
inductive TimesStep (config : Config R) (s : Scheduler) (hostname : String) :
    Input R → Bool → Option NodeTimes → Prop where
  | kept {input : Input R} : TimesStep config s hostname input false (s.times hostname)
  | added {input : Input R} (absent : s.times hostname = none) :
      TimesStep config s hostname input false (some {})
  | offered {now : Int} {offer : Offer R} {times : NodeTimes}
      (known : s.times hostname = some times) :
      TimesStep config s hostname (.offer now offer) false (some { times with lastOfferS := now })
  | probed {now : Int} {offer : Offer R} {times : NodeTimes}
      (known : s.times hostname = some times)
      (due : config.flags.probeIntervalS < now - times.lastProbeS) :
      TimesStep config s hostname (.offer now offer) true (some ⟨now, now⟩)

private theorem created_step (slaveId : String) :
    TimesStep config s host input false ((s.createHost hostname slaveId).times host) := by
  rw [times_createHost]
  split
  · rename_i created
    obtain ⟨rfl, absent⟩ := created
    exact .added absent
  · exact .kept

private theorem update_step :
    TimesStep config s hostname (.statusUpdate now status : Input R) false
      ((statusUpdate (R := R) s now status).1.times hostname) := by
  cases target : statusTarget status.taskId with
  | none =>
    rcases (statusUpdate_of_no_target (R := R) s now target).2 with same | ⟨host, created⟩
    · rw [same]
      exact .kept
    · rw [created]
      exact created_step status.slaveId
  | some found =>
    obtain ⟨kind, host⟩ := found
    obtain ⟨node, known, ran⟩ := statusUpdate_of_target (R := R) s now target
    have same : ((s.createHost host status.slaveId).store host
        (updateService (R := R) now status kind
          ((s.createHost host status.slaveId).records node)).1).times hostname =
        (s.createHost host status.slaveId).times hostname := by
      rw [times_store, updateService_eq, times_setService]
      split
      · rename_i here
        rw [← here, times_of_node known]
        rfl
      · rfl
    rw [ran, same]
    exact created_step status.slaveId

private theorem message_step (slaveId : String) (data : Option ProbeResponse) :
    TimesStep config s hostname (.frameworkMessage now slaveId data : Input R) false
      ((frameworkMessage s now slaveId data).times hostname) := by
  have same : (frameworkMessage s now slaveId data).times hostname = s.times hostname := by
    cases data with
    | none => rfl
    | some response =>
      rw [Scheduler.times, nodes_frameworkMessage, Option.map_map, Scheduler.times]
      congr 1
      funext node
      simp only [Function.comp]
      split <;> rfl
  rw [same]
  exact .kept

private theorem known_after_store (hostname : String) (records : Records) (slaveId : String) :
    (s.store hostname records).createHost hostname slaveId = s.store hostname records :=
  createHost_known (by simp [Scheduler.store]) slaveId

omit [Resources R] in
private theorem quiet_calls {offer : Offer R} {calls : List (DriverCall R)}
    (quiet : ∀ call ∈ calls, isProbe (.called call) = false) :
    probes hostname (.offer now offer) (calls.map .called) = false := by
  have none : (calls.map Event.called).any isProbe = false := by simpa using quiet
  simp only [probes, none, Bool.and_false]

private theorem offer_times (offer : Offer R)
    (stepped : (inputStep config s (.offer now offer)).next = some s') :
    TimesStep config s hostname (.offer now offer)
      (probes hostname (.offer now offer) (inputStep config s (.offer now offer)).out)
      (s'.times hostname) := by
  obtain ⟨calls, answered, out⟩ := offer_step stepped
  have offered {node : NodeState} (known : s.nodes[offer.hostname]? = some node)
      {records : Records} (same : records.node.times = ⟨node.lastProbeS, now⟩) :
      TimesStep config s hostname (.offer now offer) false
        ((s.store offer.hostname records).times hostname) := by
    rw [times_store]
    split
    · rename_i here
      subst here
      rw [same]
      exact .offered (times_of_node known)
    · exact .kept
  rw [out]
  cases answered with
  | restricted =>
    rw [quiet_calls (by simp [isProbe])]
    exact .kept
  | discovered =>
    rw [quiet_calls (by simp [isProbe, reconcileHost])]
    exact created_step offer.slaveId
  | prober node known =>
    rw [quiet_calls (by simp [isProbe])]
    exact offered known rfl
  | probe node known due =>
    -- the entry is there when the reconciliation asks for it to be created
    have again : (triggerProbe config s now offer { node with lastOfferS := now }).1 =
        s.store offer.hostname (s.records { node with lastOfferS := now, lastProbeS := now }) :=
      known_after_store _ _ _
    have asked : (((triggerProbe config s now offer { node with lastOfferS := now }).2.map
        Event.called).any isProbe) = true := by
      simp [triggerProbe, isProbe]
    simp only [probeDue, Bool.and_eq_true, decide_eq_true_eq] at due
    rw [again, times_store]
    simp only [probes, asked, Bool.and_true]
    by_cases here : offer.hostname = hostname
    · subst here
      simp only [decide_true, if_true]
      exact .probed (times_of_node known) due.2
    · simp only [here, decide_false, if_false]
      exact .kept
  | @launch node round due ran =>
    have progress := progress_steps (start_services_steps ran)
    have same : round.records.node.times = ⟨node.lastProbeS, now⟩ := by
      rw [progress.node]
      rfl
    rw [quiet_calls (by intro call made; split at made <;> simp_all [isProbe])]
    exact offered due.known same
  | shutdown node known =>
    have kills : ∀ call ∈ killServices offer.hostname (s.records { node with lastOfferS := now }) ++
        [DriverCall.declineOffer (R := R) offer.id], isProbe (.called call) = false := by
      intro call made
      rcases List.mem_append.mp made with killed | declined
      · obtain ⟨id, rfl⟩ := killServices_kills killed
        rfl
      · rw [List.mem_singleton.mp declined]
        rfl
    rw [quiet_calls kills]
    exact offered known rfl

/-- Every input keeps the readings for a host, adds an entry without any, renews
that of the latest offer, or requests a probe that has become due. -/
theorem times_step (stepped : (inputStep config s input).next = some s') (hostname : String) :
    TimesStep config s hostname input (probes hostname input (inputStep config s input).out)
      (s'.times hostname) := by
  cases input with
  | offer now offer => exact offer_times offer stepped
  | statusUpdate now status =>
    cases stepped
    exact update_step
  | frameworkMessage now slaveId data =>
    cases stepped
    exact message_step slaveId data
  | registered | reregistered | postVersion =>
    cases stepped
    exact .kept

/-! ### Readings along a run -/

/-- The clock does not run backwards, nor does it start before its epoch, which is
what a reading not yet taken counts as. -/
def Clocked (inputs : List (Input R)) : Prop :=
  (0 :: inputs.flatMap Input.readings).Pairwise (· ≤ ·)

/-- A later entry of a host against an earlier one. -/
structure Remembers (before after : NodeState) : Prop where
  devices : before.deviceTypesValid = true → after.deviceTypesValid = true
  probe : before.lastProbeS ≤ after.lastProbeS
  offer : before.lastOfferS ≤ after.lastOfferS

private theorem lastTimes_step (stepped : (inputStep config s input).next = some s')
    (hostname : String) :
    (s'.lastTimes hostname).lastProbeS ∈ (s.lastTimes hostname).lastProbeS :: input.readings ∧
      (s'.lastTimes hostname).lastOfferS ∈ (s.lastTimes hostname).lastOfferS :: input.readings := by
  have step := times_step stepped hostname
  simp only [Scheduler.lastTimes]
  generalize s'.times hostname = after at step ⊢
  generalize probes hostname input _ = sent at step
  cases step with
  | kept => simp
  | added absent => simp [absent]
  | offered known => simp [known, Input.readings]
  | probed known due => simp [known, Input.readings]

/-- Every reading of an entry was there at the start of the run or taken during
it. -/
theorem lastTimes_run {inputs : List (Input R)}
    (ran : (run (inputStep config) s inputs).next = some s') (hostname : String) :
    (s'.lastTimes hostname).lastProbeS ∈
        (s.lastTimes hostname).lastProbeS :: inputs.flatMap Input.readings ∧
      (s'.lastTimes hostname).lastOfferS ∈
        (s.lastTimes hostname).lastOfferS :: inputs.flatMap Input.readings := by
  have unconditional : Throughout (fun _ _ _ => True) (inputStep config) s inputs :=
    fun _ _ _ _ _ _ => trivial
  refine run_fed (fun seen s' => (s'.lastTimes hostname).lastProbeS ∈
      (s.lastTimes hostname).lastProbeS :: seen.flatMap Input.readings ∧
    (s'.lastTimes hostname).lastOfferS ∈
      (s.lastTimes hostname).lastOfferS :: seen.flatMap Input.readings) ?_ (by simp) unconditional ran
  intro seen middle input after held _ stepped
  have step := lastTimes_step stepped hostname
  simp only [List.flatMap_append, List.flatMap_singleton, List.mem_cons, List.mem_append] at *
  constructor
  · grind
  · grind

private theorem devices_step {node : NodeState} (known : s.nodes[hostname]? = some node)
    (valid : node.deviceTypesValid = true) (stepped : (inputStep config s input).next = some s') :
    ∃ after, s'.nodes[hostname]? = some after ∧ after.deviceTypesValid = true := by
  have before : s.facts hostname = some node.facts := by rw [Scheduler.facts, known]; rfl
  have step := node_step stepped hostname
  have after : ∃ facts, s'.facts hostname = some facts ∧ facts.deviceTypesValid = true := by
    generalize s'.facts hostname = found at step
    cases step with
    | kept => exact ⟨_, before, valid⟩
    | added slaveId absent => rw [before] at absent; cases absent
    | probed => exact ⟨_, rfl, rfl⟩
  obtain ⟨facts, found, still⟩ := after
  obtain ⟨entry, present, rfl⟩ := Option.map_eq_some_iff.mp found
  exact ⟨entry, present, still⟩

/-- An entry is never removed, and knows its devices for good once it does. -/
theorem devices_run {inputs : List (Input R)} {node : NodeState}
    (known : s.nodes[hostname]? = some node)
    (ran : (run (inputStep config) s inputs).next = some s') :
    ∃ after, s'.nodes[hostname]? = some after ∧
      (node.deviceTypesValid = true → after.deviceTypesValid = true) := by
  have present : hostname ∈ s.nodes := by
    rw [Std.ExtTreeMap.mem_iff_isSome_getElem?, known]
    rfl
  have kept : ∀ s (input : Input R) s', hostname ∈ s.nodes →
      (inputStep config s input).next = some s' → hostname ∈ s'.nodes :=
    fun s input s' held stepped => mem_nodes_step stepped held
  have still := run_invariant kept present ran
  obtain ⟨after, found⟩ := Option.isSome_iff_exists.mp
    (Std.ExtTreeMap.mem_iff_isSome_getElem?.mp still)
  refine ⟨after, found, fun valid => ?_⟩
  have valid_kept : ∀ s (input : Input R) s',
      (∃ entry, s.nodes[hostname]? = some entry ∧ entry.deviceTypesValid = true) →
      (inputStep config s input).next = some s' →
      ∃ entry, s'.nodes[hostname]? = some entry ∧ entry.deviceTypesValid = true := by
    rintro s input s' ⟨entry, here, already⟩ stepped
    exact devices_step here already stepped
  obtain ⟨entry, here, already⟩ := run_invariant valid_kept ⟨node, known, valid⟩ ran
  rw [found] at here
  cases here
  exact already

/-- A reading carried from one part of a run to the next has not passed what the
clock shows there. -/
private theorem reading_grows {start middle last : Int} {before after : List Int}
    (clock : (start :: (before ++ after)).Pairwise (· ≤ ·)) (then' : middle ∈ start :: before)
    (now : last ∈ middle :: after) : middle ≤ last := by
  rcases List.mem_cons.mp now with rfl | later
  · exact le_refl _
  · rw [← List.cons_append] at clock
    exact (List.pairwise_append.mp clock).2.2 middle then' last later

/-! ### Probes of one host -/

/-- The reading an entry is left with by the request of a probe. -/
def probeReading (hostname : String) (input : Input R) (outcome : Outcome Scheduler (Event R)) :
    Option Int :=
  if probes hostname input outcome.out then
    outcome.next.map fun s => (s.lastTimes hostname).lastProbeS
  else
    none

/-- The readings that the probes of a host leave, in order. -/
def probeTimes (config : Config R) (hostname : String) (s : Scheduler) (inputs : List (Input R)) :
    List Int :=
  readings (probeReading hostname) (inputStep config) s inputs

/-- The entry of the host holds the reading of its latest probe. -/
private def Recorded (hostname : String) (s : Scheduler) (latest : Int) : Prop :=
  ∃ times, s.times hostname = some times ∧ times.lastProbeS = latest

private theorem recorded_kept {latest : Int} (stepped : (inputStep config s input).next = some s')
    (unread : probeReading hostname input (inputStep config s input) = none)
    (recorded : Recorded hostname s latest) : Recorded hostname s' latest := by
  obtain ⟨times, known, rfl⟩ := recorded
  have step := times_step stepped hostname
  unfold probeReading at unread
  rw [stepped] at unread
  unfold Recorded
  generalize probes hostname input (inputStep config s input).out = sent at step unread
  generalize s'.times hostname = after at step
  cases step with
  | kept => exact ⟨times, known, rfl⟩
  | added absent => rw [known] at absent; cases absent
  | offered before =>
    rw [known] at before
    cases before
    exact ⟨_, rfl, rfl⟩
  | probed => simp at unread

private theorem recorded_renewed {new : Int}
    (read : probeReading hostname input (inputStep config s input) = some new) :
    (∀ latest, Recorded hostname s latest → config.flags.probeIntervalS < new - latest) ∧
      ∀ s', (inputStep config s input).next = some s' → Recorded hostname s' new := by
  unfold probeReading at read
  cases stepped : (inputStep config s input).next with
  | none => simp [stepped] at read
  | some s' =>
    have step := times_step stepped hostname
    rw [stepped] at read
    unfold Recorded
    simp only [Option.map_some, Scheduler.lastTimes] at read
    generalize probes hostname input (inputStep config s input).out = sent at step read
    simp only [Option.some.injEq, forall_eq']
    generalize s'.times hostname = after at step read ⊢
    cases step with
    | kept | added | offered => simp at read
    | probed known due =>
      simp only [if_true, Option.getD_some, Option.some.injEq] at read
      subst read
      refine ⟨?_, _, rfl, rfl⟩
      rintro latest ⟨times, before, rfl⟩
      rw [known] at before
      cases before
      exact due

/-- The readings that consecutive probes of a host leave are further apart than the
interval, whatever the clock does. -/
theorem probes_apart (config : Config R) (hostname : String) (s : Scheduler)
    (inputs : List (Input R)) :
    (probeTimes config hostname s inputs).IsChain fun earlier later =>
      config.flags.probeIntervalS < later - earlier := by
  refine (readings_chain (Recorded hostname) ?_ ?_).1
  · intro s input s' latest stepped unread recorded
    exact recorded_kept stepped unread recorded
  · intro s input new read
    exact recorded_renewed read

/-! ### Whole runs -/

/-- Between any two points of a run, batches included, no entry is lost, no entry
forgets that its devices are known, and its readings do not fall back; creating a
host that is known changes nothing; and probes of one host keep their distance. -/
theorem known_hosts_kept {state : SchedulerState} {callbacks : List (Callback R)}
    {before after : List (Input R)} (split : callbacks.flatMap Callback.inputs = before ++ after)
    (clock : Clocked (callbacks.flatMap Callback.inputs))
    (reached : (run (inputStep config) (Scheduler.fresh state) before).next = some s)
    (ran : (run (inputStep config) s after).next = some s') :
    (∀ (hostname : String) (node : NodeState), s.nodes[hostname]? = some node →
      ∃ later, s'.nodes[hostname]? = some later ∧ Remembers node later) ∧
    (∀ offer : Offer R, offer.hostname ∈ s.nodes → (reconcileHost s offer).1 = s) ∧
    ∀ hostname, (probeTimes config hostname (Scheduler.fresh state)
      (callbacks.flatMap Callback.inputs)).IsChain fun earlier later =>
        config.flags.probeIntervalS < later - earlier := by
  refine ⟨?_, fun offer present => createHost_known present offer.slaveId,
    fun hostname => probes_apart config hostname _ _⟩
  intro hostname node known
  obtain ⟨later, found, devices⟩ := devices_run known ran
  have unknown : (Scheduler.fresh state).lastTimes hostname = {} := by
    simp [Scheduler.lastTimes, Scheduler.times, Scheduler.fresh]
  have start := lastTimes_run reached hostname
  have rest := lastTimes_run ran hostname
  rw [unknown] at start
  simp only [Scheduler.lastTimes, times_of_node known, times_of_node found,
    Option.getD_some] at start rest
  rw [split, Clocked, List.flatMap_append] at clock
  exact ⟨later, found, devices, reading_grows clock start.1 rest.1, reading_grows clock start.2 rest.2⟩

/-- A host is offered, its prober reports in, and it is probed twice. -/
def probedTwice : List (Callback TextResources) :=
  [.resourceOffers [(1, wideOffer "o1" "h1")],
    .statusUpdate 2 { taskId := "quobyte-device-prober-h1", state := .running },
    .resourceOffers [(200, wideOffer "o2" "h1")],
    .frameworkMessage 201 "agent-h1" (some {}),
    .resourceOffers [(330, wideOffer "o3" "h1"), (331, wideOffer "o4" "h1")]]

/-- The two probes are 130 seconds apart, and the entry made by the first offer is
still there after the last. -/
theorem probed_twice_kept : ∃ s s' : Scheduler, ∃ node later,
    s.nodes["h1"]? = some node ∧ s'.nodes["h1"]? = some later ∧ Remembers node later ∧
    probeTimes defaultConfig "h1" (Scheduler.fresh {}) (probedTwice.flatMap Callback.inputs) =
      [200, 330] ∧
    [200, 330].IsChain fun earlier later : Int => 120 < later - earlier := by
  have clock : Clocked (probedTwice.flatMap Callback.inputs) := by
    unfold Clocked
    decide
  have entered : (run (inputStep defaultConfig) (Scheduler.fresh {})
      ((probedTwice.flatMap Callback.inputs).take 1)).next.map (fun s => s.nodes["h1"]?.isSome) =
        some true := by decide +kernel
  obtain ⟨s, reached, known⟩ := Option.map_eq_some_iff.mp entered
  obtain ⟨node, known⟩ := Option.isSome_iff_exists.mp known
  have returns : (run (inputStep defaultConfig) (Scheduler.fresh {})
      (probedTwice.flatMap Callback.inputs)).next.isSome = true := by decide +kernel
  obtain ⟨s', ended⟩ := Option.isSome_iff_exists.mp returns
  have split := (List.take_append_drop 1 (probedTwice.flatMap Callback.inputs)).symm
  rw [split, run_append_next reached] at ended
  obtain ⟨kept, _, apart⟩ := known_hosts_kept split clock reached ended
  obtain ⟨later, found, remembers⟩ := kept "h1" node known
  have times : probeTimes defaultConfig "h1" (Scheduler.fresh {})
      (probedTwice.flatMap Callback.inputs) = [200, 330] := by decide +kernel
  have chain := apart "h1"
  rw [times] at chain
  exact ⟨s, s', node, later, known, found, remembers, times, chain⟩

end KnownHosts

end QuobyteMesos
