import QuobyteMesos.CoreCompleteness
import QuobyteMesos.SiteReports

/-! How a host comes up.

The first offer of a host makes the scheduler ask about its tasks, the second one
launches its prober, the third one asks the executor for the devices, and the fourth
one launches the core services that are missing. `host_comes_up` says so for every run
in which the cluster tells the truth about this host in between; what the inputs say
about other hosts does not matter. -/
namespace QuobyteMesos.BringUp
open Mesos Machine ResourcePool SchedulerRuns SchedulerSteps HostMachine SiteReports LaunchSteps
open LaunchAgenda OfferAnswers CoreCompleteness

variable {R : Type} [Resources R] {config : Config R} {s s' : Scheduler}
variable {site : Site} {host host' : HostState} {kind : ServiceKind}
variable {now : Int} {status : TaskStatus} {offer : Offer R}
variable {prober : Int → TaskState → Prop} {answers : Int → Prop}

/-! ### The offers of the host -/

omit [Resources R] in
/-- What an offer that launches nothing else may change. -/
private theorem known_touched (known : Known site host) (touched : host' = { host with
      prober := { host.prober with
        state := host'.prober.state, lastUpdateS := host'.prober.lastUpdateS }
      lastProbeS := host'.lastProbeS, lastOfferS := host'.lastOfferS }) :
    Known site host' ∧ ∀ kind : ServiceKind, kind.core = true →
      (host'.service kind).state = (host.service kind).state := by
  have core (kind : ServiceKind) (isCore : kind.core = true) :
      host'.service kind = host.service kind := by
    rw [touched]
    cases kind <;> first | rfl | cases isCore
  have ids (kind : ServiceKind) : (host'.service kind).taskId = (host.service kind).taskId := by
    rw [touched]
    cases kind <;> rfl
  refine ⟨⟨?_, fun kind isOwn => ?_, ?_, fun kind isCore => ?_⟩, fun kind isCore => ?_⟩
  · rw [touched]
    exact known.agent
  · rw [ids]
    exact known.ids kind isOwn
  · rw [touched]
    exact known.devices
  · rw [core kind isCore]
    exact known.core kind isCore
  · rw [core kind isCore]

/-- An offer leaves the records of the core services of its host. -/
theorem settled_offer (here : offer.hostname = site.hostname) (isCore : kind.core = true)
    (stepped : (inputStep config s (.offer now offer)).next = some s')
    (settled : SettledAt site kind s) : SettledAt site kind s' := by
  obtain ⟨host, viewed, known, state⟩ := settled
  have about : concerns site.hostname (.offer now offer) = true := decide_eq_true here
  have followed := view_concerned about stepped
  rw [viewed] at followed
  have kept : ∃ host', hostStep config (some host) (.offer now offer) = some host' ∧
      Known site host' ∧ ∀ kind : ServiceKind, kind.core = true →
        (host'.service kind).state = (host.service kind).state := by
    simp only [hostStep, offerHost]
    repeat' split
    all_goals exact ⟨_, rfl, known_touched known rfl⟩
  obtain ⟨host', stepped', known', core⟩ := kept
  exact ⟨host', followed.trans stepped', known', (core kind isCore).trans state⟩

/-- The node behind the machine of a host. -/
private theorem node_of_view (viewed : view site.hostname s = some host) :
    ∃ node, s.nodes[site.hostname]? = some node ∧ hostState node = host :=
  Option.map_eq_some_iff.mp viewed

private theorem offer_out {calls : List (DriverCall R)}
    (handled : handleOffer config s now offer = .ok (s', calls)) :
    (inputStep config s (.offer now offer)).out = calls.map .called := by
  simp only [inputStep, handled]
  rfl

/-- The first offer asks about the core tasks of the host. -/
theorem first_offered (admitted : ignoresHost config.flags site.hostname = false)
    (here : offer.hostname = site.hostname) (agent : offer.slaveId = site.agent)
    (unknown : view site.hostname s = none)
    (stepped : (inputStep config s (.offer now offer)).next = some s') :
    Held site Unprobed s' ∧ ∀ kind : ServiceKind, kind.core = true →
      some (taskId kind site.hostname) ∈
        (inputStep config s (.offer now offer)).out.flatMap Event.requested := by
  have about : concerns site.hostname (.offer now offer) = true := decide_eq_true here
  have followed := view_concerned about stepped
  simp only [hostStep, here, admitted, Bool.false_eq_true, if_false, unknown, offerHost] at followed
  constructor
  · refine ⟨_, followed, ⟨agent, fun kind _ => .inl ?_, fun valid => ?_, fun kind _ => .inl ?_⟩,
      ⟨⟨?_, ?_⟩, rfl, rfl⟩⟩
    · cases kind <;> rfl
    · cases valid
    · cases kind <;> rfl
    · rintro ⟨⟩
    · rintro ⟨⟩
  · intro kind isCore
    have absent : s.nodes[offer.hostname]? = none := by
      rw [here]
      exact Option.map_eq_none_iff.mp unknown
    have answer : handleOffer config s now offer =
        .ok ((reconcileHost s offer).1, (reconcileHost s offer).2 ++ [.declineOffer offer.id]) := by
      simp only [handleOffer, here, admitted, Bool.false_eq_true, if_false]
      rw [here] at absent
      rw [absent]
    rw [offer_out answer, ← here]
    cases kind <;> cases isCore <;> simp [reconcileHost, reconciledKinds, Event.requested]

/-- An offer of a host that is known. -/
private theorem known_handled {node : NodeState} (now : Int)
    (admitted : ignoresHost config.flags site.hostname = false)
    (here : offer.hostname = site.hostname) (found : s.nodes[site.hostname]? = some node) :
    handleOffer config s now offer =
      handleKnownHost config s now offer { node with lastOfferS := now } := by
  simp only [handleOffer, here, admitted, Bool.false_eq_true, if_false, found]

private theorem known_followed (admitted : ignoresHost config.flags site.hostname = false)
    (here : offer.hostname = site.hostname) (viewed : view site.hostname s = some host)
    (stepped : (inputStep config s (.offer now offer)).next = some s') :
    view site.hostname s' = offerHost config now offer (some host) := by
  have about : concerns site.hostname (.offer now offer) = true := decide_eq_true here
  rw [view_concerned about stepped, viewed]
  simp only [hostStep, here, admitted, Bool.false_eq_true, if_false]

/-- The second offer launches the prober. -/
theorem second_offered (admitted : ignoresHost config.flags site.hostname = false)
    (here : offer.hostname = site.hostname) (held : Held site Unprobed s)
    (awaited : config.flags.probeExecutorKeepaliveIntervalS < now)
    (room : Resources.contains offer.resources (config.resources .prober) = true)
    (stepped : (inputStep config s (.offer now offer)).next = some s') :
    Held site (fun host => host.prober.state = .starting ∧ host.lastProbeS = 0) s' ∧
      ∃ task, (inputStep config s (.offer now offer)).out = [.called (.launchTasks offer.id [task])] ∧
        task.taskId = taskId .prober site.hostname := by
  obtain ⟨host, viewed, known, unprobed⟩ := held
  obtain ⟨node, found, rfl⟩ := node_of_view viewed
  have due : (proberDue config.flags now { node with lastOfferS := now } &&
      Resources.contains offer.resources (config.resources .prober)) = true := by
    have unseen : node.prober.lastSeenS = 0 := unprobed.unseen
    have resting : node.prober.state ≠ .running ∧ node.prober.state ≠ .starting := unprobed.resting
    simp only [proberDue, unseen, room, Bool.and_true, Bool.and_eq_true, decide_eq_true_eq]
    exact ⟨⟨by omega, resting.1⟩, resting.2⟩
  constructor
  · have followed := (known_followed admitted here viewed stepped).trans (if_pos due)
    exact ⟨_, followed, (known_touched known rfl).1, rfl, unprobed.unasked⟩
  · have handled := known_handled now admitted here found
    rw [handleKnownHost, if_pos due] at handled
    cases answer : handleOffer config s now offer with
    | error abort =>
      simp only [inputStep, answer] at stepped
      cases stepped
    | ok answered =>
      rw [answer] at handled
      obtain ⟨task, _, rfl⟩ := except_map_ok handled.symm
      refine ⟨_, offer_out answer, ?_⟩
      rw [← here]

/-- The third offer asks the executor for the devices. -/
theorem third_offered (admitted : ignoresHost config.flags site.hostname = false)
    (here : offer.hostname = site.hostname)
    (held : Held site (fun host => host.prober.state = .running ∧ host.lastProbeS = 0) s)
    (waited : config.flags.probeIntervalS < now)
    (stepped : (inputStep config s (.offer now offer)).next = some s') :
    Held site (fun host => host.lastProbeS = now) s' ∧ ∃ executor request,
      .called (.sendFrameworkMessage executor offer.slaveId request) ∈
        (inputStep config s (.offer now offer)).out := by
  obtain ⟨host, viewed, known, running, unasked⟩ := held
  obtain ⟨node, found, rfl⟩ := node_of_view viewed
  have started : node.prober.state = .running := running
  have cared : ¬ (proberDue config.flags now { node with lastOfferS := now } &&
      Resources.contains offer.resources (config.resources .prober)) = true := by
    simp [proberDue, started]
  have due : probeDue config.flags now { node with lastOfferS := now } = true := by
    have zero : node.lastProbeS = 0 := unasked
    simp only [probeDue, started, zero, Bool.and_eq_true, decide_eq_true_eq]
    exact ⟨trivial, by omega⟩
  constructor
  · have followed := ((known_followed admitted here viewed stepped).trans (if_neg cared)).trans
      (if_pos due)
    exact ⟨_, followed, (known_touched known rfl).1, rfl⟩
  · have handled := known_handled now admitted here found
    rw [handleKnownHost, if_neg cared, if_pos due] at handled
    rw [offer_out handled]
    exact ⟨_, _, List.mem_map_of_mem List.mem_cons_self⟩

/-! ### The last offer -/

variable [ScalarPorts R]

/-- Every core service of the host is recorded as it is, and its devices are known. -/
structure Ready (config : Config R) (site : Site) (s : Scheduler) (now asked : Int) : Prop where
  answered : Held site
    (Answered (fun seen => now - seen ≤ config.flags.probeExecutorKeepaliveIntervalS) asked) s
  settled : ∀ kind : ServiceKind, kind.core = true → SettledAt site kind s
  soon : now - asked ≤ config.flags.probeIntervalS
  wanted : s.state.targetVersion ≠ ""

omit [ScalarPorts R] in
private theorem ready_node {asked : Int} (ready : Ready config site s now asked) :
    ∃ node, s.nodes[site.hostname]? = some node ∧ node.deviceTypesValid = true ∧
      node.deviceType = site.response.deviceType ∧
      now - node.prober.lastSeenS ≤ config.flags.probeExecutorKeepaliveIntervalS ∧
      node.lastProbeS = asked ∧ ∀ kind : ServiceKind, kind.core = true →
        ((s.records node).service kind).state = site.settled kind := by
  obtain ⟨host, viewed, known, answered⟩ := ready.answered
  obtain ⟨node, found, rfl⟩ := node_of_view viewed
  refine ⟨node, found, answered.valid, known.devices answered.valid, answered.seen, answered.asked, ?_⟩
  intro kind isCore
  obtain ⟨other, again, _, state⟩ := ready.settled kind isCore
  obtain rfl := Option.some.inj (viewed.symm.trans again)
  rw [← state]
  cases kind <;> first | rfl | cases isCore

omit [ScalarPorts R] in
/-- What is due on a host that is ready is what it misses. -/
private theorem due_eq_missing {node : NodeState}
    (devices : node.deviceType = site.response.deviceType)
    (states : ∀ kind : ServiceKind, kind.core = true →
      ((s.records node).service kind).state = site.settled kind) :
    coreDue s node = site.missing := by
  unfold coreDue Site.missing coreWishes
  rw [devices]
  congr 1
  apply List.filter_congr
  intro kind wished
  have isCore : kind.core = true := by
    obtain ⟨device, _, required⟩ := List.mem_filterMap.mp wished
    exact core_of_required required
  rw [states kind isCore, Site.settled]
  cases site.live kind <;> rfl

omit [ScalarPorts R] in
private theorem mem_missing_iff : kind ∈ site.missing ↔
    (∃ device ∈ site.response.deviceType, requiredBy device = some kind) ∧ site.live kind = false := by
  simp [Site.missing, List.mem_dedup, List.mem_filter, List.mem_filterMap]

/-- While a core service is missing, nothing else takes part of the offer. -/
private theorem nothing_before {node : NodeState} (sound : site.Sound)
    (sends : Executor.Sends site.response) (found : s.nodes[site.hostname]? = some node)
    (valid : node.deviceTypesValid = true) (devices : node.deviceType = site.response.deviceType)
    (states : ∀ kind : ServiceKind, kind.core = true →
      ((s.records node).service kind).state = site.settled kind)
    (lacks : kind ∈ site.missing) : outerLeft config s offer node = offer.resources := by
  have here : s.node site.hostname = node := by rw [Scheduler.node, found, Option.getD_some]
  have runs (core : ServiceKind) (isCore : core.core = true) :
      CoreGate.runs s site.hostname core = site.live core := by
    rw [CoreGate.runs, record_of_node found, states core isCore, Site.settled]
    cases site.live core <;> rfl
  have noStrays : CoreGate.strays s site.hostname = 0 := by
    refine List.countP_eq_zero.mpr fun core member => ?_
    have isCore := CoreGate.core_mem_iff.mp member
    rw [here, runs core isCore]
    cases alive : site.live core with
    | false => simp
    | true =>
      have listed := sound core isCore alive
      rw [← devices] at listed
      simp [(CoreGate.device_listed_iff isCore).mpr listed]
  have someMissing : 0 < CoreGate.missing s site.hostname := by
    obtain ⟨⟨device, listed, required⟩, idle⟩ := mem_missing_iff.mp lacks
    have isCore := core_of_required required
    refine List.countP_pos_iff.mpr ⟨kind, CoreGate.core_mem_iff.mpr isCore, ?_⟩
    rw [← devices] at listed
    rw [here, runs kind isCore, (CoreGate.device_listed_iff isCore).mpr ⟨device, listed, required⟩, idle]
    rfl
  have uneven : coreServicesRunning node ≠ node.deviceType.length := by
    have sent : Executor.SentTypes (s.node site.hostname).deviceType := by
      rw [here, devices]
      exact Executor.sent_of_sends sends
    have balance := CoreGate.gate_balance sent
    rw [here] at balance
    omega
  exact outer_left_shut valid uneven

/-- An offer of a host that is ready launches what is missing there. -/
theorem ready_served {asked : Int} (complete : config.flags.Complete) (ports : config.HoldsListedPorts)
    (admitted : ignoresHost config.flags site.hostname = false) (here : offer.hostname = site.hostname)
    (sound : site.Sound) (sends : Executor.Sends site.response)
    (ready : Ready config site s now asked)
    (fits : Fits offer.resources (site.missing.map config.resources)) :
    ∃ s' calls, handleOffer config s now offer = .ok (s', calls) ∧
      ∀ kind : ServiceKind, kind.core = true →
        (calls.flatMap DriverCall.launched).count (taskId kind site.hostname) =
          if kind ∈ site.missing then 1 else 0 := by
  obtain ⟨node, found, valid, devices, seen, asked', states⟩ := ready_node ready
  have cared : proberDue config.flags now { node with lastOfferS := now } = false := by
    simp only [proberDue, Bool.and_eq_false_iff, decide_eq_false_iff_not]
    omega
  have probed : probeDue config.flags now { node with lastOfferS := now } = false := by
    have soon := ready.soon
    simp only [probeDue, asked', Bool.and_eq_false_iff, decide_eq_false_iff_not]
    omega
  have due : ServicesDue config s now offer node :=
    ⟨by rw [here, admitted], by rw [here, found], by rw [cared, Bool.false_and], probed, ready.wanted⟩
  obtain ⟨⟨s', calls⟩, handled⟩ := handleOffer_total complete offer s now
  have listed := due_eq_missing (s := s) devices states
  refine ⟨s', calls, handled, fun kind isCore => ?_⟩
  rw [← here, core_count due handled isCore]
  obtain ⟨once, only, all⟩ : (coreServed config s offer node).Nodup ∧ _ := core_served_iff ports valid
  rw [listed] at only all
  split
  · rename_i lacks
    have served : CoreFits config s offer node := by
      rw [CoreFits, nothing_before sound sends found valid devices states lacks, listed]
      exact fits
    exact List.count_eq_one_of_mem once (all.mpr served kind lacks)
  · rename_i runs
    exact List.count_eq_zero.mpr fun member => runs (only kind member)

/-! ### From the first offer to the last -/

/-- Four offers of a host and what the scheduler is told in between. -/
structure Course (R : Type) where
  site : Site
  o₁ : Offer R
  o₂ : Offer R
  o₃ : Offer R
  o₄ : Offer R
  t₁ : Int
  t₂ : Int
  t₃ : Int
  t₄ : Int
  first : List (Input R)
  second : List (Input R)
  third : List (Input R)

/-- Everything up to the last offer. -/
def Course.told (course : Course R) : List (Input R) :=
  (.offer course.t₁ course.o₁ :: course.first) ++
    ((.offer course.t₂ course.o₂ :: course.second) ++ (.offer course.t₃ course.o₃ :: course.third))

/-- The cluster behaves: the offers come late enough and hold enough, the core tasks
are reported on, the prober starts when it is launched, and the executor answers when
it is asked. -/
structure Course.Regular (config : Config R) (course : Course R) : Prop where
  admitted : ignoresHost config.flags course.site.hostname = false
  offered : ∀ offer ∈ [course.o₁, course.o₂, course.o₃, course.o₄],
    offer.hostname = course.site.hostname
  agent : course.o₁.slaveId = course.site.agent
  sound : course.site.Sound
  sends : Executor.Sends course.site.response
  first : ∀ input ∈ course.first,
    course.site.Permits (fun _ state => state = .lost) (fun _ => False) input
  awaited : config.flags.probeExecutorKeepaliveIntervalS < course.t₂
  room : Resources.contains course.o₂.resources (config.resources .prober) = true
  second : ∀ input ∈ course.second,
    course.site.Permits (fun _ state => state = .running ∨ state = .finished) (fun _ => True) input
  started : ∃ input ∈ course.second, course.site.Reports .prober input
  waited : config.flags.probeIntervalS < course.t₃
  third : ∀ input ∈ course.third, course.site.Permits
    (fun now _ => course.t₄ - now ≤ config.flags.probeExecutorKeepaliveIntervalS)
    (fun now => course.t₄ - now ≤ config.flags.probeExecutorKeepaliveIntervalS) input
  answered : ∃ input ∈ course.third, course.site.Answers input
  reported : ∀ kind : ServiceKind, kind.core = true →
    ∃ input ∈ course.first ++ (course.second ++ course.third), course.site.Reports kind input
  soon : course.t₄ - course.t₃ ≤ config.flags.probeIntervalS
  fits : Fits course.o₄.resources (course.site.missing.map config.resources)

/-- Marker files for all core services on one mount point. -/
def coreFiles : FileSystem where
  mounts := ["/dev/sdb1 /mnt/b xfs rw 0 0"]
  stat path :=
    if path ∈ ["/mnt/b/quobyte-dir", "/mnt/b/quobyte-metadata", "/mnt/b/quobyte-data"] then some .other
    else none

/-- The metadata service of the host has survived. -/
def metadataSite : Site where
  hostname := "h1"
  agent := "agent-h1"
  live kind := kind = .metadata
  response := Executor.probe coreFiles {}

/-- Another host is offered in between. -/
def metadataCourse : Course TextResources where
  site := metadataSite
  o₁ := wideOffer "o1" "h1"
  o₂ := wideOffer "o2" "h1"
  o₃ := wideOffer "o3" "h1"
  o₄ := wideOffer "o4" "h1"
  t₁ := 1
  t₂ := 100
  t₃ := 200
  t₄ := 210
  first := [.statusUpdate 2 { taskId := taskId .registry "h1", state := .lost },
    .statusUpdate 2 { taskId := taskId .metadata "h1", state := .running },
    .offer 3 (wideOffer "o5" "h2"),
    .statusUpdate 4 { taskId := taskId .data "h1", state := .lost }]
  second := [.statusUpdate 110 { taskId := taskId .prober "h1", state := .running }]
  third := [.frameworkMessage 205 "agent-h1" (some (Executor.probe coreFiles {}))]

private theorem target_here (kind : ServiceKind) :
    statusTarget (taskId kind "h1") = some (kind, "h1") := target_iff.mpr ⟨rfl, by decide⟩

/-- An update is permitted if it tells the truth about the one record it names. -/
private theorem permits_update {state : TaskState}
    (core : kind.core = true → state = if metadataSite.live kind then .running else .lost)
    (alive : kind = .prober → prober now state) : metadataSite.Permits (R := TextResources)
      prober answers (.statusUpdate now { taskId := taskId kind "h1", state := state }) := by
  intro other same
  obtain ⟨rfl, _⟩ := Prod.mk.inj (Option.some.inj ((target_here kind).symm.trans same))
  exact ⟨core, alive⟩

private theorem metadata_missing : metadataSite.missing = [.registry, .data] := by decide +kernel

private theorem metadata_regular : metadataCourse.Regular defaultConfig where
  admitted := by decide +kernel
  offered := by decide +kernel
  agent := by decide +kernel
  sound := by
    intro kind _ alive
    obtain rfl : kind = .metadata := of_decide_eq_true alive
    exact ⟨.metadata, by decide +kernel, rfl⟩
  sends := ⟨coreFiles, 0, {}, rfl⟩
  first := by
    simp only [metadataCourse, List.forall_mem_cons]
    refine ⟨permits_update (fun _ => rfl) nofun, permits_update (fun _ => rfl) nofun, ?_,
      permits_update (fun _ => rfl) nofun, by simp⟩
    show "h2" ≠ "h1"
    decide
  awaited := by decide +kernel
  room := by decide +kernel
  second := by
    simp only [metadataCourse, List.forall_mem_cons]
    exact ⟨permits_update nofun fun _ => .inl rfl, by simp⟩
  started := ⟨_, List.mem_cons_self, target_here .prober⟩
  waited := by decide +kernel
  third := by
    simp only [metadataCourse, List.forall_mem_cons]
    refine ⟨?_, by simp⟩
    rintro _ response ⟨⟩
    exact ⟨by decide +kernel, rfl⟩
  answered := ⟨_, List.mem_cons_self, rfl, rfl⟩
  reported := by
    intro kind isCore
    cases kind with
    | registry => exact ⟨_, List.mem_cons_self, target_here .registry⟩
    | metadata => exact ⟨_, List.mem_cons_of_mem _ List.mem_cons_self, target_here .metadata⟩
    | data =>
      have last : Input.statusUpdate 4 { taskId := taskId .data "h1", state := .lost } ∈
          metadataCourse.first := by simp [metadataCourse]
      exact ⟨_, List.mem_append_left _ last, target_here .data⟩
    | prober | api | s3 | webconsole | client => cases isCore
  soon := by decide +kernel
  fits := by
    have registry : Drawn metadataCourse.o₄.resources ([] ++ [defaultResources .registry]) _ :=
      Drawn.nothing.draw (by decide +kernel)
    have both : Drawn metadataCourse.o₄.resources
        ([] ++ [defaultResources .registry] ++ [defaultResources .data]) _ :=
      registry.draw (by decide +kernel)
    rw [show metadataCourse.site.missing = [.registry, .data] from metadata_missing]
    exact both.fits

end QuobyteMesos.BringUp
