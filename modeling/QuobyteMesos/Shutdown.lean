import QuobyteMesos.ServiceRecords

/-! What the shutdown branch of `resourceOffers` kills.

With an empty target version an offer kills the tasks of its host, by ids built
from the host's name. The list of services leaves out the client, and a cluster
service is killed under the name of the offering host wherever it runs. The
branch is exact for the hosts described by `RunsNoOther`. -/
namespace QuobyteMesos.Shutdown
open Mesos Machine SchedulerRuns SchedulerSteps ServiceRecords

variable {R : Type} [Resources R] {config : Config R} {s : Scheduler} {now : Int}
variable {offer : Offer R} {offers : List (Int × Offer R)} {hostname host id : String}
variable {kind : ServiceKind} {node : NodeState}

/-- The offer reaches the shutdown branch: its host is known and not restricted,
and neither a prober nor a probe is due on it. -/
structure ShutdownDue (config : Config R) (s : Scheduler) (now : Int) (offer : Offer R)
    (node : NodeState) : Prop where
  admitted : ignoresHost config.flags offer.hostname = false
  known : s.nodes[offer.hostname]? = some node
  proberCared : (proberDue config.flags now { node with lastOfferS := now } &&
    Resources.contains offer.resources (config.resources .prober)) = false
  probed : probeDue config.flags now { node with lastOfferS := now } = false
  unwanted : s.state.targetVersion = ""

/-- Offers that all reach the shutdown branch, at least one from every known host. -/
structure OfferedEverywhere (config : Config R) (s : Scheduler) (offers : List (Int × Offer R)) :
    Prop where
  due : ∀ offer ∈ offers, ∃ node, ShutdownDue config s offer.1 offer.2 node
  every : ∀ hostname ∈ s.nodes, ∃ offer ∈ offers, offer.2.hostname = hostname

/-- The ids passed to `killTask`. -/
def Killed (calls : List (DriverCall R)) : Set String := {id | .killTask id ∈ calls}

/-- The recorded task is one of the host: every record of its entry, and of the
shared records those that name the task built for it. -/
def LocatedOn (s : Scheduler) (hostname : String) (kind : ServiceKind) : Prop :=
  kind.clusterWide = true → (s.record hostname kind).taskId = taskId kind hostname

/-- The ids recorded for services that run on the host. -/
def RecordedOn (s : Scheduler) (hostname : String) : Set String :=
  {id | ∃ kind : ServiceKind, kind ≠ .prober ∧ (s.record hostname kind).state = .running ∧
    LocatedOn s hostname kind ∧ (s.record hostname kind).taskId = id}

/-- The ids recorded for services that run on any known host. -/
def Recorded (s : Scheduler) : Set String :=
  {id | ∃ hostname ∈ s.nodes, ∃ kind : ServiceKind, kind ≠ .prober ∧
    (s.record hostname kind).state = .running ∧ (s.record hostname kind).taskId = id}

/-- The ids the branch kills on the host. -/
def KilledOn (s : Scheduler) (hostname : String) : Set String :=
  {id | ∃ kind : ServiceKind, kind ≠ .prober ∧ kind ≠ .client ∧
    (s.record hostname kind).state = .running ∧ id = taskId kind hostname}

/-- No client runs on the host, and no cluster service runs on another. -/
structure RunsNoOther (s : Scheduler) (hostname : String) : Prop where
  client : (s.record hostname .client).state ≠ .running
  cluster : ∀ kind : ServiceKind, (s.record hostname kind).state = .running →
    LocatedOn s hostname kind

/-! ### One offer -/

theorem shutdown_handled (due : ShutdownDue config s now offer node) :
    handleOffer config s now offer =
      .ok (s.store offer.hostname (s.records { node with lastOfferS := now }),
        killServices offer.hostname (s.records { node with lastOfferS := now }) ++
          [.declineOffer offer.id]) := by
  have unwanted : ¬ s.state.targetVersion ≠ "" := not_not.mpr due.unwanted
  simp only [handleOffer, due.admitted, Bool.false_eq_true, if_false, due.known, handleKnownHost,
    due.proberCared, due.probed]
  rw [if_neg unwanted]

omit [Resources R] in
private theorem kill_services_iff {records : Records} :
    .killTask id ∈ killServices (R := R) hostname records ↔
      ∃ kind : ServiceKind, kind ≠ .prober ∧ kind ≠ .client ∧
        (records.service kind).state = .running ∧ id = taskId kind hostname := by
  simp only [killServices, List.mem_flatMap, killServiceIfRunning]
  constructor
  · rintro ⟨kind, listed, killed⟩
    split at killed
    · rename_i running
      refine ⟨kind, ?_, ?_, running, DriverCall.killTask.inj (List.mem_singleton.mp killed)⟩
      · rintro rfl
        simp at listed
      · rintro rfl
        simp at listed
    · cases killed
  · rintro ⟨kind, service, other, running, rfl⟩
    refine ⟨kind, ?_, by rw [if_pos running]; exact List.mem_singleton_self _⟩
    cases kind <;> simp at service other ⊢

private theorem service_of_known (known : s.nodes[hostname]? = some node) (now : Int)
    (kind : ServiceKind) :
    ((s.records { node with lastOfferS := now }).service kind).state =
      (s.record hostname kind).state := by
  rw [record_of_node known]
  cases kind <;> rfl

private theorem killed_answer (due : ShutdownDue config s now offer node) :
    Killed (killServices (R := R) offer.hostname (s.records { node with lastOfferS := now }) ++
      [.declineOffer offer.id]) = KilledOn s offer.hostname := by
  ext id
  simp only [Killed, KilledOn, Set.mem_ofPred_eq, List.mem_append, List.mem_singleton, reduceCtorEq,
    or_false, kill_services_iff, service_of_known due.known]

/-! ### A batch of offers -/

/-- The branch leaves every record as it was. -/
private theorem record_after (due : ShutdownDue config s now offer node) (host : String)
    (kind : ServiceKind) :
    (s.store offer.hostname (s.records { node with lastOfferS := now })).record host kind =
      s.record host kind :=
  record_store_same due.known (by cases kind <;> rfl)

/-- The branch changes nothing that a later offer is judged by. -/
private theorem due_after {later : Int} {other : Offer R} {node' : NodeState}
    (due : ShutdownDue config s now offer node) (waiting : ShutdownDue config s later other node') :
    ∃ node'', ShutdownDue config
      (s.store offer.hostname (s.records { node with lastOfferS := now })) later other node'' := by
  by_cases same : offer.hostname = other.hostname
  · have entry : node' = node := by
      have known := waiting.known
      rw [← same, due.known] at known
      exact (Option.some.inj known).symm
    subst node'
    refine ⟨{ node with lastOfferS := now }, waiting.admitted, ?_, waiting.proberCared,
      waiting.probed, waiting.unwanted⟩
    simp [Scheduler.store, Scheduler.records, same]
  · refine ⟨node', waiting.admitted, ?_, waiting.proberCared, waiting.probed, waiting.unwanted⟩
    simp [Scheduler.store, Std.ExtTreeMap.getElem?_insert, same, waiting.known]

omit [Resources R] in
private theorem killed_append (first later : List (DriverCall R)) :
    Killed (first ++ later) = Killed first ∪ Killed later := by
  ext id
  simp [Killed]

/-- A batch that reaches the branch throughout kills what the branch kills on
each of its hosts. -/
theorem killed_batch (due : ∀ offer ∈ offers, ∃ node, ShutdownDue config s offer.1 offer.2 node) :
    Killed (resourceOffers config s offers).out =
      {id | ∃ offer ∈ offers, id ∈ KilledOn s offer.2.hostname} := by
  unfold resourceOffers
  induction offers generalizing s with
  | nil =>
    ext id
    simp [Killed]
  | cons offer offers ih =>
    obtain ⟨node, here⟩ := due offer List.mem_cons_self
    have handled := shutdown_handled here
    have rest := ih fun other member => by
      obtain ⟨_, waiting⟩ := due other (List.mem_cons_of_mem _ member)
      exact due_after here waiting
    have stepped : (offerOutcome (handleOffer config s offer.1 offer.2)).next =
        some (s.store offer.2.hostname (s.records { node with lastOfferS := offer.1 })) := by
      rw [handled]
      rfl
    rw [run_cons_next stepped, killed_append, rest, handled, offerOutcome, killed_answer here]
    ext id
    simp only [KilledOn, record_after here, Set.mem_union, Set.mem_ofPred_eq, List.mem_cons,
      exists_eq_or_imp]

/-! ### What is killed and what is recorded -/

/-- The task recorded for a service of the host is the one built for it. -/
private theorem recorded_id (inv : RecordInv s)
    (running : (s.record hostname kind).state = .running) (here : LocatedOn s hostname kind) :
    (s.record hostname kind).taskId = taskId kind hostname := by
  cases shared : kind.clusterWide with
  | true => exact here shared
  | false => exact inv.own hostname kind shared ((inv.running hostname kind).mpr running)

/-- Whatever id is recorded for a running service names that service. -/
private theorem recorded_kind (inv : RecordInv s)
    (running : (s.record hostname kind).state = .running) :
    ∃ host, (s.record hostname kind).taskId = taskId kind host := by
  have named := (inv.running hostname kind).mpr running
  cases shared : kind.clusterWide with
  | true =>
    obtain ⟨host, _, id⟩ := inv.shared hostname kind shared named
    exact ⟨host, id⟩
  | false => exact ⟨hostname, inv.own hostname kind shared named⟩

/-- Where no client and no service of another host runs, the branch kills what is
recorded on the host. -/
private theorem killed_recorded (inv : RecordInv s) (alone : RunsNoOther s hostname) :
    KilledOn s hostname = RecordedOn s hostname := by
  ext id
  constructor
  · rintro ⟨kind, service, _, running, rfl⟩
    have located := alone.cluster kind running
    exact ⟨kind, service, running, located, recorded_id inv running located⟩
  · rintro ⟨kind, service, running, located, rfl⟩
    refine ⟨kind, service, ?_, running, recorded_id inv running located⟩
    rintro rfl
    exact alone.client running

/-- Where every killed id is recorded and every recorded one of the host is
killed, no client and no service of another host runs. -/
private theorem runs_no_other (inv : RecordInv s) {killed : Set String}
    (recorded : killed ⊆ Recorded s) (here : KilledOn s hostname ⊆ killed)
    (all : RecordedOn s hostname ⊆ killed) (only : ∀ id ∈ killed, ∃ host, id ∈ KilledOn s host) :
    RunsNoOther s hostname := by
  constructor
  · intro running
    have located : LocatedOn s hostname .client := by
      intro shared
      cases shared
    have own := recorded_id inv running located
    have dies : taskId .client hostname ∈ killed :=
      all ⟨.client, by decide, running, located, own⟩
    obtain ⟨host, kind, _, other, _, id⟩ := only _ dies
    exact other (taskId_injective id).1.symm
  · intro kind running shared
    have own : taskId kind hostname ∈ KilledOn s hostname := by
      refine ⟨kind, ?_, ?_, running, rfl⟩ <;> rintro rfl <;> cases shared
    obtain ⟨key, _, other, _, runs, id⟩ := recorded (here own)
    obtain ⟨host, named⟩ := recorded_kind inv runs
    obtain ⟨rfl, _⟩ := taskId_injective (named.symm.trans id)
    rw [record_shared shared hostname key]
    exact id

private theorem recorded_on_known (known : hostname ∈ s.nodes) :
    RecordedOn s hostname ⊆ Recorded s := by
  rintro id ⟨kind, service, running, _, recorded⟩
  exact ⟨hostname, known, kind, service, running, recorded⟩

/-- Every recorded id is recorded on the host it runs on. -/
private theorem recorded_somewhere (inv : RecordInv s) (recorded : id ∈ Recorded s) :
    ∃ hostname ∈ s.nodes, id ∈ RecordedOn s hostname := by
  obtain ⟨hostname, known, kind, service, running, rfl⟩ := recorded
  cases shared : kind.clusterWide with
  | false =>
    refine ⟨hostname, known, kind, service, running, ?_, rfl⟩
    intro wide
    rw [shared] at wide
    cases wide
  | true =>
    obtain ⟨key, present, named⟩ :=
      inv.shared hostname kind shared ((inv.running hostname kind).mpr running)
    have same := record_shared (s := s) shared hostname key
    refine ⟨key, present, kind, service, ?_, fun _ => ?_, ?_⟩
    · rwa [← same]
    · rwa [← same]
    · rw [← same]

/-- In every reachable state, an offer that reaches the shutdown branch kills
exactly the tasks recorded on its host if and only if no client runs there and no
cluster service on another host; and one such offer from every known host kills
exactly the recorded tasks if and only if this holds of all of them. -/
theorem shutdown_kills_recorded_iff (reachable : Reachable config s) :
    (∀ now offer node, ShutdownDue config s now offer node →
      (Killed (resourceOffers config s [(now, offer)]).out = RecordedOn s offer.hostname ↔
        RunsNoOther s offer.hostname)) ∧
    (∀ offers, OfferedEverywhere config s offers →
      (Killed (resourceOffers config s offers).out = Recorded s ↔
        ∀ hostname ∈ s.nodes, RunsNoOther s hostname)) := by
  have inv := record_inv_reachable reachable
  constructor
  · intro now offer node due
    have known : offer.hostname ∈ s.nodes := by
      rw [Std.ExtTreeMap.mem_iff_isSome_getElem?, due.known]
      rfl
    have killed : Killed (resourceOffers config s [(now, offer)]).out = KilledOn s offer.hostname := by
      rw [killed_batch (by simpa using ⟨node, due⟩)]
      ext id
      simp
    rw [killed]
    constructor
    · intro exact'
      refine runs_no_other inv ?_ subset_rfl exact'.ge fun id member => ⟨_, member⟩
      rw [exact']
      exact recorded_on_known known
    · exact killed_recorded inv
  · intro offers everywhere
    rw [killed_batch everywhere.due]
    constructor
    · intro exact' hostname known
      obtain ⟨offer, member, rfl⟩ := everywhere.every hostname known
      refine runs_no_other inv exact'.le ?_ ?_ ?_
      · exact fun id killed => ⟨offer, member, killed⟩
      · exact (recorded_on_known known).trans exact'.ge
      · rintro id ⟨other, _, killed⟩
        exact ⟨_, killed⟩
    · intro alone
      ext id
      constructor
      · rintro ⟨offer, member, killed⟩
        obtain ⟨node, due⟩ := everywhere.due offer member
        have known : offer.2.hostname ∈ s.nodes := by
          rw [Std.ExtTreeMap.mem_iff_isSome_getElem?, due.known]
          rfl
        rw [killed_recorded inv (alone _ known)] at killed
        exact recorded_on_known known killed
      · intro recorded
        obtain ⟨hostname, known, here⟩ := recorded_somewhere inv recorded
        obtain ⟨offer, member, rfl⟩ := everywhere.every hostname known
        rw [← killed_recorded inv (alone _ known)] at here
        exact ⟨offer, member, here⟩

/-! ### Two runs with an empty target version -/

/-- The guards in front of the shutdown branch, as evaluated on an entry. -/
def cares (config : Config R) (now : Int) (offer : Offer R) (node : NodeState) : Bool × Bool :=
  (proberDue config.flags now { node with lastOfferS := now } &&
      Resources.contains offer.resources (config.resources .prober),
    probeDue config.flags now { node with lastOfferS := now })

private theorem due_of_cares (admitted : ignoresHost config.flags offer.hostname = false)
    (cared : s.nodes[offer.hostname]?.map (cares config now offer) = some (false, false))
    (unwanted : s.state.targetVersion = "") :
    ∃ node, ShutdownDue config s now offer node := by
  obtain ⟨node, known, guards⟩ := Option.map_eq_some_iff.mp cared
  obtain ⟨prober, probe⟩ := Prod.mk.inj guards
  exact ⟨node, admitted, known, prober, probe, unwanted⟩

/-- A host is offered on which a registry and the api run. -/
theorem registry_and_api_killed : ∃ s, Reachable defaultConfig s ∧
    Killed (resourceOffers defaultConfig s [(5, wideOffer "o1" "h1")]).out = RecordedOn s "h1" ∧
    "quobyte-api-h1" ∈ RecordedOn s "h1" := by
  have ran : (run (callbackStep defaultConfig) (Scheduler.fresh {})
      [.statusUpdate 2 { taskId := "quobyte-registry-h1", state := .running },
        .statusUpdate 3 { taskId := "quobyte-api-h1", state := .running }]).next.map
      (fun s => (s.nodes["h1"]?.map (cares defaultConfig 5 (wideOffer "o1" "h1")),
        s.state.targetVersion, (s.record "h1" .api).taskId,
        [ServiceKind.client, .api, .s3, .webconsole].map fun kind => (s.record "h1" kind).state)) =
      some (some (false, false), "", "quobyte-api-h1", [.unknown, .running, .unknown, .unknown]) := by
    decide +kernel
  obtain ⟨s, reachable, viewed⟩ := reachable_of_run ran
  simp only [Prod.mk.injEq, List.map_cons, List.cons.injEq] at viewed
  obtain ⟨cared, unwanted, named, client, running, s3, console, _⟩ := viewed
  obtain ⟨node, due⟩ := due_of_cares rfl cared unwanted
  have alone : RunsNoOther s "h1" := by
    refine ⟨by rw [client]; decide, ?_⟩
    intro kind runs shared
    cases kind with
    | api => exact named
    | s3 => rw [s3] at runs; cases runs
    | webconsole => rw [console] at runs; cases runs
    | prober | registry | metadata | data | client => cases shared
  refine ⟨s, reachable, ((shutdown_kills_recorded_iff reachable).1 5 _ node due).mpr alone, ?_⟩
  exact ⟨.api, by decide, running, fun _ => named, named⟩

/-- A host is offered on which a client runs while the api runs on another one:
the client is not killed, and an api is that nobody recorded. -/
theorem client_not_killed : ∃ s node, Reachable defaultConfig s ∧
    ShutdownDue defaultConfig s 5 (wideOffer "o1" "h1") node ∧
    "quobyte-client-h1" ∈ RecordedOn s "h1" ∧ "quobyte-api-h1" ∉ Recorded s ∧
    Killed (resourceOffers defaultConfig s [(5, wideOffer "o1" "h1")]).out = {"quobyte-api-h1"} := by
  have ran : (run (callbackStep defaultConfig) (Scheduler.fresh {})
      [.statusUpdate 2 { taskId := "quobyte-client-h1", state := .running },
        .statusUpdate 3 { taskId := "quobyte-api-h2", state := .running }]).next.map
      (fun s => (s.nodes["h1"]?.map (cares defaultConfig 5 (wideOffer "o1" "h1")),
        s.state.targetVersion, [ServiceKind.client, .api].map fun kind => (s.record "h1" kind).taskId,
        decide ((resourceOffers defaultConfig s [(5, wideOffer "o1" "h1")]).out =
          [.killTask "quobyte-api-h1", .declineOffer "o1"]))) =
      some (some (false, false), "", ["quobyte-client-h1", "quobyte-api-h2"], true) := by
    decide +kernel
  obtain ⟨s, reachable, viewed⟩ := reachable_of_run ran
  simp only [Prod.mk.injEq, List.map_cons, List.cons.injEq, decide_eq_true_eq] at viewed
  obtain ⟨cared, unwanted, ⟨client, api, _⟩, out⟩ := viewed
  have inv := record_inv_reachable reachable
  obtain ⟨node, due⟩ := due_of_cares rfl cared unwanted
  refine ⟨s, node, reachable, due, ?_, ?_, ?_⟩
  · have located : LocatedOn s "h1" .client := by
      intro shared
      cases shared
    have running := (inv.running "h1" .client).mp (by rw [client]; decide)
    exact ⟨.client, by decide, running, located, client⟩
  · rintro ⟨hostname, _, kind, _, runs, id⟩
    obtain ⟨host, named⟩ := recorded_kind inv runs
    have same : taskId kind host = taskId .api "h1" := named.symm.trans id
    obtain ⟨rfl, rfl⟩ := taskId_injective same
    rw [record_shared rfl hostname "h1", api] at id
    exact absurd id (by decide)
  · rw [out]
    ext id
    simp [Killed, eq_comm]

end QuobyteMesos.Shutdown
