import QuobyteMesos.CoreGate
import QuobyteMesos.HostMachine

/-! What the machine of one host hears.

A `Site` is a host with the core tasks that really run there and the devices its
executor finds. Between two offers of the host the scheduler may be told anything that
is true of it (`Site.Permits`), and anything about other hosts. `hears` lists what that
does to the machine of the host, `known_hears` what stays true of it, and
`held_establishes` what one report brings about for the rest of a run. -/
namespace QuobyteMesos.SiteReports
open Mesos Machine SchedulerRuns SchedulerSteps HostMachine LaunchSteps

variable {R : Type}

/-! ### What happens at the host -/

/-- A host, the core tasks that run on it and what its executor finds there. -/
structure Site where
  hostname : String
  agent : String
  live : ServiceKind → Bool
  response : ProbeResponse

namespace Site

/-- A core service runs only beside its device. -/
def Sound (site : Site) : Prop :=
  ∀ kind : ServiceKind, kind.core = true → site.live kind = true →
    ∃ device ∈ site.response.deviceType, requiredBy device = some kind

/-- The core services that have a device and do not run. -/
def missing (site : Site) : List ServiceKind :=
  ((site.response.deviceType.filterMap requiredBy).filter fun kind => !site.live kind).dedup

/-- The state the record of a core service comes to. -/
def settled (site : Site) (kind : ServiceKind) : ServiceState.TaskState :=
  if site.live kind then .running else .notRunning

/-- An input that may come up between two offers of the host: it tells the truth about
the core tasks, and of the prober and the executor what the arguments let through. -/
def Permits (site : Site) (prober : Int → TaskState → Prop) (answers : Int → Prop) :
    Input R → Prop
  | .offer _ offer => offer.hostname ≠ site.hostname
  | .statusUpdate now status => ∀ kind, statusTarget status.taskId = some (kind, site.hostname) →
      (kind.core = true → status.state = if site.live kind then .running else .lost) ∧
        (kind = .prober → prober now status.state)
  | .frameworkMessage now slaveId data => slaveId = site.agent → ∀ response, data = some response →
      answers now ∧ response = site.response
  | .registered _ | .reregistered | .postVersion _ => True

/-- The input is an update about the service on the host. -/
def Reports (site : Site) (kind : ServiceKind) : Input R → Prop
  | .statusUpdate _ status => statusTarget status.taskId = some (kind, site.hostname)
  | .offer .. | .frameworkMessage .. | .registered _ | .reregistered | .postVersion _ => False

/-- The input is the answer of the executor. -/
def Answers (site : Site) : Input R → Prop
  | .frameworkMessage _ slaveId data => slaveId = site.agent ∧ data = some site.response
  | .offer .. | .statusUpdate .. | .registered _ | .reregistered | .postVersion _ => False

end Site

/-! ### What the machine of the host hears -/

variable {s s' : Scheduler} {site : Site} {host host' : HostState}
variable {kind : ServiceKind} {now : Int} {status : TaskStatus} {offer : Offer R} {input : Input R}
variable {prober : Int → TaskState → Prop} {answers : Int → Prop}

/-- What a permitted input makes of the machine. -/
inductive Hears (site : Site) (prober : Int → TaskState → Prop) (answers : Int → Prop)
    (host : HostState) : Input R → HostState → Prop where
  | nothing {input : Input R} (core : ∀ kind : ServiceKind, kind.core = true ∨ kind = .prober →
      ¬ site.Reports kind input) (silent : ¬ site.Answers input) :
      Hears site prober answers host input host
  | core {now : Int} {status : TaskStatus} {kind : ServiceKind} (isCore : kind.core = true)
      (target : statusTarget status.taskId = some (kind, site.hostname))
      (truth : status.state = if site.live kind then .running else .lost) :
      Hears site prober answers host (.statusUpdate now status)
        (host.setService kind ((host.service kind).after (!host.lacks kind) now status))
  | prober {now : Int} {status : TaskStatus}
      (target : statusTarget status.taskId = some (.prober, site.hostname))
      (allowed : prober now status.state) :
      Hears site prober answers host (.statusUpdate now status)
        { host with prober := host.prober.after true now status }
  | answered {now : Int} (allowed : answers now) :
      Hears site prober answers host (.frameworkMessage now site.agent (some site.response))
        { host with
          deviceType := site.response.deviceType
          clientMountPoint := site.response.clientMountPoint
          prober := { host.prober with lastSeenS := now }
          deviceTypesValid := true }

variable [Resources R] {config : Config R}

private theorem hears_update
    (permitted : site.Permits (R := R) prober answers (.statusUpdate now status))
    (about : concerns (R := R) site.hostname (.statusUpdate now status) = true)
    (stepped : hostStep config (some host) (.statusUpdate now status) = some host') :
    Hears (R := R) site prober answers host (.statusUpdate now status) host' := by
  cases parts : splitTaskId status.taskId with
  | none => simp [concerns, parts] at about
  | some found =>
    obtain ⟨service, hostname⟩ := found
    have here : hostname = site.hostname := by simpa [concerns, parts] using about
    subst here
    have target : statusTarget status.taskId = (getService service).map (·, site.hostname) := by
      rw [statusTarget, parts, Option.bind_some]
    simp only [hostStep, parts, updateHost, Option.getD_some] at stepped
    cases named : getService service with
    | none =>
      rw [named] at target stepped
      cases stepped
      refine .nothing (fun kind _ reported => ?_) fun answered => answered
      exact absurd (target.symm.trans reported) (by simp)
    | some kind =>
      rw [named] at target stepped
      cases stepped
      have permits := permitted kind target
      cases kind with
      | registry | metadata | data => exact .core rfl target (permits.1 rfl)
      | prober =>
        have needed : host.lacks .prober = false := Bool.and_false _
        simp only [needed]
        exact .prober target (permits.2 rfl)
      | api | s3 | webconsole | client =>
        refine .nothing (fun kind own reported => ?_) fun answered => answered
        obtain ⟨rfl, _⟩ := Prod.mk.inj (Option.some.inj (target.symm.trans reported))
        rcases own with isCore | isProber
        · cases isCore
        · cases isProber

private theorem hears_message {slaveId : String} {data : Option ProbeResponse}
    (agent : host.slaveIdValue = site.agent)
    (permitted : site.Permits (R := R) prober answers (.frameworkMessage now slaveId data))
    (stepped : hostStep config (some host) (.frameworkMessage now slaveId data) = some host') :
    Hears (R := R) site prober answers host (.frameworkMessage now slaveId data) host' := by
  cases data with
  | none =>
    cases stepped
    refine .nothing (fun _ _ reported => reported) fun answered => ?_
    cases answered.2
  | some response =>
    simp only [hostStep, probeHost, Option.map_some] at stepped
    split at stepped
    · rename_i here
      obtain rfl : slaveId = site.agent := here.symm.trans agent
      obtain ⟨allowed, rfl⟩ := permitted rfl response rfl
      cases stepped
      exact .answered allowed
    · rename_i away
      cases stepped
      refine .nothing (fun _ _ reported => reported) fun answered => away ?_
      exact agent.trans answered.1.symm

/-- A permitted input does to the machine what it may. -/
theorem hears (known : view site.hostname s = some host) (agent : host.slaveIdValue = site.agent)
    (permitted : site.Permits prober answers input)
    (stepped : (inputStep config s input).next = some s') :
    ∃ host', view site.hostname s' = some host' ∧ Hears site prober answers host input host' := by
  cases about : concerns site.hostname input with
  | false =>
    refine ⟨host, (view_unconcerned about stepped).trans known, .nothing ?_ ?_⟩
    · intro kind _ reported
      cases input with
      | statusUpdate now status =>
        obtain ⟨⟨service, hostname⟩, parts, named⟩ := Option.bind_eq_some_iff.mp reported
        obtain ⟨other, _, same⟩ := Option.map_eq_some_iff.mp named
        obtain ⟨_, rfl⟩ := Prod.mk.inj same
        simp [concerns, parts] at about
      | offer | frameworkMessage | registered | reregistered | postVersion => exact reported
    · intro answered
      cases input with
      | frameworkMessage => cases about
      | offer | statusUpdate | registered | reregistered | postVersion => exact answered
  | true =>
    have followed := view_concerned about stepped
    rw [known] at followed
    cases input with
    | offer now offer => exact absurd (by simpa [concerns] using about) permitted
    | statusUpdate now status =>
      obtain ⟨host', stepped⟩ : ∃ host', hostStep config (some host) (.statusUpdate now status) =
          some host' := by
        cases parts : splitTaskId status.taskId <;> simp [hostStep, parts]
      exact ⟨host', followed.trans stepped, hears_update permitted about stepped⟩
    | frameworkMessage now slaveId data =>
      obtain ⟨host', stepped⟩ : ∃ host', hostStep config (some host)
          (.frameworkMessage now slaveId data) = some host' := by
        cases data <;> simp [hostStep]
      exact ⟨host', followed.trans stepped, hears_message agent permitted stepped⟩
    | registered | reregistered | postVersion => cases about

/-! ### What is known of the host -/

/-- The records of the host name its own tasks or none, and where they have been
updated they hold the truth. -/
structure Known (site : Site) (host : HostState) : Prop where
  agent : host.slaveIdValue = site.agent
  ids : ∀ kind, own kind = true →
    (host.service kind).taskId = "" ∨ (host.service kind).taskId = taskId kind site.hostname
  devices : host.deviceTypesValid = true → host.deviceType = site.response.deviceType
  core : ∀ kind : ServiceKind, kind.core = true →
    (host.service kind).state = .unknown ∨ (host.service kind).state = site.settled kind

theorem prober_setService {service : ServiceFacts} (isCore : kind.core = true) :
    (host.setService kind service).prober = host.prober := by
  cases kind <;> first | rfl | cases isCore

private theorem own_of_core (isCore : kind.core = true) : own kind = true := by
  cases kind <;> first | rfl | exact isCore

/-- A device that the executor reports is not missing. -/
private theorem not_lacking (known : Known site host) (isCore : kind.core = true)
    (listed : ∃ device ∈ site.response.deviceType, requiredBy device = some kind) :
    host.lacks kind = false := by
  have contained : deviceMissing { deviceType := site.response.deviceType } kind = false :=
    (CoreGate.device_listed_iff isCore).mpr listed
  cases valid : host.deviceTypesValid with
  | false => simp only [HostState.lacks, valid, Bool.false_and]
  | true =>
    have devices := known.devices valid
    cases kind <;> cases isCore <;> simpa [HostState.lacks, deviceMissing, devices, valid] using contained

/-- An update about a record of the host is not turned away. -/
private theorem after_of_known (known : Known site host) (isOwn : own kind = true)
    (target : statusTarget status.taskId = some (kind, site.hostname)) (shouldRun : Bool) :
    (host.service kind).after shouldRun now status =
      if status.state = .running ∨ status.state = .finished then
        if shouldRun then ⟨.running, now, now, taskId kind site.hostname⟩ else host.service kind
      else if isTerminal status.state then
        { host.service kind with state := .notRunning, lastUpdateS := now, taskId := "" }
      else host.service kind := by
  have named := (target_iff.mp target).1
  have taken : (decide (taskId kind site.hostname = (host.service kind).taskId) ||
      decide ((host.service kind).taskId = "")) = true := by
    rcases known.ids kind isOwn with unnamed | here
    · simp [unnamed]
    · simp [here]
  rw [ServiceFacts.after]
  simp only [named, taken, Bool.and_true]

/-- The record of a core service after the truth about it. -/
private theorem settles (now : Int) (sound : site.Sound) (known : Known site host) (isCore : kind.core = true)
    (target : statusTarget status.taskId = some (kind, site.hostname))
    (truth : status.state = if site.live kind then .running else .lost) :
    ((host.service kind).after (!host.lacks kind) now status).state = site.settled kind ∧
      (((host.service kind).after (!host.lacks kind) now status).taskId = "" ∨
        ((host.service kind).after (!host.lacks kind) now status).taskId =
          taskId kind site.hostname) := by
  rw [after_of_known known (own_of_core isCore) target, Site.settled]
  cases alive : site.live kind with
  | true =>
    rw [alive, if_pos rfl] at truth
    have present := not_lacking known isCore (sound kind isCore alive)
    simp [truth, present]
  | false =>
    simp only [alive, Bool.false_eq_true, if_false] at truth
    simp [truth, isTerminal]

/-- The prober of the host after an update about it: a living task is taken over, and
no other one brings it to life. -/
private theorem prober_after (now : Int) (known : Known site host)
    (target : statusTarget status.taskId = some (.prober, site.hostname)) :
    ((host.prober.after true now status).taskId = "" ∨
        (host.prober.after true now status).taskId = taskId .prober site.hostname) ∧
      if status.state = .running ∨ status.state = .finished then
        (host.prober.after true now status).state = .running ∧
          (host.prober.after true now status).lastSeenS = now
      else
        (host.prober.after true now status).lastSeenS = host.prober.lastSeenS ∧
          ((host.prober.after true now status).state = host.prober.state ∨
            (host.prober.after true now status).state = .notRunning) := by
  have ids := known.ids .prober rfl
  have after : host.prober.after true now status = _ := after_of_known known rfl target true
  rw [after]
  split
  · simp
  · split
    · simp [HostState.service]
    · exact ⟨ids, rfl, .inl rfl⟩

omit [Resources R] in
/-- What is known stays so under everything heard, and a record that holds the truth
keeps it. -/
theorem known_hears (sound : site.Sound) (known : Known site host)
    (heard : Hears (R := R) site prober answers host input host') :
    Known site host' ∧ ∀ kind : ServiceKind, kind.core = true →
      (host.service kind).state = site.settled kind ∨ site.Reports kind input →
      (host'.service kind).state = site.settled kind := by
  cases heard with
  | nothing silent =>
    refine ⟨known, fun kind isCore either => either.resolve_right (silent kind (.inl isCore))⟩
  | @core now status updated isCore target truth =>
    obtain ⟨state, id⟩ := settles now sound known isCore target truth
    have isOwn := own_of_core isCore
    refine ⟨⟨?_, fun kind isOwn' => ?_, ?_, fun kind isCore' => ?_⟩, fun kind isCore' either => ?_⟩
    · rw [HostState.setService_slaveIdValue]
      exact known.agent
    · by_cases same : kind = updated
      · subst same
        rwa [HostState.service_setService_self isOwn]
      · rw [HostState.service_setService_ne same]
        exact known.ids kind isOwn'
    · rw [HostState.setService_deviceTypesValid, HostState.setService_deviceType]
      exact known.devices
    · by_cases same : kind = updated
      · subst same
        rw [HostState.service_setService_self isOwn]
        exact .inr state
      · rw [HostState.service_setService_ne same]
        exact known.core kind isCore'
    · by_cases same : kind = updated
      · subst same
        rwa [HostState.service_setService_self isOwn]
      · rw [HostState.service_setService_ne same]
        refine either.resolve_right fun reported => same ?_
        exact (Prod.mk.inj (Option.some.inj (reported.symm.trans target))).1
  | @prober now status target =>
    refine ⟨⟨known.agent, fun kind isOwn => ?_, known.devices, fun kind isCore => ?_⟩,
      fun kind isCore either => ?_⟩
    · cases kind with
      | prober => exact (prober_after _ known target).1
      | _ => exact known.ids _ isOwn
    · cases kind <;> first | exact known.core _ isCore | cases isCore
    · have silent : ¬ site.Reports (R := R) kind (.statusUpdate now status) := by
        intro reported
        obtain ⟨rfl, _⟩ := Prod.mk.inj (Option.some.inj (reported.symm.trans target))
        cases isCore
      cases kind <;> first | exact either.resolve_right silent | cases isCore
  | answered =>
    refine ⟨⟨known.agent, fun kind isOwn => ?_, fun _ => rfl, fun kind isCore => ?_⟩,
      fun kind isCore either => ?_⟩
    · cases kind <;> exact known.ids _ isOwn
    · cases kind <;> exact known.core _ isCore
    · cases kind <;> exact either.resolve_right fun reported => reported

/-! ### Between two offers -/

/-- The scheduler keeps the host as a machine that is known and has the property. -/
def Held (site : Site) (property : HostState → Prop) (s : Scheduler) : Prop :=
  ∃ host, view site.hostname s = some host ∧ Known site host ∧ property host

variable {P Q : HostState → Prop} {inputs : List (Input R)}

omit [Resources R] in
theorem Held.and (first : Held site P s) (second : Held site Q s) :
    Held site (fun host => P host ∧ Q host) s := by
  obtain ⟨host, viewed, known, holds⟩ := first
  obtain ⟨other, again, _, also⟩ := second
  obtain rfl := Option.some.inj (viewed.symm.trans again)
  exact ⟨host, viewed, known, holds, also⟩

omit [Resources R] in
theorem Held.imp (held : Held site P s) (implies : ∀ host, Known site host → P host → Q host) :
    Held site Q s := by
  obtain ⟨host, viewed, known, holds⟩ := held
  exact ⟨host, viewed, known, implies host known holds⟩

/-- A property that everything heard leaves true. -/
theorem held_step (sound : site.Sound) (held : Held site P s)
    (keeps : ∀ host host', Known site host → P host →
      Hears site prober answers host input host' → Q host')
    (permitted : site.Permits prober answers input)
    (stepped : (inputStep config s input).next = some s') : Held site Q s' := by
  obtain ⟨host, viewed, known, holds⟩ := held
  obtain ⟨host', viewed', heard⟩ := hears viewed known.agent permitted stepped
  exact ⟨host', viewed', (known_hears sound known heard).1, keeps host host' known holds heard⟩

theorem held_along (sound : site.Sound)
    (keeps : ∀ host (input : Input R) host', Known site host → P host →
      Hears site prober answers host input host' → P host')
    (held : Held site P s) (permitted : ∀ input ∈ inputs, site.Permits prober answers input)
    (ran : (run (inputStep config) s inputs).next = some s') : Held site P s' :=
  run_invariant_along
    (fun _ input _ held permitted stepped => held_step sound held (keeps · input) permitted stepped)
    held (along_of_all fun _ => permitted) ran

/-- A property that one input brings about and everything heard leaves true. -/
theorem held_establishes {settles : Input R → Prop} (sound : site.Sound)
    (preserved : ∀ host (input : Input R) host', Known site host → P host →
      Hears site prober answers host input host' → P host')
    (keeps : ∀ host (input : Input R) host', Known site host → P host → Q host →
      Hears site prober answers host input host' → Q host')
    (establishes : ∀ host (input : Input R) host', Known site host → P host → settles input →
      Hears site prober answers host input host' → Q host')
    (held : Held site P s) (permitted : ∀ input ∈ inputs, site.Permits prober answers input)
    (occurs : ∃ input ∈ inputs, settles input)
    (ran : (run (inputStep config) s inputs).next = some s') :
    Held site (fun host => P host ∧ Q host) s' := by
  have both : Held site P s' ∧ Held site Q s' := run_establishes
    (fun _ input _ held permitted stepped => held_step sound held (preserved · input) permitted stepped)
    (fun _ input _ held goal permitted stepped => held_step sound (held.and goal)
      (fun host host' known holds => keeps host input host' known holds.1 holds.2) permitted stepped)
    (fun _ input _ held permitted settled stepped => held_step sound held
      (fun host host' known holds => establishes host input host' known holds settled) permitted stepped)
    held permitted occurs ran
  exact both.1.and both.2

/-- The record of a core service holds the truth. -/
def SettledAt (site : Site) (kind : ServiceKind) (s : Scheduler) : Prop :=
  Held site (fun host => (host.service kind).state = site.settled kind) s

theorem settled_along (sound : site.Sound) (isCore : kind.core = true)
    (held : Held site (fun _ => True) s)
    (permitted : ∀ input ∈ inputs, site.Permits prober answers input)
    (ran : (run (inputStep config) s inputs).next = some s')
    (either : SettledAt site kind s ∨ ∃ input ∈ inputs, site.Reports kind input) :
    SettledAt site kind s' := by
  have stays : ∀ host (input : Input R) host', Known site host →
      (host.service kind).state = site.settled kind ∨ site.Reports kind input →
      Hears site prober answers host input host' →
      (host'.service kind).state = site.settled kind := fun _ _ _ known either heard =>
    (known_hears sound known heard).2 kind isCore either
  rcases either with settled | occurs
  · exact held_along sound (fun host input host' known settled => stays host input host' known (.inl settled))
      settled permitted ran
  · have both := held_establishes sound (fun _ _ _ _ _ _ => trivial)
      (fun host input host' known _ settled => stays host input host' known (.inl settled))
      (fun host input host' known _ reported => stays host input host' known (.inr reported))
      held permitted occurs ran
    exact both.imp fun _ _ holds => holds.2

/-! ### The prober and its executor -/

/-- The prober has not been launched, and nothing has been heard of its executor. -/
structure Unprobed (host : HostState) : Prop where
  resting : host.prober.state ≠ .running ∧ host.prober.state ≠ .starting
  unseen : host.prober.lastSeenS = 0
  unasked : host.lastProbeS = 0

/-- The executor has answered lately, and was asked at the time given. -/
structure Answered (recent : Int → Prop) (asked : Int) (host : HostState) : Prop where
  valid : host.deviceTypesValid = true
  seen : recent host.prober.lastSeenS
  asked : host.lastProbeS = asked

omit [Resources R] in
theorem unprobed_hears (known : Known site host) (unprobed : Unprobed host)
    (heard : Hears (R := R) site (fun _ state => state = .lost) (fun _ => False) host input host') :
    Unprobed host' := by
  cases heard with
  | nothing => exact unprobed
  | core isCore =>
    constructor
    · rw [prober_setService isCore]
      exact unprobed.resting
    · rw [prober_setService isCore]
      exact unprobed.unseen
    · rw [HostState.setService_lastProbeS]
      exact unprobed.unasked
  | @prober now status target lost =>
    have after := (prober_after now known target).2
    rw [if_neg (by simp [lost])] at after
    refine ⟨?_, after.1.trans unprobed.unseen, unprobed.unasked⟩
    rcases after.2 with same | stopped
    · simpa only [same] using unprobed.resting
    · simp [stopped]
  | answered never => exact never.elim

omit [Resources R] in
/-- The prober stays alive once an update has said that it is, and is not asked for the
devices in the meantime. -/
theorem started_hears (known : Known site host) (unasked : host.lastProbeS = 0)
    (heard : Hears (R := R) site (fun _ state => state = .running ∨ state = .finished)
      (fun _ => True) host input host') :
    host'.lastProbeS = 0 ∧ (host.prober.state = .running ∨ site.Reports .prober input →
      host'.prober.state = .running) := by
  cases heard with
  | nothing silent => exact ⟨unasked, fun either => either.resolve_right (silent .prober (.inr rfl))⟩
  | @core now status kind isCore target =>
    have other : ¬ site.Reports (R := R) .prober (.statusUpdate now status) := by
      intro reported
      obtain ⟨rfl, _⟩ := Prod.mk.inj (Option.some.inj (reported.symm.trans target))
      cases isCore
    refine ⟨by rw [HostState.setService_lastProbeS, unasked], fun either => ?_⟩
    rw [prober_setService isCore]
    exact either.resolve_right other
  | @prober now status target alive =>
    have after := (prober_after now known target).2
    rw [if_pos alive] at after
    exact ⟨unasked, fun _ => after.1⟩
  | answered => exact ⟨unasked, fun either => either.resolve_right fun reported => reported⟩

omit [Resources R] in
theorem answered_hears {recent : Int → Prop} {asked : Int} (known : Known site host)
    (asks : host.lastProbeS = asked)
    (heard : Hears (R := R) site (fun now _ => recent now) recent host input host') :
    host'.lastProbeS = asked ∧
      (Answered recent asked host ∨ site.Answers input → Answered recent asked host') := by
  cases heard with
  | nothing _ silent => exact ⟨asks, fun either => either.resolve_right silent⟩
  | @core now status kind isCore target =>
    have later : (host.setService kind
        ((host.service kind).after (!host.lacks kind) now status)).lastProbeS = asked := by
      rw [HostState.setService_lastProbeS, asks]
    refine ⟨later, fun either => ?_⟩
    have answered := either.resolve_right fun answers => answers
    refine ⟨by rw [HostState.setService_deviceTypesValid, answered.valid], ?_, later⟩
    rw [prober_setService isCore]
    exact answered.seen
  | @prober now status target now' =>
    refine ⟨asks, fun either => ?_⟩
    have answered := either.resolve_right fun answers => answers
    refine ⟨answered.valid, ?_, asks⟩
    have after := (prober_after now known target).2
    show recent (host.prober.after true now status).lastSeenS
    split at after
    · rw [after.2]
      exact now'
    · rw [after.1]
      exact answered.seen
  | answered now' => exact ⟨asks, fun _ => ⟨rfl, now', asks⟩⟩

end QuobyteMesos.SiteReports
