import QuobyteMesos.CrashRecovery
import QuobyteMesos.StateStore

/-! The persistent state over the incarnations of the framework.

`main` constructs the proxy, which parses what is stored, and with `--reset` erases it
and returns; otherwise the driver's thread and the connections of the HTTP server change
the state until the process ends, wherever their calls are. Restarts are those of
`CrashRecovery`. The framework id survives them all once it is stored and the master
confirms it (`framework_id_kept`). -/
namespace QuobyteMesos.Incarnations
open Machine WriteBack CrashRecovery StateStore

/-- The calls that write the state back, `erase` among them. -/
inductive Change where
  | set (setter : Setter)
  | erase

/-- What a call makes of the state in memory. -/
def Change.apply : Change → SchedulerState → SchedulerState
  | .set setter, state => setter.apply state
  | .erase, _ => {}

variable (format : TextFormat SchedulerState String) {memory : SchedulerState} {value : String}

/-- The framework through all its incarnations. -/
abbrev incarnationStep : State SchedulerState String → Life Change → Outcome (State SchedulerState String) Unit :=
  lifeStep format Change.apply

/-- However the calls of an incarnation interleave and wherever it ends, the next one
parses what is stored, and finds a framework id and a version that were in memory
together before. -/
theorem incarnation_recovers (version : ℕ) (loaded : format.parse value = some memory)
    (lives : List (Life Change)) :
    ∃ s data, (run (incarnationStep format) (constructed memory value version) lives).next = some s ∧
      format.parse s.value = some data ∧
      Passed (fun s => s.memory = data) (incarnationStep format) (constructed memory value version) lives :=
  recovers_past loaded rfl lives

/-- Calls that do not overlap lose no more than one change at each restart. -/
theorem serial_incarnations (version : ℕ) (loaded : format.parse value = some memory)
    {lives : List (Life Change)} {s : State SchedulerState String}
    (alone : Throughout (fun _ => Alone) (incarnationStep format) (constructed memory value version) lives)
    (ran : (run (incarnationStep format) (constructed memory value version) lives).next = some s) :
    ∃ kept, kept.Sublist (lives.filterMap begun) ∧
      (lives.filterMap begun).length ≤ kept.length + lives.countP isRestart ∧
      s.memory = replay Change.apply memory kept ∧
      (Settled s → format.parse s.value = some s.memory) ∧
      (¬ Settled s → ∃ earlier change, kept = earlier ++ [change] ∧
        format.parse s.value = some (replay Change.apply memory earlier)) :=
  serial_restarts loaded rfl alone ran

/-! ### A crash in the middle of a rollout -/

/-- The second version is printed, and the process ends before it is stored. -/
def versionLost : List (Life Change) :=
  [.call (.update (.set (.setTargetVersion "1"))), .call (.fetch 0), .call (.store 0),
    .call (.update (.set (.setTargetVersion "2"))), .call (.fetch 1), .restart false]

private def isReturned : Call String → Bool
  | .returned => true
  | .serialized _ | .fetched .. => false

/-- A sufficient check that calls do not overlap. -/
private def aloneCheck (s : State SchedulerState String) : Life Change → Bool
  | .call (.update _) => s.calls.all isReturned
  | .restart late => !late
  | .call (.fetch _) | .call (.store _) => true

private theorem alone_of_check (s : State SchedulerState String) (life : Life Change)
    (passed : aloneCheck s life = true) : Alone s life := by
  cases life with
  | call next =>
    cases next with
    | update change =>
      intro call member
      have returned := List.all_eq_true.mp passed call member
      cases call <;> first | rfl | cases returned
    | fetch | store => trivial
  | restart late =>
    rintro rfl
    cases passed

private theorem version_lost_runs : ∃ s, (run (incarnationStep textFormat)
    (constructed {} "" 0) versionLost).next = some s ∧ s.memory.targetVersion = "1" := by
  have runs : (run (incarnationStep textFormat) (constructed {} "" 0) versionLost).next.any
      (fun s => s.memory.targetVersion = "1") = true := by decide +kernel
  obtain ⟨s, ran, version⟩ := (Option.any_eq_true _ _).mp runs
  exact ⟨s, ran, of_decide_eq_true version⟩

/-- The first version is what is left, and one of the two changes. -/
theorem version_lost_recovered : ∃ s kept, (run (incarnationStep textFormat)
      (constructed {} "" 0) versionLost).next = some s ∧ s.memory.targetVersion = "1" ∧
    s.memory = replay Change.apply {} kept ∧ 2 ≤ kept.length + 1 := by
  obtain ⟨s, ran, version⟩ := version_lost_runs
  have checked : throughoutCheck (fun _ => aloneCheck) (incarnationStep textFormat) []
      (constructed {} "" 0) versionLost = true := by decide +kernel
  have implies : ∀ (seen : List (Life Change)) s life, aloneCheck s life = true →
      (fun _ => Alone) seen s life := fun _ s life passed => alone_of_check s life passed
  have alone := throughout_of_check _ implies checked
  obtain ⟨kept, _, counted, memory, _⟩ := serial_incarnations textFormat 0 (by decide +kernel) alone ran
  exact ⟨s, kept, ran, version, memory, counted⟩

/-- Its text was in memory before the process ended. -/
theorem version_lost_parses : ∃ s data, (run (incarnationStep textFormat)
      (constructed {} "" 0) versionLost).next = some s ∧ parseState s.value = some data ∧
    Passed (fun s => s.memory = data) (incarnationStep textFormat) (constructed {} "" 0) versionLost :=
  incarnation_recovers textFormat 0 (by decide +kernel) versionLost

/-! ### The framework id -/

variable {format} {s s' : State SchedulerState String} {id : String} {life : Life Change}

/-- The master confirms the id the framework has; nothing is erased. -/
def Confirms (id : String) : Life Change → Prop
  | .call (.update (.set (.setFrameworkId confirmed))) => confirmed = id
  | .call (.update .erase) => False
  | .call (.update (.set (.setTargetVersion _))) | .call (.fetch _) | .call (.store _)
  | .restart _ => True

/-- The id is in memory and in every text that is stored or under way. -/
structure Registered (format : TextFormat SchedulerState String) (id : String)
    (s : State SchedulerState String) : Prop where
  memory : s.memory.frameworkIdValue = id
  texts : ∀ text, Holds s text → ∃ data, format.parse text = some data ∧ data.frameworkIdValue = id

theorem registered_life (registered : Registered format id s) (confirms : Confirms id life)
    (stepped : (incarnationStep format s life).next = some s') : Registered format id s' := by
  cases life with
  | call next =>
    cases stepped
    have after : (step format Change.apply s next).memory.frameworkIdValue = id := by
      cases next with
      | update change =>
        cases change with
        | erase => exact confirms.elim
        | set setter =>
          cases setter with
          | setFrameworkId confirmed => exact confirms
          | setTargetVersion version => exact registered.memory
      | fetch call =>
        rcases fetch_cases format Change.apply s call with idle | ⟨_, _, fetched⟩
        · rw [idle]
          exact registered.memory
        · rw [fetched]
          exact registered.memory
      | store call =>
        rcases store_cases format Change.apply s call with ⟨idle, _⟩ | ⟨_, _, _, _, late⟩ | ⟨_, _, taken⟩
        · rw [idle]
          exact registered.memory
        · rw [late]
          exact registered.memory
        · rw [taken]
          exact registered.memory
    refine ⟨after, fun text held => ?_⟩
    rcases holds_step held with earlier | ⟨change, rfl, rfl⟩
    · exact registered.texts text earlier
    · exact ⟨_, format.round_trip _, after⟩
  | restart late =>
    obtain ⟨memory, parsed, rfl⟩ := Option.map_eq_some_iff.mp stepped
    obtain ⟨data, same, named⟩ := registered.texts s.value (.inl rfl)
    obtain rfl := Option.some.inj (parsed.symm.trans same)
    exact ⟨named, fun text held => registered.texts text (holds_restart held)⟩

/-- Once the framework id is stored and no call is under way, every later incarnation
has it, whatever the calls do to each other and wherever they are cut off. -/
theorem framework_id_kept (settled : Settled s) (current : Current format s s.value)
    {lives : List (Life Change)} (confirms : ∀ life ∈ lives, Confirms s.memory.frameworkIdValue life)
    (ran : (run (incarnationStep format) s lives).next = some s') :
    s'.memory.frameworkIdValue = s.memory.frameworkIdValue ∧
      ∃ data, format.parse s'.value = some data ∧
        data.frameworkIdValue = s.memory.frameworkIdValue := by
  have start : Registered format s.memory.frameworkIdValue s := by
    refine ⟨rfl, ?_⟩
    rintro text (rfl | waits | ⟨_, sent⟩)
    · exact ⟨_, current, rfl⟩
    · cases settled _ waits
    · cases settled _ sent
  have registered : Registered format s.memory.frameworkIdValue s' := run_invariant_along
    (fun _ _ _ registered confirms stepped => registered_life registered confirms stepped) start
    (along_of_all fun _ => confirms) ran
  exact ⟨registered.memory, registered.texts s'.value (.inl rfl)⟩

/-- A version is posted, the process ends with the store under way, the master confirms
the id to the next one, and the old store lands in between. -/
def landedLate : List (Life Change) :=
  [.call (.update (.set (.setTargetVersion "2"))), .call (.fetch 0), .restart true,
    .call (.update (.set (.setFrameworkId "f1"))), .call (.fetch 1), .call (.store 0),
    .call (.store 1), .restart false]

/-- The framework still has its id. -/
theorem landed_late_kept : ∃ s, (run (incarnationStep textFormat)
      (constructed ⟨"f1", "1"⟩ (textFormat.print ⟨"f1", "1"⟩) 0) landedLate).next = some s ∧
    s.memory.frameworkIdValue = "f1" := by
  have runs : (run (incarnationStep textFormat)
      (constructed ⟨"f1", "1"⟩ (textFormat.print ⟨"f1", "1"⟩) 0) landedLate).next.isSome = true := by
    decide +kernel
  obtain ⟨s, ran⟩ := Option.isSome_iff_exists.mp runs
  have settled : Settled (constructed (⟨"f1", "1"⟩ : SchedulerState) (textFormat.print ⟨"f1", "1"⟩) 0) := nofun
  have confirms : ∀ life ∈ landedLate, Confirms "f1" life := by
    simp [landedLate, Confirms]
  have current : Current textFormat (constructed ⟨"f1", "1"⟩ (textFormat.print ⟨"f1", "1"⟩) 0)
      (textFormat.print ⟨"f1", "1"⟩) :=
    textFormat.round_trip ⟨"f1", "1"⟩
  exact ⟨s, ran, (framework_id_kept settled current confirms ran).1⟩

end QuobyteMesos.Incarnations
