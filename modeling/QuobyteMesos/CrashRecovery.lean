import QuobyteMesos.Machine
import QuobyteMesos.WriteBack

/-! A written-back value across restarts.

A restart reads the variable into memory and forgets the calls of the process that
ended; a store that was sent before may still land afterwards. Whatever the calls do to
each other and wherever they are cut off, a restart finds a text that parses, and what
it reads was in memory before (`recovers_past`). Calls that do not overlap lose at most
one change at each restart (`serial_restarts`). The module knows nothing of what is
stored. -/
namespace QuobyteMesos.CrashRecovery
open Machine WriteBack

variable {δ τ γ : Type}

/-- A step of some call, or the end of the process and its restart; the argument says
whether the stores that were sent may still land. -/
inductive Life (γ : Type) where
  | call (next : Step γ)
  | restart (late : Bool)

/-- What is left of a call when its process has ended. -/
def outlives (late : Bool) : Call τ → Call τ
  | .fetched text version => if late then .fetched text version else .returned
  | .serialized _ | .returned => .returned

variable (format : TextFormat δ τ) (apply : γ → δ → δ)

/-- A restart that cannot parse the variable ends for good. -/
def lifeStep (s : State δ τ) : Life γ → Outcome (State δ τ) Unit
  | .call next => ⟨some (step format apply s next), []⟩
  | .restart late =>
    ⟨(format.parse s.value).map fun memory =>
      { s with memory := memory, calls := s.calls.map (outlives late) }, []⟩

/-- The text is stored or under way. -/
def Holds (s : State δ τ) (text : τ) : Prop :=
  text = s.value ∨ .serialized text ∈ s.calls ∨ ∃ version, .fetched text version ∈ s.calls

variable {format apply} {s s' start : State δ τ} {next : Step γ} {life : Life γ}
variable {lives past : List (Life γ)} {text : τ} {call : ℕ} {change : γ}

/-! ### The texts -/

private theorem holds_set {calls : List (Call τ)} {new : Call τ} (old : ∃ old, calls[call]? = some old ∧
      (new = .returned ∨ ∃ text version, old = .serialized text ∧ new = .fetched text version)) :
    (.serialized text ∈ calls.set call new ∨ ∃ version, .fetched text version ∈ calls.set call new) →
      .serialized text ∈ calls ∨ ∃ version, .fetched text version ∈ calls := by
  obtain ⟨old, here, shape⟩ := old
  have made : ∀ other ∈ calls.set call new, other ∈ calls ∨ other = new :=
    fun _ => List.mem_or_eq_of_mem_set
  rintro (waits | ⟨version, sent⟩)
  · rcases made _ waits with earlier | same
    · exact .inl earlier
    · rcases shape with rfl | ⟨_, _, _, rfl⟩ <;> cases same
  · rcases made _ sent with earlier | same
    · exact .inr ⟨version, earlier⟩
    · rcases shape with rfl | ⟨printed, _, rfl, rfl⟩
      · cases same
      · cases same
        exact .inl (List.mem_of_getElem? here)

/-- A step brings up no text but that of a new call. -/
theorem holds_step (held : Holds (step format apply s next) text) :
    Holds s text ∨ ∃ change, next = .update change ∧ text = format.print (apply change s.memory) := by
  cases next with
  | update change =>
    rcases held with stored | waits | ⟨version, sent⟩
    · exact .inl (.inl stored)
    · rcases List.mem_append.mp waits with earlier | last
      · exact .inl (.inr (.inl earlier))
      · cases List.mem_singleton.mp last
        exact .inr ⟨change, rfl, rfl⟩
    · rcases List.mem_append.mp sent with earlier | last
      · exact .inl (.inr (.inr ⟨version, earlier⟩))
      · cases List.mem_singleton.mp last
  | fetch call =>
    left
    rcases fetch_cases format apply s call with idle | ⟨printed, here, fetched⟩
    · rwa [idle] at held
    · rw [fetched] at held
      exact held.imp_right (holds_set ⟨_, here, .inr ⟨printed, s.version, rfl, rfl⟩⟩)
  | store call =>
    left
    rcases store_cases format apply s call with ⟨idle, _⟩ | ⟨old, version, here, _, late⟩ | ⟨old, here, taken⟩
    · rwa [idle] at held
    · rw [late] at held
      exact held.imp_right (holds_set ⟨_, here, .inl rfl⟩)
    · rw [taken] at held
      rcases held with rfl | underWay
      · exact .inr (.inr ⟨s.version, List.mem_of_getElem? here⟩)
      · exact .inr (holds_set ⟨_, here, .inl rfl⟩ underWay)

/-- A restart brings up no text at all. -/
theorem holds_restart {late : Bool} {memory : δ}
    (held : Holds { s with memory := memory, calls := s.calls.map (outlives late) } text) :
    Holds s text := by
  have kept : ∀ old ∈ s.calls, ∀ version, outlives late old = .fetched text version →
      old = .fetched text version := by
    intro old _ version same
    cases old with
    | serialized | returned => cases same
    | fetched =>
      cases late with
      | false => cases same
      | true => exact same
  rcases held with stored | waits | ⟨version, sent⟩
  · exact .inl stored
  · obtain ⟨old, _, same⟩ := List.mem_map.mp waits
    cases old with
    | serialized | returned => cases same
    | fetched => cases late <;> cases same
  · obtain ⟨old, member, same⟩ := List.mem_map.mp sent
    exact .inr (.inr ⟨version, kept old member version same ▸ member⟩)

/-! ### Any interleaving -/

/-- Every text parses. -/
def Readable (format : TextFormat δ τ) (s : State δ τ) : Prop :=
  ∀ text, Holds s text → ∃ data, format.parse text = some data

theorem readable_life (readable : Readable format s) (life : Life γ) :
    ∃ s', (lifeStep format apply s life).next = some s' ∧ Readable format s' := by
  cases life with
  | call next =>
    refine ⟨_, rfl, fun text held => ?_⟩
    rcases holds_step held with earlier | ⟨change, _, rfl⟩
    · exact readable text earlier
    · exact ⟨_, format.round_trip _⟩
  | restart late =>
    obtain ⟨memory, parsed⟩ := readable s.value (.inl rfl)
    refine ⟨_, by rw [lifeStep, parsed, Option.map_some], fun text held => ?_⟩
    exact readable text (holds_restart held)

/-- Every text holds what was in memory once. -/
def Remembered (format : TextFormat δ τ) (apply : γ → δ → δ) (start : State δ τ)
    (past : List (Life γ)) (s : State δ τ) : Prop :=
  ∀ text, Holds s text → ∃ data, format.parse text = some data ∧
    Passed (fun s => s.memory = data) (lifeStep format apply) start past

theorem remembered_life (ran : (run (lifeStep format apply) start past).next = some s)
    (remembered : Remembered format apply start past s)
    (stepped : (lifeStep format apply s life).next = some s') :
    Remembered format apply start (past ++ [life]) s' := by
  have later : ∀ text, Holds s text → ∃ data, format.parse text = some data ∧
      Passed (fun s => s.memory = data) (lifeStep format apply) start (past ++ [life]) := by
    intro text held
    obtain ⟨data, parsed, passed⟩ := remembered text held
    exact ⟨data, parsed, passed.append _⟩
  have reached : (run (lifeStep format apply) start (past ++ [life])).next = some s' := by
    rw [run_append_next ran, run_singleton, stepped]
  intro text held
  cases life with
  | call next =>
    cases stepped
    rcases holds_step held with earlier | ⟨change, rfl, rfl⟩
    · exact later text earlier
    · exact ⟨_, format.round_trip _, passed_here reached rfl⟩
  | restart late =>
    obtain ⟨memory, _, rfl⟩ := Option.map_eq_some_iff.mp stepped
    exact later text (holds_restart held)

/-- However the calls interleave and wherever restarts cut them off, every restart
succeeds, and what the next one would read was in memory before. -/
theorem recovers_past (loaded : format.parse start.value = some start.memory)
    (idle : start.calls = []) (lives : List (Life γ)) :
    ∃ s data, (run (lifeStep format apply) start lives).next = some s ∧
      format.parse s.value = some data ∧
      Passed (fun s => s.memory = data) (lifeStep format apply) start lives := by
  have only : ∀ text, Holds start text → text = start.value := by
    rintro text (stored | waits | ⟨_, sent⟩)
    · exact stored
    · simp [idle] at waits
    · simp [idle] at sent
  have readable : Readable format start := by
    intro text held
    rw [only text held]
    exact ⟨_, loaded⟩
  have allowed : ∀ life ∈ lives, (fun _ : Life γ => True) life := fun _ _ => trivial
  obtain ⟨s, ran⟩ := run_continues (Readable format)
    (fun s life readable _ => readable_life readable life) readable allowed
  have remembered : Remembered format apply start lives s := by
    refine run_recalling (Remembered format apply start)
      (fun _ _ _ _ ran held stepped => remembered_life ran held stepped) (fun text held => ?_) ran
    rw [only text held]
    exact ⟨_, loaded, passed_here rfl rfl⟩
  obtain ⟨data, parsed, passed⟩ := remembered s.value (.inl rfl)
  exact ⟨s, data, ran, parsed, passed⟩

/-! ### Calls that do not overlap -/

/-- A call begins when all others have returned, and no store outlives its process. -/
def Alone (s : State δ τ) : Life γ → Prop
  | .call (.update _) => Settled s
  | .restart late => late = true → ∀ text version, .fetched text version ∉ s.calls
  | .call (.fetch _) | .call (.store _) => True

/-- The change a call begins with. -/
def begun : Life γ → Option γ
  | .call (.update change) => some change
  | .call (.fetch _) | .call (.store _) | .restart _ => none

def isRestart : Life γ → Bool
  | .restart _ => true
  | .call _ => false

def replay (apply : γ → δ → δ) (initial : δ) (changes : List γ) : δ :=
  changes.foldl (fun data change => apply change data) initial

/-- Either everything is stored, or only the latest change is in the hand of its call. -/
inductive Serial (format : TextFormat δ τ) (apply : γ → δ → δ) (initial : δ) (s : State δ τ) :
    List γ → Prop where
  | stored {changes : List γ} (settled : Settled s) (current : Current format s s.value)
      (memory : s.memory = replay apply initial changes) : Serial format apply initial s changes
  | inHand {changes : List γ} {change : γ} {before : List (Call τ)} {last : Call τ} {text : τ}
      (calls : s.calls = before ++ [last]) (returned : ∀ call ∈ before, call = .returned)
      (shape : last = .serialized text ∨ last = .fetched text s.version)
      (current : Current format s text)
      (memory : s.memory = replay apply initial (changes ++ [change]))
      (value : format.parse s.value = some (replay apply initial changes)) :
      Serial format apply initial s (changes ++ [change])

variable {initial : δ} {changes : List γ} {before : List (Call τ)} {last : Call τ}

/-- The call in hand is the only one that can go on. -/
private theorem at_last {old : Call τ} (calls : s.calls = before ++ [last])
    (returned : ∀ call ∈ before, call = .returned) (here : s.calls[call]? = some old)
    (going : old ≠ .returned) : old = last ∧ ∀ new, s.calls.set call new = before ++ [new] := by
  rw [calls] at here ⊢
  rcases Nat.lt_trichotomy call before.length with earlier | rfl | later
  · rw [List.getElem?_append_left earlier] at here
    exact absurd (returned old (List.mem_of_getElem? here)) going
  · have same : last = old := by simpa using here
    exact ⟨same.symm, fun new => by simp⟩
  · rw [List.getElem?_eq_none (by simp; omega)] at here
    cases here

private theorem settled_idle (settled : Settled s) (call : ℕ) :
    step format apply s (.fetch call) = s ∧ step format apply s (.store call) = s := by
  constructor
  · rcases fetch_cases format apply s call with idle | ⟨text, here, _⟩
    · exact idle
    · cases settled _ (List.mem_of_getElem? here)
  · rcases store_cases format apply s call with ⟨idle, _⟩ | ⟨_, _, here, _⟩ | ⟨_, here, _⟩
    · exact idle
    · cases settled _ (List.mem_of_getElem? here)
    · cases settled _ (List.mem_of_getElem? here)

/-- A step of the call in hand, or of one that has returned. -/
theorem serial_call (serial : Serial format apply initial s changes) (call : ℕ) :
    Serial format apply initial (step format apply s (.fetch call)) changes ∧
      Serial format apply initial (step format apply s (.store call)) changes := by
  cases serial with
  | stored settled current memory =>
    obtain ⟨fetched, stored⟩ := settled_idle settled call
    rw [fetched, stored]
    exact ⟨.stored settled current memory, .stored settled current memory⟩
  | @inHand changes change before last text calls returned shape current memory value =>
    have same : Serial format apply initial s (changes ++ [change]) :=
      .inHand calls returned shape current memory value
    constructor
    · rcases fetch_cases format apply s call with idle | ⟨printed, here, fetched⟩
      · rwa [idle]
      · obtain ⟨is, rest⟩ := at_last calls returned here (by simp)
        rw [fetched, rest]
        rcases shape with rfl | rfl <;> cases is
        exact .inHand rfl returned (.inr rfl) current memory value
    · rcases store_cases format apply s call with ⟨idle, _⟩ | ⟨old, version, here, passed, _⟩ |
        ⟨old, here, taken⟩
      · rwa [idle]
      · obtain ⟨is, _⟩ := at_last calls returned here (by simp)
        rcases shape with rfl | rfl <;> cases is
        exact absurd rfl passed
      · obtain ⟨is, rest⟩ := at_last calls returned here (by simp)
        rw [taken, rest]
        rcases shape with rfl | rfl <;> cases is
        refine .stored (fun other member => ?_) current memory
        rcases List.mem_append.mp member with earlier | only
        · exact returned other earlier
        · exact List.mem_singleton.mp only

/-- One more step keeps the changes made, but for the one in hand at a restart. -/
theorem serial_life (serial : Serial format apply initial s changes) (alone : Alone s life)
    (stepped : (lifeStep format apply s life).next = some s') :
    ∃ kept, Serial format apply initial s' kept ∧ kept.Sublist (changes ++ (begun life).toList) ∧
      (changes ++ (begun life).toList).length ≤ kept.length + if isRestart life then 1 else 0 := by
  cases life with
  | call next =>
    cases next with
    | fetch call =>
      cases stepped
      exact ⟨changes, (serial_call serial call).1, by simp [begun], by simp [begun]⟩
    | store call =>
      cases stepped
      exact ⟨changes, (serial_call serial call).2, by simp [begun], by simp [begun]⟩
    | update change =>
      cases stepped
      refine ⟨changes ++ [change], ?_, by simp [begun], by simp [begun]⟩
      cases serial with
      | stored settled current memory =>
        have after : apply change s.memory = replay apply initial (changes ++ [change]) := by
          rw [memory, replay, replay, List.foldl_append]
          rfl
        refine .inHand rfl settled (.inl rfl) (format.round_trip _) after ?_
        rw [← memory]
        exact current
      | inHand calls returned shape =>
        have ended := alone _ (by rw [calls]; exact List.mem_append_right _ (List.mem_singleton_self _))
        rcases shape with rfl | rfl <;> cases ended
  | restart late =>
    obtain ⟨memory, parsed, rfl⟩ := Option.map_eq_some_iff.mp stepped
    have settled : ∀ call ∈ s.calls.map (outlives late), call = .returned := by
      intro call member
      obtain ⟨old, listed, rfl⟩ := List.mem_map.mp member
      cases old with
      | serialized | returned => rfl
      | fetched text version =>
        cases late with
        | false => rfl
        | true => exact absurd listed (alone rfl text version)
    cases serial with
    | stored _ current before =>
      have same : memory = s.memory := Option.some.inj (parsed.symm.trans current)
      exact ⟨changes, .stored settled parsed (same.trans before), by simp [begun], by simp [begun]⟩
    | @inHand changes change _ _ _ _ _ _ _ _ value =>
      have same : memory = replay apply initial changes := Option.some.inj (parsed.symm.trans value)
      exact ⟨changes, .stored settled parsed same, by simp [begun], by simp [begun, isRestart]⟩

private theorem serial_run (loaded : format.parse start.value = some start.memory)
    (idle : start.calls = []) (alone : Throughout (fun _ => Alone) (lifeStep format apply) start lives)
    (ran : (run (lifeStep format apply) start lives).next = some s) :
    ∃ kept, Serial format apply start.memory s kept ∧ kept.Sublist (lives.filterMap begun) ∧
      (lives.filterMap begun).length ≤ kept.length + lives.countP isRestart := by
  refine run_fed (fun past s => ∃ kept, Serial format apply start.memory s kept ∧
    kept.Sublist (past.filterMap begun) ∧
      (past.filterMap begun).length ≤ kept.length + past.countP isRestart) ?_ ?_ alone ran
  · rintro past s life s' ⟨made, serial, listed, counted⟩ alone stepped
    obtain ⟨kept, serial', listed', counted'⟩ := serial_life serial alone stepped
    have grown : (past ++ [life]).filterMap begun = past.filterMap begun ++ (begun life).toList := by
      cases fresh : begun life <;> simp [fresh]
    rw [grown]
    refine ⟨kept, serial', listed'.trans (listed.append (List.Sublist.refl _)), ?_⟩
    rw [List.countP_append, List.countP_singleton]
    simp only [List.length_append] at counted' ⊢
    omega
  · refine ⟨[], .stored (fun call member => ?_) loaded rfl, List.Sublist.refl _, Nat.le_refl _⟩
    rw [idle] at member
    cases member

/-- Calls that do not overlap: what is in memory is the work of the changes made, in
their order, but for one at most at each restart. It is stored when every call has
returned, and until then only the latest change is not. -/
theorem serial_restarts (loaded : format.parse start.value = some start.memory)
    (idle : start.calls = []) (alone : Throughout (fun _ => Alone) (lifeStep format apply) start lives)
    (ran : (run (lifeStep format apply) start lives).next = some s) :
    ∃ kept, kept.Sublist (lives.filterMap begun) ∧
      (lives.filterMap begun).length ≤ kept.length + lives.countP isRestart ∧
      s.memory = replay apply start.memory kept ∧
      (Settled s → format.parse s.value = some s.memory) ∧
      (¬ Settled s → ∃ earlier change, kept = earlier ++ [change] ∧
        format.parse s.value = some (replay apply start.memory earlier)) := by
  obtain ⟨kept, serial, listed, counted⟩ := serial_run loaded idle alone ran
  refine ⟨kept, listed, counted, ?_⟩
  cases serial with
  | stored settled current memory => exact ⟨memory, fun _ => current, fun open' => absurd settled open'⟩
  | @inHand changes change before last text calls _ shape current memory value =>
    refine ⟨memory, fun settled => ?_, fun _ => ⟨changes, change, rfl, value⟩⟩
    have ended := settled last (by rw [calls]; exact List.mem_append_right _ (List.mem_singleton_self _))
    rcases shape with rfl | rfl <;> cases ended

end QuobyteMesos.CrashRecovery
