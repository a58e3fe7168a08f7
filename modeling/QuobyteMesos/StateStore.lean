import QuobyteMesos.Scheduler
import QuobyteMesos.WriteBack

/-! The persistent state behind `SchedulerStateProxy`.

The driver's thread sets the framework id, and every connection of the HTTP
server sets the target version on a thread of its own; both change the message in
memory and write it back. `messageFormat` prints and parses the message as the
protocol buffer library does, which tells a field that is empty from one that is not
set. All other readers see the values of the fields, in which the two are the same
(`values_similar`). -/
namespace QuobyteMesos.StateStore
open WriteBack

/-- The calls that write the state back. -/
inductive Setter where
  | setFrameworkId (id : String)
  | setTargetVersion (version : String)

/-- What a setter makes of the state in memory. -/
def Setter.apply : Setter → SchedulerState → SchedulerState
  | .setFrameworkId id, state => (QuobyteMesos.setFrameworkId (Scheduler.fresh state) id).state
  | .setTargetVersion version, state =>
    (QuobyteMesos.setTargetVersion (Scheduler.fresh state) version).state

/-- The constructor parsed the stored text; no call is under way. -/
def constructed {δ : Type} (memory : δ) (value : String) (version : ℕ) : State δ String :=
  ⟨memory, value, version, []⟩

/-- The message in memory: a field may be absent. -/
structure StateMessage where
  frameworkIdValue : Option String := none
  targetVersion : Option String := none
  deriving DecidableEq, Repr

/-- What the accessors return; a field that is absent reads as the empty string. -/
def StateMessage.values (message : StateMessage) : SchedulerState :=
  ⟨message.frameworkIdValue.getD "", message.targetVersion.getD ""⟩

/-- What a setter makes of the message: the field is present from then on. -/
def Setter.set : Setter → StateMessage → StateMessage
  | .setFrameworkId id, message => { message with frameworkIdValue := some id }
  | .setTargetVersion version, message => { message with targetVersion := some version }

theorem values_set (change : Setter) (message : StateMessage) :
    (change.set message).values = change.apply message.values := by
  cases change <;> rfl

/-- For every interleaving of calls of the two setters, once all have returned: the
stored text parses to the state in memory if and only if whatever a store spoiled
was printed anew by a later call. -/
theorem stored_state_recovers_iff (format : TextFormat SchedulerState String)
    {memory : SchedulerState} {value : String} (version : ℕ)
    (loaded : format.parse value = some memory) (steps : List (Step Setter))
    (settled : Settled (run format Setter.apply (constructed memory value version) steps)) :
    format.parse (run format Setter.apply (constructed memory value version) steps).value =
        some (run format Setter.apply (constructed memory value version) steps).memory ↔
      Repaired format Setter.apply (constructed memory value version) steps := by
  refine settled_recovers_iff ?_ loaded settled
  intro text version member
  cases member

/-! ### The text format -/

/-- A character of a quoted string; the rest of the escapes stand for characters
that are not printed. -/
def escapeChar (c : Char) : List Char :=
  if c = '\x22' ∨ c = '\x5c' then ['\x5c', c] else if c = '\n' then ['\x5c', 'n'] else [c]

/-- Reading up to the closing quote. -/
def unescape : List Char → Option (List Char × List Char)
  | [] => none
  | c :: rest =>
    if c = '\x22' then
      some ([], rest)
    else if c = '\x5c' then
      match rest with
      | [] => none
      | escaped :: rest => (unescape rest).map fun parts =>
        ((if escaped = 'n' then '\n' else escaped) :: parts.1, parts.2)
    else
      (unescape rest).map fun parts => (c :: parts.1, parts.2)

private theorem unescape_quote (rest : List Char) : unescape ('\x22' :: rest) = some ([], rest) := by
  rw [unescape.eq_def]
  simp

private theorem unescape_escaped (c : Char) (rest : List Char) :
    unescape ('\x5c' :: c :: rest) =
      (unescape rest).map fun parts => ((if c = 'n' then '\n' else c) :: parts.1, parts.2) := by
  rw [unescape.eq_def]
  simp

private theorem unescape_plain {c : Char} (quote : c ≠ '\x22') (escape : c ≠ '\x5c')
    (rest : List Char) :
    unescape (c :: rest) = (unescape rest).map fun parts => (c :: parts.1, parts.2) := by
  rw [unescape.eq_def]
  simp [quote, escape]

/-- What was escaped is read back, up to the quote behind it. -/
theorem unescape_escape (text rest : List Char) :
    unescape (text.flatMap escapeChar ++ '\x22' :: rest) = some (text, rest) := by
  induction text with
  | nil => exact unescape_quote rest
  | cons c text ih =>
    rw [List.flatMap_cons, List.append_assoc]
    by_cases quoted : c = '\x22' ∨ c = '\x5c'
    · have letter : c ≠ 'n' := by
        rintro rfl
        revert quoted
        decide
      simp [escapeChar, quoted, unescape_escaped, ih, letter]
    · by_cases feed : c = '\n'
      · simp [escapeChar, feed, unescape_escaped, ih]
      · simp only [escapeChar, quoted, feed, if_false, List.singleton_append]
        rw [not_or] at quoted
        rw [unescape_plain quoted.1 quoted.2, ih]
        rfl

/-- A line for a field that is present. -/
def printField (name : String) : Option String → List Char
  | none => []
  | some value => (name ++ ": \x22").toList ++ (value.toList.flatMap escapeChar ++ ['\x22', '\n'])

def parseField (name : String) (text : List Char) : Option (Option String × List Char) :=
  if (name ++ ": \x22").toList <+: text then
    match unescape (text.drop (name ++ ": \x22").toList.length) with
    | some (value, '\n' :: rest) => some (some (String.ofList value), rest)
    | some _ | none => none
  else
    some (none, text)

theorem parseField_printField {name : String} {field : Option String} {rest : List Char}
    (other : ¬ (name ++ ": \x22").toList <+: rest) :
    parseField name (printField name field ++ rest) = some (field, rest) := by
  cases field with
  | none => simp only [printField, List.nil_append, parseField, other, if_false]
  | some value =>
    have read := unescape_escape value.toList ('\n' :: rest)
    have text : printField name (some value) ++ rest = (name ++ ": \x22").toList ++
        (value.toList.flatMap escapeChar ++ '\x22' :: '\n' :: rest) := by
      simp [printField]
    rw [text, parseField, if_pos (List.prefix_append _ _), List.drop_left, read]
    simp

/-- The fields of the message in the order of their numbers, each on a line of its
own. -/
def printMessage (message : StateMessage) : String :=
  String.ofList (printField "framework_id_value" message.frameworkIdValue ++
    printField "target_version" message.targetVersion)

def parseMessage (text : String) : Option StateMessage :=
  (parseField "framework_id_value" text.toList).bind fun id =>
    (parseField "target_version" id.2).bind fun version =>
      if version.2 = [] then some ⟨id.1, version.1⟩ else none

theorem parseMessage_printMessage (message : StateMessage) :
    parseMessage (printMessage message) = some message := by
  have id : parseField "framework_id_value"
      (printField "framework_id_value" message.frameworkIdValue ++
        printField "target_version" message.targetVersion) =
      some (message.frameworkIdValue, printField "target_version" message.targetVersion) := by
    apply parseField_printField
    cases message.targetVersion <;> simp [printField]
  have version : parseField "target_version" (printField "target_version" message.targetVersion) =
      some (message.targetVersion, []) := by
    have alone : parseField "target_version"
        (printField "target_version" message.targetVersion ++ []) =
        some (message.targetVersion, []) := parseField_printField (by simp)
    rwa [List.append_nil] at alone
  simp [parseMessage, printMessage, id, version]

/-- The form the message has in the store. -/
def messageFormat : TextFormat StateMessage String where
  print := printMessage
  parse := parseMessage
  round_trip := parseMessage_printMessage

/-- A field of which nothing but the value is known: it is set if it is not empty. -/
def present (value : String) : Option String := if value = "" then none else some value

theorem present_getD (value : String) : (present value).getD "" = value := by
  unfold present
  split
  · rename_i empty
    rw [empty]
    rfl
  · rfl

def printState (state : SchedulerState) : String :=
  printMessage ⟨present state.frameworkIdValue, present state.targetVersion⟩

def parseState (text : String) : Option SchedulerState := (parseMessage text).map StateMessage.values

theorem parseState_printState (state : SchedulerState) :
    parseState (printState state) = some state := by
  rw [parseState, printState, parseMessage_printMessage, Option.map_some, StateMessage.values,
    present_getD, present_getD]

/-- What is read of the values of the fields. -/
def textFormat : TextFormat SchedulerState String where
  print := printState
  parse := parseState
  round_trip := parseState_printState

/-- Whatever the setters do to the message, they do to the values of its fields; what is
stored is read as the same values. -/
theorem values_similar {message : StateMessage} {value : String} (version : ℕ)
    (steps : List (Step Setter)) :
    Similar messageFormat textFormat StateMessage.values
      (run messageFormat Setter.set (constructed message value version) steps)
      (run textFormat Setter.apply (constructed message.values value version) steps) := by
  have begun : Similar messageFormat textFormat StateMessage.values
      (constructed message value version) (constructed message.values value version) :=
    ⟨rfl, rfl, rfl, .nil⟩
  exact similar_run values_set begun steps

example : printState ⟨"f1", "1.1"⟩ =
    "framework_id_value: \x22f1\x22\ntarget_version: \x221.1\x22\n" := by decide +kernel

/-! ### A call that nothing interleaves with -/

/-- A call of a setter, whose store comes in. -/
def call (p : State StateMessage String) (change : Setter) : State StateMessage String :=
  run messageFormat Setter.set p [.update change, .fetch p.calls.length, .store p.calls.length]

/-- It leaves the message it made in memory and in the store. -/
theorem call_eq (p : State StateMessage String) (change : Setter) :
    call p change =
      { memory := change.set p.memory, value := printMessage (change.set p.memory)
        version := p.version + 1, calls := p.calls ++ [.returned] } := by
  simp [call, run, step, messageFormat]

/-! ### A registration while a version is posted -/

/-- The outdated text of the first call is stored before the second one fetches. -/
def registeredFirst : List (Step Setter) :=
  [.update (.setFrameworkId "f1"), .fetch 0, .update (.setTargetVersion "1"), .store 0, .fetch 1,
    .store 1]

/-- The text of the second call, which holds both fields, is stored last. -/
theorem registered_first_recovers :
    parseState (run textFormat Setter.apply (constructed {} "" 0) registeredFirst).value =
      some ⟨"f1", "1"⟩ ∧
    Repaired textFormat Setter.apply (constructed {} "" 0) registeredFirst := by
  refine ⟨by decide +kernel, ?_⟩
  refine (stored_state_recovers_iff textFormat 0 (by decide +kernel) registeredFirst ?_).mp
    (by decide +kernel)
  intro call member
  revert member
  simp [registeredFirst, run, step, constructed]

/-- The first call prints its text, the second one goes through, and the first one
fetches and stores. -/
def registeredLast : List (Step Setter) :=
  [.update (.setFrameworkId "f1"), .update (.setTargetVersion "1"), .fetch 1, .store 1, .fetch 0,
    .store 0]

/-- Both stores take effect, and the posted version is lost: a restarted framework
would read an empty one, which asks it to shut down. -/
theorem posted_version_lost :
    Settled (run textFormat Setter.apply (constructed {} "" 0) registeredLast) ∧
    (run textFormat Setter.apply (constructed {} "" 0) registeredLast).memory = ⟨"f1", "1"⟩ ∧
    parseState (run textFormat Setter.apply (constructed {} "" 0) registeredLast).value =
      some ⟨"f1", ""⟩ := by
  refine ⟨?_, by decide +kernel, by decide +kernel⟩
  intro call member
  revert member
  simp [registeredLast, run, step, constructed]

end QuobyteMesos.StateStore
