import QuobyteMesos.StartCommand

/-! The start command of a service as a shell runs it.

Without special characters in its strings the text is read as the exports it is
written from, and every export is carried out: `run_carried` says with which values.
The command works where these are the values meant (`works_iff`). That special
characters do not get through is seen in surroundings that bring in none, where one in
an argument can come from nowhere but the text. -/
namespace QuobyteMesos.StartCommand
open StdString LaunchSteps SchedulerSteps TaskSettings Shell

variable {flags : Flags} {kind : ServiceKind} {hostName text : String} {rpcPort httpPort : ℕ}
variable {surroundings : Surroundings}

/-! ### What a shell makes of the exports -/

/-- The command that looks the host up: the host is a word of its own, and may be a pattern. -/
def dug (surroundings : Surroundings) (host : Text) : List Text :=
  ["dig".toList, "+short".toList] ++ glob surroundings host

/-- What it answers. -/
def found (surroundings : Surroundings) (host : Text) : Text :=
  stripped (surroundings.output (dug surroundings host))

/-- What the written value comes to, the variables being as given. -/
def Meaning.spelled (surroundings : Surroundings) (host : Text) (values : Text → Text) (meaning : Meaning) :
    Text :=
  if meaning = .lookup then found surroundings host
  else (valueTildes surroundings.home (meaning.pieces host)).flatMap (Piece.value values)

/-- The variables as the command finds them. -/
def foundValues (surroundings : Surroundings) (host : Text) : Text → Text := fun name =>
  if name = digLookup then found surroundings host else surroundings.environment name

/-- The commands run for the lookup, if this is the export that asks for it. -/
def Meant.lookups (surroundings : Surroundings) (host : Text) (m : Meant) : List (List Text) :=
  if m.meaning = .lookup then [dug surroundings host] else []

/-- The commands an export comes to. -/
def Meant.carried (surroundings : Surroundings) (host : Text) (m : Meant) : List (List Text) :=
  m.lookups surroundings host ++
  [[exportName, m.name.toList ++ '=' ::
    m.meaning.spelled surroundings host (foundValues surroundings host)]]

/-- dig runs in a subshell. -/
private theorem run_lookup {host : Text} (word : OrdinaryWord host) (fuel : ℕ) (s : Shell.State)
    (running : s.ended = false) :
    run surroundings (fuel + 1) s ("dig +short ".toList ++ host) = some { s with
      log := s.log ++ [dug surroundings host]
      written := s.written ++ surroundings.output (dug surroundings host)
      succeeded := surroundings.succeeds (dug surroundings host) } := by
  have text : "dig +short ".toList ++ host = [' '].intercalate (lookupCommand host) := by
    simp [lookupCommand, List.intercalate_cons_of_ne_nil]
  have words : ∀ word ∈ lookupCommand host, OrdinaryWord word := by
    intro other member
    simp only [lookupCommand, List.mem_cons, List.not_mem_nil, or_false] at member
    rcases member with rfl | rfl | rfl
    · exact ordinary_of_name (by decide)
    · exact ⟨by decide, by decide, by simp⟩
    · exact word
  have fields : ["+short".toList, host].flatMap (glob surroundings) =
      "+short".toList :: glob surroundings host := by
    have short : glob surroundings "+short".toList = ["+short".toList] := glob_ordinary (by decide)
    rw [List.flatMap_cons, short, List.flatMap_cons, List.flatMap_nil, List.append_nil]
    rfl
  have ran : command surroundings (run surroundings fuel) s
      (("dig".toList :: ["+short".toList, host]).map characters) = _ :=
    command_program (by decide) (by decide) (by decide) fun other member => (words other member).some
  rw [fields] at ran
  rw [text, run_words words (by simp [lookupCommand]) running]
  exact ran

/-- A host that begins a comment or a tilde prefix is not looked up. -/
private theorem run_lookup_unread {host : Text} {c : Char} (other : c = '#' ∨ c = '~') (rest : Text)
    (same : host = c :: rest) (fuel : ℕ) (s : Shell.State) :
    run surroundings fuel s ("dig +short ".toList ++ host) = none := by
  cases fuel with
  | zero => rfl
  | succ fuel =>
    have front : feed (.word []) "dig +short ".toList =
        some ([.word (characters "dig".toList), .word (characters "+short".toList)], .word []) := by
      decide
    rw [run, tokens, feed_append front, same, feed_unread other]
    rfl

/-- Only the lookup runs a command. -/
private theorem bare_tildes {meaning : Meaning} (other : meaning ≠ .lookup) (host : Text) :
    ∀ text, Piece.subst text ∉ valueTildes surroundings.home (meaning.pieces host) := by
  have bare : ∀ piece ∈ meaning.pieces host, ∀ text, piece.tildes surroundings.home ≠ .subst text := by
    intro piece member text
    cases meaning with
    | lookup => exact absurd rfl other
    | configured | mesosPort | address =>
      cases piece with
      | lit | param | orElse => rintro ⟨⟩
      | subst inner => simp [Meaning.pieces, characters] at member
  intro text member
  rcases mem_valueTildes member with ⟨_, _, _, _, _, same⟩ | same | ⟨piece, listed, same⟩
  · cases same
  · cases same
  · exact bare piece listed text same.symm

/-- The written value expands to what it comes to, and dig is the only command that runs. -/
private theorem expands_spelled {m : Meant} {host : Text} (word : OrdinaryWord host) (fuel : ℕ)
    (s : Shell.State) : ∃ expanded,
      expandWord (run surroundings (fuel + 1)) s (valueTildes surroundings.home (m.meaning.pieces host)) =
        some ({ s with log := s.log ++ m.lookups surroundings host }, expanded) ∧
      expanded.map Prod.fst = m.meaning.spelled surroundings host s.values := by
  by_cases lookup : m.meaning = .lookup
  · have ran : run surroundings (fuel + 1) { s with written := [], succeeded := true, ended := false }
        ("dig +short ".toList ++ host) = _ := run_lookup word fuel _ rfl
    refine ⟨splittable (found surroundings host), ?_, ?_⟩
    · have kept : valueTildes surroundings.home (Meaning.lookup.pieces host) =
          [.subst ("dig +short ".toList ++ host)] := valueTildes_single _ rfl
      rw [lookup, kept, expandWord_single, expandPiece, ran]
      simp [Meant.lookups, lookup, found]
    · rw [splittable_fst, Meaning.spelled, if_pos lookup]
  · obtain ⟨expanded, expands, spelled⟩ := expandWord_values (run surroundings (fuel + 1)) s
      (@bare_tildes surroundings m.meaning lookup host)
    refine ⟨expanded, ?_, ?_⟩
    · simp [expands, Meant.lookups, lookup]
    · rw [spelled, Meaning.spelled, if_neg lookup]

/-- The variables behind an export. -/
def setValue (surroundings : Surroundings) (host : Text) (values : Text → Text) (m : Meant) :
    Text → Text := fun other =>
  if other = m.name.toList then
    m.meaning.spelled surroundings host (foundValues surroundings host)
  else values other

def setValues (surroundings : Surroundings) (host : Text) (values : Text → Text) (list : List Meant) :
    Text → Text :=
  list.foldl (setValue surroundings host) values

/-- Every export finds the variables it reads as they are to be found. -/
def Ordered (surroundings : Surroundings) (host : Text) : (Text → Text) → List Meant → Prop
  | _, [] => True
  | values, m :: list =>
    m.meaning.spelled surroundings host values =
      m.meaning.spelled surroundings host (foundValues surroundings host) ∧
    Ordered surroundings host (setValue surroundings host values m) list

private theorem export_carried {m : Meant} {host : Text} (word : OrdinaryWord host) (fuel : ℕ)
    {s : Shell.State} (named : validName m.name.toList)
    (ordered : m.meaning.spelled surroundings host s.values =
      m.meaning.spelled surroundings host (foundValues surroundings host))
    (running : s.ended = false) :
    command surroundings (run surroundings (fuel + 1)) s
        [characters exportName, assignmentWord m.name.toList (m.meaning.pieces host)] =
      some { s with
        values := setValue surroundings host s.values m
        log := s.log ++ m.carried surroundings host
        succeeded := true } := by
  obtain ⟨expanded, expands, spelled⟩ := expands_spelled (m := m) word fuel s
  rw [command_export named (by exact running) expands, spelled, ordered, Meant.carried, List.append_assoc]
  rfl

/-- A list of exports is carried out one after the other. -/
private theorem exports_carried {list : List Meant} {host : Text} (word : OrdinaryWord host) (fuel : ℕ)
    {s : Shell.State} (named : ∀ m ∈ list, validName m.name.toList)
    (ordered : Ordered surroundings host s.values list) (running : s.ended = false)
    (clean : s.succeeded = true) :
    exportAll surroundings (run surroundings (fuel + 1)) s (list.map (Meant.asExport host)) =
      some { s with
        values := setValues surroundings host s.values list
        log := s.log ++ list.flatMap (Meant.carried surroundings host) } := by
  induction list generalizing s with
  | nil => simp [exportAll, setValues]
  | cons m list ih =>
    have first := export_carried word fuel (named m (by simp)) ordered.1 running
    have later := ih (s := { s with
        values := setValue surroundings host s.values m
        log := s.log ++ m.carried surroundings host
        succeeded := true }) (fun m member => named m (by simp [member])) ordered.2 running rfl
    rw [List.map_cons, exportAll]
    simp only [Meant.asExport, first, Option.bind_some] at later ⊢
    rw [later]
    simp [setValues, clean, List.append_assoc]

/-! ### The variables along the way -/

/-- The variables the expansion of a value depends on. -/
def Meaning.reads : Meaning → List Text
  | .configured _ | .lookup => []
  | .mesosPort name => [name.toList]
  | .address => [digLookup]

private theorem spelled_congr {meaning : Meaning} {host : Text} {values other : Text → Text}
    (same : ∀ name ∈ meaning.reads, values name = other name) :
    meaning.spelled surroundings host values = meaning.spelled surroundings host other := by
  have piece : ∀ piece ∈ valueTildes surroundings.home (meaning.pieces host),
      Piece.value values piece = Piece.value other piece := by
    intro piece member
    rcases mem_valueTildes member with ⟨_, _, _, _, _, rfl⟩ | rfl | ⟨original, listed, rfl⟩
    · rfl
    · rfl
    · cases original with
      | lit | subst => rfl
      | param name =>
        have read : name ∈ meaning.reads := by
          cases meaning with
          | mesosPort => simpa [Meaning.pieces, Meaning.reads] using listed
          | configured | lookup | address => simp [Meaning.pieces, characters] at listed
        exact same name read
      | orElse name alternative =>
        have read : name ∈ meaning.reads := by
          cases meaning with
          | address =>
            obtain ⟨rfl, _⟩ : name = digLookup ∧ alternative = braced host := by
              simpa [Meaning.pieces, characters] using listed
            exact List.mem_singleton_self _
          | configured | lookup | mesosPort => simp [Meaning.pieces, characters] at listed
        simp only [Piece.tildes, Piece.value, same name read]
  unfold Meaning.spelled
  rw [List.flatMap_def, List.map_congr_left piece, ← List.flatMap_def]

/-- What is read is found if nothing overwrites it on the way. -/
private theorem ordered_of_found {list : List Meant} {host : Text} {values : Text → Text}
    (found : ∀ m ∈ list, ∀ name ∈ m.meaning.reads, values name = foundValues surroundings host name)
    (apart : ∀ m ∈ list, ∀ name ∈ m.meaning.reads, ∀ other ∈ list, name ≠ other.name.toList) :
    Ordered surroundings host values list := by
  induction list generalizing values with
  | nil => trivial
  | cons m list ih =>
    refine ⟨spelled_congr (found m (by simp)), ih ?_ ?_⟩
    · intro later member name reads
      have kept := found later (by simp [member]) name reads
      have other := apart later (by simp [member]) name reads m (by simp)
      rw [setValue, if_neg other, kept]
    · intro later member name reads other listed
      exact apart later (by simp [member]) name reads other (by simp [listed])

private theorem ordered_append {first last : List Meant} {host : Text} {values : Text → Text}
    (front : Ordered surroundings host values first)
    (back : Ordered surroundings host (setValues surroundings host values first) last) :
    Ordered surroundings host values (first ++ last) := by
  induction first generalizing values with
  | nil => exact back
  | cons m first ih => exact ⟨front.1, ih front.2 back⟩

variable {good : String → Prop}

/-- In front of the lookup only Mesos' ports are read. -/
private theorem front_reads {m : Meant} (listed : Listed flags rpcPort httpPort good m)
    (named : m.name ∈ frontNames) : ∀ name ∈ m.meaning.reads, name ∈ ["PORT0".toList, "PORT1".toList] := by
  cases listed with
  | configured | lookup => simp [Meaning.reads]
  | rpc | http => simp [Meaning.reads]
  | address => exact absurd named (by decide)

/-- Behind it only its answer is. -/
private theorem back_reads {m : Meant} (listed : Listed flags rpcPort httpPort good m)
    (named : m.name ∈ backNames) : ∀ name ∈ m.meaning.reads, name = digLookup := by
  cases listed with
  | configured | lookup => simp [Meaning.reads]
  | rpc | http => exact absurd named (by decide)
  | address => simp [Meaning.reads]

private theorem front_member
    (listed : ∀ m ∈ meant flags kind rpcPort httpPort, Listed flags rpcPort httpPort good m) {m : Meant}
    (member : m ∈ frontMeant flags kind rpcPort httpPort) :
    Listed flags rpcPort httpPort good m ∧ m.name ∈ frontNames :=
  ⟨listed m (List.mem_append_left _ member),
    (front_names flags kind rpcPort httpPort).subset (List.mem_map_of_mem member)⟩

private theorem back_member
    (listed : ∀ m ∈ meant flags kind rpcPort httpPort, Listed flags rpcPort httpPort good m) {m : Meant}
    (member : m ∈ backMeant flags) : Listed flags rpcPort httpPort good m ∧ m.name ∈ backNames :=
  ⟨listed m (List.mem_append_right _ (List.mem_cons_of_mem _ member)),
    (back_names flags).subset (List.mem_map_of_mem member)⟩

/-- Every variable is read as it is to be found. -/
private theorem meant_ordered (listed : ∀ m ∈ meant flags kind rpcPort httpPort,
      Listed flags rpcPort httpPort good m) (host : Text) :
    Ordered surroundings host surroundings.environment (meant flags kind rpcPort httpPort) := by
  have ports : ∀ name ∈ ["PORT0".toList, "PORT1".toList], name ≠ digLookup ∧
      ∀ other ∈ frontNames, name ≠ other.toList := by decide
  have lookups : ∀ other ∈ backNames, digLookup ≠ other.toList := by decide
  refine ordered_append (ordered_of_found ?_ ?_) ⟨rfl, ordered_of_found ?_ ?_⟩
  · intro m member name reads
    obtain ⟨shape, named⟩ := front_member listed member
    have port := front_reads shape named name reads
    rw [foundValues, if_neg (ports name port).1]
  · intro m member name reads other inside
    obtain ⟨shape, named⟩ := front_member listed member
    have port := front_reads shape named name reads
    exact (ports name port).2 other.name (front_member listed inside).2
  · intro m member name reads
    obtain ⟨shape, named⟩ := back_member listed member
    rw [back_reads shape named name reads, foundValues, if_pos rfl]
    exact if_pos rfl
  · intro m member name reads other behind
    obtain ⟨shape, named⟩ := back_member listed member
    rw [back_reads shape named name reads]
    exact lookups other.name (back_member listed behind).2

private theorem setValues_other {list : List Meant} {host name : Text} {values : Text → Text}
    (apart : ∀ m ∈ list, name ≠ m.name.toList) :
    setValues surroundings host values list name = values name := by
  induction list generalizing values with
  | nil => rfl
  | cons m list ih =>
    have later : setValues surroundings host (setValue surroundings host values m) list name = _ :=
      ih fun m member => apart m (by simp [member])
    rw [setValues, List.foldl_cons]
    exact later.trans (if_neg (apart m (by simp)))

/-- With no name twice every export's value is the one its variable has in the end. -/
private theorem setValues_of_mem {list : List Meant} {host : Text} {values : Text → Text} {m : Meant}
    (distinct : (list.map fun m => m.name.toList).Nodup) (member : m ∈ list) :
    setValues surroundings host values list m.name.toList =
      m.meaning.spelled surroundings host (foundValues surroundings host) := by
  induction list generalizing values with
  | nil => cases member
  | cons first list ih =>
    obtain ⟨once, distinct⟩ := List.nodup_cons.mp distinct
    rw [setValues, List.foldl_cons]
    rcases List.mem_cons.mp member with rfl | later
    · have apart : ∀ other ∈ list, m.name.toList ≠ other.name.toList := fun other member same =>
        once (List.mem_map.mpr ⟨other, member, same.symm⟩)
      exact (setValues_other apart).trans (if_pos rfl)
    · exact ih distinct later

/-! ### The command as a whole -/

private theorem main_ordinary : OrdinaryWord mainProgram := by
  refine ⟨by decide, by decide, fun c first => ?_⟩
  have slash : mainProgram.head? = some '/' := by decide
  obtain rfl := Option.some.inj (slash.symm.trans first)
  decide

/-- Without special characters the text is read as its exports in front of the program. -/
private theorem run_command
    (built : constructDockerExecuteCommand flags kind.serviceId hostName rpcPort httpPort = .ok text)
    (listed : ∀ m ∈ meant flags kind rpcPort httpPort, Listed flags rpcPort httpPort Unspecial m)
    (plain : ∀ c ∈ hostName.toList, wordChar c) (fuel : ℕ) :
    run surroundings (fuel + 1) (initial surroundings) text.toList =
      (exportAll surroundings (run surroundings fuel) (initial surroundings)
        ((meant flags kind rpcPort httpPort).map (Meant.asExport hostName.toList))).bind fun s =>
          command surroundings (run surroundings fuel) s [characters mainProgram] := by
  rw [command_text built]
  refine run_exports ?_ main_ordinary rfl
  intro e member
  obtain ⟨m, inside, rfl⟩ := List.mem_map.mp member
  exact asExport_read (meant_named m inside) (listed m inside).readable plain

private theorem run_main {nested : Nested} {s : Shell.State} :
    command surroundings nested s [characters mainProgram] = some { s with
      log := s.log ++ [[mainProgram]]
      written := s.written ++ surroundings.output [mainProgram]
      succeeded := surroundings.succeeds [mainProgram] } := by
  have some : ∀ word ∈ [mainProgram], word ≠ [] := by decide
  exact command_program (by decide : unevaluated (characters mainProgram) = false) (by decide)
    (by decide) some

/-- The state a command ends in. -/
def ending (surroundings : Surroundings) (flags : Flags) (kind : ServiceKind) (hostName : String)
    (rpcPort httpPort : ℕ) : Shell.State where
  values := setValues surroundings hostName.toList surroundings.environment
    (meant flags kind rpcPort httpPort)
  log := (meant flags kind rpcPort httpPort).flatMap (Meant.carried surroundings hostName.toList) ++
    [[mainProgram]]
  written := surroundings.output [mainProgram]
  succeeded := surroundings.succeeds [mainProgram]

private theorem ending_values : (ending surroundings flags kind hostName rpcPort httpPort).values =
    setValues surroundings hostName.toList surroundings.environment (meant flags kind rpcPort httpPort) := by
  rw [ending]

/-- Whatever the surroundings, the exports are carried out and the program runs. -/
theorem run_carried
    (built : constructDockerExecuteCommand flags kind.serviceId hostName rpcPort httpPort = .ok text)
    (listed : ∀ m ∈ meant flags kind rpcPort httpPort, Listed flags rpcPort httpPort Unspecial m)
    (word : OrdinaryWord hostName.toList) (fuel : ℕ) :
    run surroundings (fuel + 2) (initial surroundings) text.toList =
      some (ending surroundings flags kind hostName rpcPort httpPort) := by
  have ordered : Ordered surroundings hostName.toList (initial surroundings).values _ :=
    meant_ordered listed hostName.toList
  have exported := exports_carried word fuel meant_named ordered rfl rfl
  rw [run_command built listed word.plain (fuel + 1), exported, Option.bind_some, run_main]
  simp [ending, initial]

/-- A command that runs at all looks its host up. -/
private theorem lookup_ran
    (built : constructDockerExecuteCommand flags kind.serviceId hostName rpcPort httpPort = .ok text)
    (listed : ∀ m ∈ meant flags kind rpcPort httpPort, Listed flags rpcPort httpPort Unspecial m)
    (plain : ∀ c ∈ hostName.toList, wordChar c) {fuel : ℕ} {s : Shell.State}
    (ran : run surroundings (fuel + 1) (initial surroundings) text.toList = some s) :
    ∃ between after,
      run surroundings fuel between ("dig +short ".toList ++ hostName.toList) = some after := by
  rw [run_command built listed plain] at ran
  obtain ⟨between, exported, _⟩ := Option.bind_eq_some_iff.mp ran
  have named : ∀ e ∈ (meant flags kind rpcPort httpPort).map (Meant.asExport hostName.toList),
      validName e.name := by
    intro e member
    obtain ⟨m, inside, rfl⟩ := List.mem_map.mp member
    exact meant_named m inside
  have lookup : (⟨"DIG_LOOKUP", .lookup⟩ : Meant) ∈ meant flags kind rpcPort httpPort := by
    simp [meant]
  obtain ⟨state, result, expands⟩ := expanded_of_exportAll named rfl exported _
    (List.mem_map_of_mem lookup)
  have kept : valueTildes surroundings.home (Meaning.lookup.pieces hostName.toList) =
      [.subst ("dig +short ".toList ++ hostName.toList)] := valueTildes_single _ rfl
  simp only [Meant.asExport, kept, expandWord_single, expandPiece, Option.bind_eq_bind,
    Option.bind_eq_some_iff] at expands
  obtain ⟨after, inner, _⟩ := expands
  exact ⟨_, after, inner⟩

/-- The state a command ends in does not depend on how deep it may nest. -/
theorem evaluates_iff
    (built : constructDockerExecuteCommand flags kind.serviceId hostName rpcPort httpPort = .ok text)
    (listed : ∀ m ∈ meant flags kind rpcPort httpPort, Listed flags rpcPort httpPort Unspecial m)
    (word : OrdinaryWord hostName.toList) {s : Shell.State} :
    Evaluates surroundings text.toList s ↔ s = ending surroundings flags kind hostName rpcPort httpPort := by
  constructor
  · rintro ⟨fuel, ran⟩
    obtain ⟨less, rfl⟩ : ∃ less, fuel = less + 2 := by
      cases fuel with
      | zero => cases ran
      | succ fuel =>
        obtain ⟨between, after, inner⟩ := lookup_ran built listed word.plain ran
        cases fuel with
        | zero => cases inner
        | succ less => exact ⟨less, rfl⟩
    rw [run_carried built listed word] at ran
    exact (Option.some.inj ran).symm
  · rintro rfl
    exact ⟨2, run_carried built listed word 0⟩

private theorem registry_meant : (⟨"QUOBYTE_REGISTRY", .configured (flags.registryDnsName ++
    flags.mesosDnsDomain)⟩ : Meant) ∈ meant flags kind rpcPort httpPort := by
  simp [meant, frontMeant]

private theorem extra_meant (given : flags.extraServiceConfig ≠ "") :
    (⟨"QUOBYTE_EXTRA_SERVICE_CONFIG", .configured flags.extraServiceConfig⟩ : Meant) ∈
      meant flags kind rpcPort httpPort := by
  simp [meant, backMeant, given]

/-- An s3 command that was built has its host name behind the limit. -/
private theorem s3_meant
    (built : constructDockerExecuteCommand flags ServiceKind.s3.serviceId hostName rpcPort httpPort =
      .ok text) :
    (⟨"QUOBYTE_S3_HOSTNAME", .configured flags.s3Hostname⟩ : Meant) ∈
      meant flags .s3 rpcPort httpPort := by
  obtain ⟨memory, written, _⟩ := command_written built
  rw [memory_exported rfl] at written
  obtain ⟨mem, scanned, _⟩ := except_map_ok written
  simp [meant, frontMeant, memoryMeant, memorySource, scanned]

/-- An export comes to the commands intended exactly if the host is looked up by its
name and the value written is the value meant. -/
private theorem carried_iff {host : Text} {m : Meant} :
    m.carried surroundings host = m.commands surroundings host ↔
      (m.meaning = .lookup → glob surroundings host = [host]) ∧
      m.meaning.spelled surroundings host (foundValues surroundings host) =
        m.meaning.value surroundings host := by
  unfold Meant.carried Meant.commands Meant.lookups
  by_cases lookup : m.meaning = .lookup
  · simp [lookup, dug, lookupCommand]
  · simp [lookup]

/-- Both lists go through the exports in step. -/
private theorem carried_of_log {host : Text} {list : List Meant}
    (same : list.flatMap (Meant.carried surroundings host) =
      list.flatMap (Meant.commands surroundings host)) :
    ∀ m ∈ list, m.carried surroundings host = m.commands surroundings host := by
  induction list with
  | nil => simp
  | cons m list ih =>
    have length : (m.carried surroundings host).length = (m.commands surroundings host).length := by
      unfold Meant.carried Meant.commands Meant.lookups
      split <;> rfl
    obtain ⟨here, later⟩ := List.append_inj same length
    intro other member
    rcases List.mem_cons.mp member with rfl | inside
    · exact here
    · exact ih later other inside

private theorem value_configured {name value : String}
    (member : ⟨name, .configured value⟩ ∈ meant flags kind rpcPort httpPort)
    (kept : (⟨name, .configured value⟩ : Meant).carried surroundings hostName.toList =
      (⟨name, .configured value⟩ : Meant).commands surroundings hostName.toList) :
    (ending surroundings flags kind hostName rpcPort httpPort).values name.toList = value.toList := by
  have set := @setValues_of_mem surroundings _ hostName.toList surroundings.environment _ meant_nodup member
  have written : Meaning.spelled surroundings hostName.toList _ (.configured value) = value.toList :=
    (carried_iff.mp kept).2
  rw [ending_values, set, written]

/-- A command works exactly if each of its exports comes to the commands intended. -/
theorem works_iff
    (built : constructDockerExecuteCommand flags kind.serviceId hostName rpcPort httpPort = .ok text)
    (listed : ∀ m ∈ meant flags kind rpcPort httpPort, Listed flags rpcPort httpPort Unspecial m)
    (word : OrdinaryWord hostName.toList) :
    Works surroundings flags kind hostName rpcPort httpPort text ↔
      ∀ m ∈ meant flags kind rpcPort httpPort,
        m.carried surroundings hostName.toList = m.commands surroundings hostName.toList := by
  constructor
  · rintro ⟨s, evaluated, logged, _⟩
    rw [(evaluates_iff built listed word).mp evaluated] at logged
    exact carried_of_log (List.append_cancel_right logged)
  · intro kept
    have log : (meant flags kind rpcPort httpPort).flatMap (Meant.carried surroundings hostName.toList) =
        (meant flags kind rpcPort httpPort).flatMap (Meant.commands surroundings hostName.toList) := by
      rw [List.flatMap_def, List.map_congr_left kept, ← List.flatMap_def]
    have logged : (ending surroundings flags kind hostName rpcPort httpPort).log =
        intended surroundings flags kind hostName rpcPort httpPort := by
      rw [intended, ← log, ending]
    have value {name value : String}
        (member : ⟨name, .configured value⟩ ∈ meant flags kind rpcPort httpPort) :
        (ending surroundings flags kind hostName rpcPort httpPort).values name.toList = value.toList :=
      value_configured member (kept _ member)
    have evaluated : Evaluates surroundings text.toList _ := (evaluates_iff built listed word).mpr rfl
    refine ⟨_, evaluated, logged, value registry_meant, ?_, fun given => value (extra_meant given)⟩
    rintro rfl
    exact value (s3_meant built)

/-! ### Strings that a shell leaves alone -/

private theorem characters_value (values : Text → Text) (text : Text) :
    (characters text).flatMap (Piece.value values) = text := by
  induction text with
  | nil => rfl
  | cons c text ih =>
    simp only [characters] at ih
    simp [characters, Piece.value, ih]

/-- A configured value comes to itself, tilde prefixes apart. -/
private theorem spelled_configured (host : Text) (values : Text → Text) (value : String) :
    (Meaning.configured value).spelled surroundings host values =
      textTildes surroundings.home value.toList := by
  rw [Meaning.spelled, if_neg (by rintro ⟨⟩), Meaning.pieces, valueTildes_characters, characters_value]

/-- In braces without one of its own the host comes to itself, tilde prefixes apart, if there
is no answer. -/
private theorem spelled_address {host : Text} (unbraced : '\x7d' ∉ host) :
    Meaning.address.spelled surroundings host (foundValues surroundings host) =
      if found surroundings host = [] then textTildes surroundings.home host
      else found surroundings host := by
  obtain ⟨inside, outside⟩ := braced_of_plain unbraced
  have kept : valueTildes surroundings.home [.orElse digLookup host] =
      [.orElse digLookup (textTildes surroundings.home host)] := valueTildes_single _ rfl
  have pieces : Meaning.address.pieces host = [.orElse digLookup host] := by
    simp [Meaning.pieces, inside, outside, characters]
  rw [Meaning.spelled, if_neg (by rintro ⟨⟩), pieces, kept]
  simp [Piece.value, foundValues]

/-- Plain strings come to what they are meant to whatever the surroundings. -/
private theorem kept_of_plain (plain : Plain flags kind hostName) :
    ∀ m ∈ meant flags kind rpcPort httpPort,
      m.carried surroundings hostName.toList = m.commands surroundings hostName.toList := by
  intro m member
  have single : glob surroundings hostName.toList = [hostName.toList] := glob_ordinary plain.ordinary
  have answered : found surroundings hostName.toList = answer surroundings hostName.toList := by
    rw [found, answer, dug, single]
    rfl
  refine carried_iff.mpr ⟨fun _ => single, ?_⟩
  have port {name port : String} (other : port.toList ≠ digLookup) :
      (⟨name, .mesosPort port⟩ : Meant).meaning.spelled surroundings hostName.toList
        (foundValues surroundings hostName.toList) = surroundings.environment port.toList := by
    have kept : valueTildes surroundings.home [.param port.toList] = [.param port.toList] :=
      valueTildes_single _ rfl
    rw [Meaning.spelled, if_neg (by rintro ⟨⟩), Meaning.pieces, kept]
    simp [Piece.value, foundValues, other]
  cases meant_listed (fun _ plain => plain) plain.registry plain.s3 plain.extra m member with
  | configured name kept => rw [spelled_configured, textTildes_free kept.2, Meaning.value]
  | rpc => exact port (by decide)
  | http => exact port (by decide)
  | lookup => exact answered
  | address given =>
    obtain ⟨unbraced, free⟩ := plain.address given
    rw [spelled_address unbraced, textTildes_free free, answered, Meaning.value]

/-! ### Strings that do not get through -/

/-- Surroundings in which every lookup has the same answer and every pattern the same two
matches, and nothing else has a blank or a special character in it. -/
def answering (answer : Text) (home : Text → Option Text) : Surroundings where
  environment _ := "31000".toList
  output _ := answer
  succeeds _ := true
  paths _ := ["first".toList, "second".toList]
  home := home

/-- One address, and no user is known. -/
def oneAddress : Surroundings := answering "10.0.0.1".toList fun _ => none

/-- No address, and every user has a home. -/
def homes : Surroundings := answering [] fun _ => some "/home".toList

private theorem oneAddress_tame : Tame oneAddress := by
  refine ⟨fun _ => ?_, fun _ => ?_, fun _ path member => ?_, by rintro _ _ ⟨⟩⟩
  · show ∀ c ∈ "31000".toList, wordChar c
    decide
  · show ∀ c ∈ "10.0.0.1".toList, wordChar c
    decide
  · have files : ∀ path ∈ ["first".toList, "second".toList], path ≠ [] ∧ ∀ c ∈ path, wordChar c := by decide
    exact ⟨(files path member).1, (files path member).2⟩

/-- In tame surroundings no special character reaches an export. -/
private theorem unspecial_of_works (tame : Tame surroundings)
    (built : constructDockerExecuteCommand flags kind.serviceId hostName rpcPort httpPort = .ok text)
    (works : Works surroundings flags kind hostName rpcPort httpPort text) :
    Unspecial (flags.registryDnsName ++ flags.mesosDnsDomain) ∧
      (kind = .s3 → Unspecial flags.s3Hostname) ∧ Unspecial flags.extraServiceConfig ∧
      Sound hostName.toList := by
  obtain ⟨s, ⟨fuel, ran⟩, logged, _⟩ := works
  have sane := run_sound tame fuel _ _ _ ran ⟨tame.environment, by simp [initial], by simp [initial]⟩
  have entries {m : Meant} (member : m ∈ meant flags kind rpcPort httpPort) :
      ∀ arguments ∈ m.commands surroundings hostName.toList, ∀ argument ∈ arguments, Sound argument := by
    intro arguments inside
    refine sane.log arguments ?_
    rw [logged]
    exact List.mem_append_left _ (List.mem_flatMap.mpr ⟨m, member, inside⟩)
  have exported {name value : String}
      (member : ⟨name, .configured value⟩ ∈ meant flags kind rpcPort httpPort) : Unspecial value := by
    have sound : Sound (name.toList ++ '=' :: value.toList) :=
      entries member _ (List.mem_append_right _ (List.mem_singleton_self _)) _
        (List.mem_cons_of_mem _ (List.mem_singleton_self _))
    exact fun c inside => sound.plain c (List.mem_append_right _ (List.mem_cons_of_mem _ inside))
  refine ⟨exported registry_meant, ?_, ?_, ?_⟩
  · rintro rfl
    exact exported (s3_meant built)
  · by_cases given : flags.extraServiceConfig = ""
    · rw [given]
      decide
    · exact exported (extra_meant given)
  · have lookup : (⟨"DIG_LOOKUP", .lookup⟩ : Meant) ∈ meant flags kind rpcPort httpPort := by
      simp [meant]
    exact entries lookup (lookupCommand hostName.toList) (by simp [Meant.commands]) _
      (by simp [lookupCommand])

/-- Where every user has a home a value without special characters comes to itself only if it
is free of tilde prefixes. -/
private theorem free_of_homes {text : Text} (stands : textTildes homes.home text = text) : TildeFree text :=
  free_of_textTildes (fun _ => rfl : ∀ login, homes.home login = some "/home".toList) (by decide)
    (by decide) stands

/-- A host with a brace of its own leaves something behind the address. -/
private theorem unbraced_of_kept {host : Text} (kept : Meaning.address.spelled oneAddress host
      (foundValues oneAddress host) = Meaning.address.value oneAddress host) : '\x7d' ∉ host := by
  intro inside
  have left := unbraced_of_braced inside
  have homeless : ∀ login, oneAddress.home login = none := fun _ => rfl
  have value : Meaning.address.value oneAddress host = "10.0.0.1".toList := rfl
  have lookup : foundValues oneAddress host digLookup = "10.0.0.1".toList := rfl
  rw [Meaning.spelled, if_neg (by rintro ⟨⟩), valueTildes_homeless homeless, Meaning.pieces, value,
    List.flatMap_append, characters_value, List.flatMap_singleton, Piece.value, lookup,
    if_neg (by decide), List.append_right_eq_self] at kept
  rw [kept] at left
  cases left

/-- A command that works whatever the surroundings has plain strings. -/
private theorem plain_of_works
    (built : constructDockerExecuteCommand flags kind.serviceId hostName rpcPort httpPort = .ok text)
    (works : ∀ surroundings, Works surroundings flags kind hostName rpcPort httpPort text) :
    Plain flags kind hostName := by
  obtain ⟨registry, s3, extra, host⟩ := unspecial_of_works oneAddress_tame built (works oneAddress)
  have listed : ∀ m ∈ meant flags kind rpcPort httpPort, Listed flags rpcPort httpPort Unspecial m :=
    meant_listed (fun _ plain => plain.1) registry s3 extra
  have word : OrdinaryWord hostName.toList := by
    refine ⟨host.some, host.plain, fun c first => ?_⟩
    obtain ⟨rest, begins⟩ := List.head?_eq_some_iff.mp first
    by_contra other
    have bad : c = '#' ∨ c = '~' := by tauto
    obtain ⟨s, ⟨fuel, ran⟩, _⟩ := works oneAddress
    cases fuel with
    | zero => cases ran
    | succ fuel =>
      obtain ⟨between, after, inner⟩ := lookup_ran built listed host.plain ran
      rw [run_lookup_unread bad rest begins] at inner
      cases inner
  have kept (surroundings : Surroundings) {m : Meant} (member : m ∈ meant flags kind rpcPort httpPort) :=
    carried_iff.mp ((works_iff built listed word).mp (works surroundings) m member)
  have free {name value : String}
      (member : ⟨name, .configured value⟩ ∈ meant flags kind rpcPort httpPort) : TildeFree value.toList := by
    have stands := (kept homes member).2
    rw [spelled_configured] at stands
    exact free_of_homes stands
  refine ⟨⟨registry, free registry_meant⟩, ?_, ⟨extra, ?_⟩, word, ?_, ?_⟩
  · rintro rfl
    exact ⟨s3 rfl, free (s3_meant built)⟩
  · by_cases given : flags.extraServiceConfig = ""
    · rw [given]
      decide
    · exact free (extra_meant given)
  · intro pattern
    have lookup : (⟨"DIG_LOOKUP", .lookup⟩ : Meant) ∈ meant flags kind rpcPort httpPort := by
      simp [meant]
    have single := (kept homes lookup).1 rfl
    have both : glob homes hostName.toList = ["first".toList, "second".toList] :=
      if_pos ⟨pattern, List.cons_ne_nil _ _⟩
    rw [both] at single
    exact absurd (congrArg List.length single) (by simp)
  · intro given
    have address : (⟨"HOST_IP", .address⟩ : Meant) ∈ meant flags kind rpcPort httpPort := by
      simp [meant, backMeant, given]
    have unbraced : '\x7d' ∉ hostName.toList := unbraced_of_kept (kept oneAddress address).2
    refine ⟨unbraced, free_of_homes ?_⟩
    have stands := (kept homes address).2
    rwa [spelled_address unbraced] at stands

/-- The registry's command with the default flags. -/
def defaultCommand : String :=
  "export QUOBYTE_SERVICE=registry && export QUOBYTE_REGISTRY=_registry._tcp.quobyte.mesos" ++
  " && export QUOBYTE_RPC_PORT=21000 && export QUOBYTE_HTTP_PORT=21001" ++
  " && export QUOBYTE_MAX_MEM_REGISTRY=1572m && export DIG_LOOKUP=$(dig +short h1) && /opt/main.sh"

private theorem default_plain : Plain {} .registry "h1" where
  registry := by decide
  s3 := nofun
  extra := by decide
  word := ordinary_of_name (by decide)
  ordinary := by decide
  address := nofun

/-- A service configuration of two settings. -/
def twoSettings : Flags := { extraServiceConfig := "a=1 b=2" }

/-- A service configuration with a tilde prefix. -/
def tildeSetting : Flags := { extraServiceConfig := "~root" }

/-- Running the exports of a command that can be built, and looking at the state behind. -/
private theorem evaluated_of_check (surroundings : Surroundings) (flags : Flags) (kind : ServiceKind)
    (hostName : String) (check : Shell.State → Prop) [DecidablePred check]
    (built : (constructDockerExecuteCommand flags kind.serviceId hostName 21000 21001).isOk)
    (ran : ((run surroundings 3 (initial surroundings) (((meant flags kind 21000 21001).map
      (Meant.asExport hostName.toList)).flatMap Export.text ++ mainProgram)).map
        fun s => decide (check s)) = some true) :
    ∃ text s, constructDockerExecuteCommand flags kind.serviceId hostName 21000 21001 = .ok text ∧
      Evaluates surroundings text.toList s ∧ check s := by
  cases result : constructDockerExecuteCommand flags kind.serviceId hostName 21000 21001 with
  | error =>
    rw [result] at built
    cases built
  | ok text =>
    rw [← command_text result] at ran
    obtain ⟨s, evaluated, checked⟩ := Option.map_eq_some_iff.mp ran
    exact ⟨text, s, rfl, ⟨3, evaluated⟩, of_decide_eq_true checked⟩

private theorem second_setting_lost :
    ∃ text s, constructDockerExecuteCommand twoSettings "registry" "h1" 21000 21001 = .ok text ∧
      Evaluates oneAddress text.toList s ∧
      s.values "QUOBYTE_EXTRA_SERVICE_CONFIG".toList = "a=1".toList :=
  evaluated_of_check oneAddress twoSettings .registry "h1" _ (by decide) (by decide +kernel)

private theorem host_name_run :
    ∃ text s, constructDockerExecuteCommand {} "registry" "h1;reboot" 21000 21001 = .ok text ∧
      Evaluates oneAddress text.toList s ∧ ["reboot".toList] ∈ s.log :=
  evaluated_of_check oneAddress {} .registry "h1;reboot" _ (by decide) (by decide +kernel)

private theorem tilde_expanded :
    ∃ text s, constructDockerExecuteCommand tildeSetting "registry" "h1" 21000 21001 = .ok text ∧
      Evaluates homes text.toList s ∧
      s.values "QUOBYTE_EXTRA_SERVICE_CONFIG".toList = "/home".toList :=
  evaluated_of_check homes tildeSetting .registry "h1" _ (by decide) (by decide +kernel)

end QuobyteMesos.StartCommand
