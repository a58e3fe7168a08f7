import QuobyteMesos.ShellArguments
import QuobyteMesos.TaskSettings

/-! The start command of a service, as it is meant and as it is written.

`meant` lists what the command is to export, with the two ports that Mesos may
assign, what dig answers for the host, and the address that falls back to it.
`constructDockerExecuteCommand` writes the strings among these as they are
(`command_text`), so a shell sees them before they are values. `Works` says what
running the text is to come to, and `Plain` which strings a shell leaves alone. -/
namespace QuobyteMesos.StartCommand
open StdString LaunchSteps SchedulerSteps TaskSettings Shell

variable {flags : Flags} {kind : ServiceKind} {hostName text : String} {rpcPort httpPort : ℕ}
variable {surroundings : Surroundings}

/-! ### What the command is to do -/

/-- What an export is to set: a value of the scheduler's, the port behind one of
Mesos' variables, dig's answer for the host, or that answer with the host in its
place if there is none. -/
inductive Meaning where
  | configured (value : String)
  | mesosPort (name : String)
  | lookup
  | address
  deriving DecidableEq, Repr

structure Meant where
  name : String
  meaning : Meaning
  deriving DecidableEq, Repr

def portMeant (name mesosPort : String) (port : ℕ) : Meant :=
  ⟨name, if port ≠ 0 then .configured (toString port) else .mesosPort mesosPort⟩

def ownPortMeant (flags : Flags) : ServiceKind → List Meant
  | .api => [⟨"QUOBYTE_API_PORT", .configured (toString flags.apiPort)⟩]
  | .s3 => [⟨"QUOBYTE_S3_PORT", .configured (toString flags.s3Port)⟩]
  | .webconsole => [⟨"QUOBYTE_WEBCONSOLE_PORT", .configured (toString flags.webconsolePort)⟩]
  | .prober | .registry | .metadata | .data | .client => []

/-- The memory limit in megabytes, followed for s3 by its host name. -/
def memoryMeant (flags : Flags) (kind : ServiceKind) : List Meant :=
  match memorySource flags kind with
  | none => []
  | some source =>
    match memMbFromResourceString source.resources with
    | .error _ => []
    | .ok mem =>
      [⟨source.setting, .configured (toString (int32 (mem - source.extraRamMb)) ++ "m")⟩] ++
      if kind = .s3 then [⟨"QUOBYTE_S3_HOSTNAME", .configured flags.s3Hostname⟩] else []

/-- The exports in front of the lookup of the host. -/
def frontMeant (flags : Flags) (kind : ServiceKind) (rpcPort httpPort : ℕ) : List Meant :=
  [⟨"QUOBYTE_SERVICE", .configured kind.serviceId⟩,
    ⟨"QUOBYTE_REGISTRY", .configured (flags.registryDnsName ++ flags.mesosDnsDomain)⟩,
    portMeant "QUOBYTE_RPC_PORT" "PORT0" rpcPort,
    portMeant "QUOBYTE_HTTP_PORT" "PORT1" httpPort] ++
  ownPortMeant flags kind ++ memoryMeant flags kind

/-- The exports behind it. -/
def backMeant (flags : Flags) : List Meant :=
  (if flags.autodetectServiceIp then [] else [⟨"HOST_IP", .address⟩]) ++
  (if flags.extraServiceConfig = "" then []
    else [⟨"QUOBYTE_EXTRA_SERVICE_CONFIG", .configured flags.extraServiceConfig⟩]) ++
  (if flags.serviceDebugPort = -1 then []
    else [⟨"QUOBYTE_DEBUG_PORT", .configured (toString flags.serviceDebugPort)⟩]) ++
  (if flags.enableAssertions then [⟨"QUOBYTE_ENABLE_ASSERTIONS", .configured "true"⟩] else [])

def meant (flags : Flags) (kind : ServiceKind) (rpcPort httpPort : ℕ) : List Meant :=
  frontMeant flags kind rpcPort httpPort ++ ⟨"DIG_LOOKUP", .lookup⟩ :: backMeant flags

def digLookup : Text := "DIG_LOOKUP".toList

/-- The command whose output is taken for the address of the host. -/
def lookupCommand (host : Text) : List Text := ["dig".toList, "+short".toList, host]

def answer (surroundings : Surroundings) (host : Text) : Text :=
  stripped (surroundings.output (lookupCommand host))

/-- The value an export is to set. -/
def Meaning.value (surroundings : Surroundings) (host : Text) : Meaning → Text
  | .configured value => value.toList
  | .mesosPort name => surroundings.environment name.toList
  | .lookup => answer surroundings host
  | .address => if answer surroundings host = [] then host else answer surroundings host

/-- The commands for one export: dig runs for its own. -/
def Meant.commands (surroundings : Surroundings) (host : Text) (m : Meant) : List (List Text) :=
  (if m.meaning = .lookup then [lookupCommand host] else []) ++
  [[exportName, m.name.toList ++ '=' :: m.meaning.value surroundings host]]

def mainProgram : Text := "/opt/main.sh".toList

/-- All the commands there are to be, in their order. -/
def intended (surroundings : Surroundings) (flags : Flags) (kind : ServiceKind) (hostName : String)
    (rpcPort httpPort : ℕ) : List (List Text) :=
  (meant flags kind rpcPort httpPort).flatMap (Meant.commands surroundings hostName.toList) ++
  [[mainProgram]]

/-- A shell runs the intended commands and no others, and the three configured
strings are the values of their variables. -/
def Works (surroundings : Surroundings) (flags : Flags) (kind : ServiceKind) (hostName : String)
    (rpcPort httpPort : ℕ) (text : String) : Prop :=
  ∃ s, Evaluates surroundings text.toList s ∧
    s.log = intended surroundings flags kind hostName rpcPort httpPort ∧
    s.values "QUOBYTE_REGISTRY".toList = (flags.registryDnsName ++ flags.mesosDnsDomain).toList ∧
    (kind = .s3 → s.values "QUOBYTE_S3_HOSTNAME".toList = flags.s3Hostname.toList) ∧
    (flags.extraServiceConfig ≠ "" →
      s.values "QUOBYTE_EXTRA_SERVICE_CONFIG".toList = flags.extraServiceConfig.toList)

/-! ### What a shell leaves alone -/

/-- A string without a character that means something to a shell. -/
def Unspecial (text : String) : Prop := ∀ c ∈ text.toList, wordChar c

instance (text : String) : Decidable (Unspecial text) :=
  inferInstanceAs (Decidable (∀ c ∈ text.toList, wordChar c))

/-- And without a tilde prefix. -/
def PlainText (text : String) : Prop := Unspecial text ∧ TildeFree text.toList

instance (text : String) : Decidable (PlainText text) :=
  inferInstanceAs (Decidable (Unspecial text ∧ TildeFree text.toList))

/-- The configured strings are plain. The host name stands as a word of its own, where
it must be no pattern, and in braces if the service does not detect its address. -/
structure Plain (flags : Flags) (kind : ServiceKind) (hostName : String) : Prop where
  registry : PlainText (flags.registryDnsName ++ flags.mesosDnsDomain)
  s3 : kind = .s3 → PlainText flags.s3Hostname
  extra : PlainText flags.extraServiceConfig
  word : OrdinaryWord hostName.toList
  ordinary : ¬ isPattern hostName.toList
  address : flags.autodetectServiceIp = false → '\x7d' ∉ hostName.toList ∧ TildeFree hostName.toList

/-! ### What the scheduler writes -/

/-- How an export's value is written. -/
def Meaning.written (host : Text) : Meaning → Text
  | .configured value => value.toList
  | .mesosPort name => '$' :: name.toList
  | .lookup => '$' :: '(' :: ("dig +short ".toList ++ host ++ [')'])
  | .address => '$' :: '\x7b' :: ("DIG_LOOKUP:-".toList ++ host ++ ['\x7d'])

/-- The part of the host that stands inside the braces. -/
def braced (host : Text) : Text := (host ++ ['\x7d']).takeWhile (· ≠ '\x7d')

/-- What is left of the host behind them. -/
def unbraced (host : Text) : Text := ((host ++ ['\x7d']).dropWhile (· ≠ '\x7d')).tail

/-- What the scanner makes of it. -/
def Meaning.pieces (host : Text) : Meaning → List Piece
  | .configured value => characters value.toList
  | .mesosPort name => [.param name.toList]
  | .lookup => [.subst ("dig +short ".toList ++ host)]
  | .address => [.orElse digLookup (braced host)] ++ characters (unbraced host)

def Meant.asExport (host : Text) (m : Meant) : Export :=
  ⟨m.name.toList, m.meaning.written host, m.meaning.pieces host⟩

private def Setting.pair (setting : Setting) : Text × Text :=
  (setting.name.toList, setting.value.render.toList)

private def Meant.pair (host : Text) (m : Meant) : Text × Text :=
  (m.name.toList, m.meaning.written host)

/-- The text of exports of names and values. -/
private def pairsText (pairs : List (Text × Text)) : Text :=
  pairs.flatMap fun (name, written) => Export.text ⟨name, written, []⟩

/-- Moving the separators behind the exports. -/
private theorem exports_text (settings : List Setting) :
    (exports settings).toList ++ " && ".toList =
      " && ".toList ++ pairsText (settings.map Setting.pair) := by
  induction settings with
  | nil => rfl
  | cons setting settings ih =>
    have front : " && export ".toList = " && ".toList ++ (exportName ++ [' ']) := by decide
    have equals : "=".toList = ['='] := by decide
    simp only [exports, String.toList_append, List.append_assoc, ih, front, equals, pairsText,
      List.map_cons, List.flatMap_cons, Export.text, Setting.pair, List.cons_append, List.nil_append]

private theorem ports_paired (flags : Flags) (kind : ServiceKind) (rpcPort httpPort : ℕ) (host : Text) :
    (portSettings flags kind rpcPort httpPort).map Setting.pair =
      ([portMeant "QUOBYTE_RPC_PORT" "PORT0" rpcPort, portMeant "QUOBYTE_HTTP_PORT" "PORT1" httpPort] ++
        ownPortMeant flags kind).map (Meant.pair host) := by
  have port (name mesosPort : String) (port : ℕ) :
      Setting.pair (portSetting name ("$" ++ mesosPort) port) =
        Meant.pair host (portMeant name mesosPort port) := by
    have nat : toString (port : Int) = toString port := rfl
    unfold portSetting portMeant
    split <;> simp [Setting.pair, Meant.pair, SettingValue.render, Meaning.written, nat]
  have own : (ownPortSetting flags kind).map Setting.pair =
      (ownPortMeant flags kind).map (Meant.pair host) := by
    cases kind <;> rfl
  simp only [portSettings, List.map_append, own]
  exact congrArg₂ (fun rpc http => [rpc] ++ [http] ++ _) (port _ "PORT0" rpcPort) (port _ "PORT1" httpPort)

private theorem memory_paired {memory : String} (host : Text)
    (written : memoryExports flags kind.serviceId = .ok memory) :
    ∃ settings, memory = exports settings ∧
      settings.map Setting.pair = (memoryMeant flags kind).map (Meant.pair host) := by
  cases listed : memorySource flags kind with
  | none =>
    have nothing : memoryExports flags kind.serviceId = .ok "" := by
      cases kind <;> first | rfl | cases listed
    rw [nothing] at written
    cases written
    exact ⟨[], rfl, by simp [memoryMeant, listed]⟩
  | some source =>
    rw [memory_exported listed] at written
    obtain ⟨mem, scanned, rfl⟩ := except_map_ok written
    refine ⟨_, rfl, ?_⟩
    simp only [memoryMeant, listed, scanned, memorySettings]
    split <;> rfl

private theorem host_paired (flags : Flags) (hostName : String) :
    (hostSettings flags hostName).map Setting.pair =
      (⟨"DIG_LOOKUP", .lookup⟩ :: backMeant flags).map (Meant.pair hostName.toList) := by
  have lookup : Setting.pair ⟨"DIG_LOOKUP", .text ("$(dig +short " ++ hostName ++ ")")⟩ =
      Meant.pair hostName.toList ⟨"DIG_LOOKUP", .lookup⟩ := by
    simp [Setting.pair, Meant.pair, SettingValue.render, Meaning.written]
  have address : Setting.pair ⟨"HOST_IP", .text ("$\x7bDIG_LOOKUP:-" ++ hostName ++ "\x7d")⟩ =
      Meant.pair hostName.toList ⟨"HOST_IP", .address⟩ := by
    simp [Setting.pair, Meant.pair, SettingValue.render, Meaning.written]
  unfold hostSettings backMeant
  simp only [List.map_append, List.map_cons, List.map_nil, lookup, apply_ite (List.map _), address]
  rfl

private theorem pairs_text (host : Text) (list : List Meant) :
    pairsText (list.map (Meant.pair host)) =
      (list.map (Meant.asExport host)).flatMap Export.text := by
  simp only [pairsText, List.flatMap_map]
  rfl

/-- All the settings of a command, the service itself among them. -/
private theorem meant_paired {limit : List Setting}
    (paired : limit.map Setting.pair = (memoryMeant flags kind).map (Meant.pair hostName.toList)) :
    (⟨"QUOBYTE_SERVICE", .text kind.serviceId⟩ ::
      ([⟨"QUOBYTE_REGISTRY", .text (flags.registryDnsName ++ flags.mesosDnsDomain)⟩] ++
        portSettings flags kind rpcPort httpPort ++ limit ++ hostSettings flags hostName)).map
        Setting.pair =
      (meant flags kind rpcPort httpPort).map (Meant.pair hostName.toList) := by
  simp only [List.map_cons, List.map_append, List.map_nil,
    ports_paired flags kind rpcPort httpPort hostName.toList, paired, host_paired, meant, frontMeant]
  simp [Setting.pair, Meant.pair, SettingValue.render, Meaning.written]

/-- The command is the exports written out, with the strings as they are. -/
theorem command_text
    (built : constructDockerExecuteCommand flags kind.serviceId hostName rpcPort httpPort = .ok text) :
    text.toList = ((meant flags kind rpcPort httpPort).map
      (Meant.asExport hostName.toList)).flatMap Export.text ++ mainProgram := by
  obtain ⟨memory, written, rfl⟩ := command_written built
  obtain ⟨limit, rfl, paired⟩ := memory_paired hostName.toList written
  have moved := exports_text (⟨"QUOBYTE_SERVICE", .text kind.serviceId⟩ ::
    ([⟨"QUOBYTE_REGISTRY", .text (flags.registryDnsName ++ flags.mesosDnsDomain)⟩] ++
      portSettings flags kind rpcPort httpPort ++ limit ++ hostSettings flags hostName))
  rw [meant_paired paired, pairs_text] at moved
  generalize ((meant flags kind rpcPort httpPort).map (Meant.asExport hostName.toList)).flatMap
    Export.text = written at moved ⊢
  apply List.append_cancel_left
  rw [← List.append_assoc, ← moved]
  simp only [exports, exports_append, String.toList_append, List.append_assoc, SettingValue.render]
  rfl

/-! ### What a shell reads -/

/-- The first closing brace ends the part inside. -/
private theorem host_split (host : Text) :
    host ++ ['\x7d'] = braced host ++ '\x7d' :: unbraced host ∧ '\x7d' ∉ braced host := by
  have found : '\x7d' ∈ host ++ ['\x7d'] := by simp
  obtain ⟨inside, outside, split, closed⟩ := List.eq_append_cons_of_mem found
  have all : ∀ c ∈ inside, decide (c ≠ '\x7d') = true := by
    intro c member
    refine decide_eq_true fun same => closed ?_
    rwa [← same]
  have front : braced host = inside := by
    rw [braced, split, List.takeWhile_append_of_pos all]
    simp
  have back : unbraced host = outside := by
    rw [unbraced, split, List.dropWhile_append_of_pos all]
    simp
  rw [front, back]
  exact ⟨split, closed⟩

/-- Without a brace of its own the host stands inside the braces. -/
theorem braced_of_plain {host : Text} (plain : '\x7d' ∉ host) :
    braced host = host ∧ unbraced host = [] := by
  have all : ∀ c ∈ host, decide (c ≠ '\x7d') = true := by
    intro c member
    refine decide_eq_true fun same => plain ?_
    rwa [← same]
  constructor
  · rw [braced, List.takeWhile_append_of_pos all]
    simp
  · rw [unbraced, List.dropWhile_append_of_pos all]
    simp

/-- With one the last brace is left over. -/
theorem unbraced_of_braced {host : Text} (inside : '\x7d' ∈ host) : '\x7d' ∈ unbraced host := by
  obtain ⟨split, closed⟩ := host_split host
  have counted := congrArg (List.count '\x7d') split
  simp only [List.count_append, List.count_cons_self, List.count_nil,
    List.count_eq_zero_of_not_mem closed] at counted
  have some := List.count_pos_iff.mpr inside
  exact List.count_pos_iff.mp (by omega)

/-- A value of the scheduler's that a shell reads as it is, and names it knows. -/
def Meaning.Readable : Meaning → Prop
  | .configured value => Unspecial value
  | .mesosPort name => validName name.toList
  | .lookup | .address => True

private theorem reads_braced {inside outside : Text} (closed : '\x7d' ∉ inside)
    (plain : ∀ c ∈ inside, wordChar c) (rest : ∀ c ∈ outside, wordChar c) :
    Reads ('$' :: '\x7b' :: (digLookup ++ ':' :: '-' :: (inside ++ '\x7d' :: outside)))
      ([.orElse digLookup inside] ++ characters outside) := by
  have named := parameter_orElse (by decide : validName digLookup) plain
  have unclosed : '\x7d' ∉ digLookup ++ ':' :: '-' :: inside := by
    intro member
    rcases List.mem_append.mp member with front | back
    · exact absurd front (by decide)
    · simp only [List.mem_cons] at back
      exact closed (by simpa using back)
  have both := (reads_parameter unclosed named).append (reads_characters rest)
  have text : '$' :: '\x7b' :: (digLookup ++ ':' :: '-' :: (inside ++ '\x7d' :: outside)) =
      ('$' :: '\x7b' :: (digLookup ++ ':' :: '-' :: inside ++ ['\x7d'])) ++ outside := by
    simp
  rw [text]
  exact both

private theorem reads_address {host : Text} (plain : ∀ c ∈ host, wordChar c) :
    Reads (Meaning.address.written host) (Meaning.address.pieces host) := by
  obtain ⟨split, closed⟩ := host_split host
  have chars : ∀ c ∈ host ++ ['\x7d'], wordChar c := by
    intro c member
    rcases List.mem_append.mp member with inside | last
    · exact plain c inside
    · rw [List.mem_singleton.mp last]
      decide
  rw [split] at chars
  have written : Meaning.address.written host =
      '$' :: '\x7b' :: (digLookup ++ ':' :: '-' :: (braced host ++ '\x7d' :: unbraced host)) := by
    rw [← split]
    rfl
  rw [written]
  exact reads_braced closed (fun c member => chars c (List.mem_append_left _ member))
    fun c member => chars c (List.mem_append_right _ (List.mem_cons_of_mem _ member))

theorem asExport_read {m : Meant} {host : Text} (named : validName m.name.toList)
    (readable : m.meaning.Readable) (plain : ∀ c ∈ host, wordChar c) : (m.asExport host).Read := by
  refine ⟨named, ?_⟩
  unfold Meant.asExport
  cases meaning : m.meaning with
  | configured value =>
    rw [meaning] at readable
    exact (reads_characters readable).word
  | mesosPort name =>
    rw [meaning] at readable
    exact readsWord_param readable
  | lookup =>
    have flat : ∀ c, c ∈ special → c ∉ "dig +short ".toList → c ∉ "dig +short ".toList ++ host := by
      intro c meant absent member
      rcases List.mem_append.mp member with front | inside
      · exact absent front
      · have := plain c inside
        simp [wordChar, meant] at this
    exact (reads_subst ⟨flat '(' (by decide) (by decide), flat ')' (by decide) (by decide)⟩).word
  | address => exact (reads_address plain).word

/-! ### The exports of a service -/

/-- The names in front of the lookup. -/
def frontNames : List String :=
  ["QUOBYTE_SERVICE", "QUOBYTE_REGISTRY", "QUOBYTE_RPC_PORT", "QUOBYTE_HTTP_PORT", "QUOBYTE_API_PORT",
    "QUOBYTE_S3_PORT", "QUOBYTE_WEBCONSOLE_PORT", "QUOBYTE_MAX_MEM_REGISTRY",
    "QUOBYTE_MAX_MEM_METADATA", "QUOBYTE_MAX_MEM_DATA", "QUOBYTE_MAX_MEM_API", "QUOBYTE_MAX_MEM_S3",
    "QUOBYTE_MAX_MEM_WEBCONSOLE", "QUOBYTE_S3_HOSTNAME"]

/-- The names behind it. -/
def backNames : List String :=
  ["HOST_IP", "QUOBYTE_EXTRA_SERVICE_CONFIG", "QUOBYTE_DEBUG_PORT", "QUOBYTE_ENABLE_ASSERTIONS"]

/-- Those of them that only some services export. -/
def serviceNames : ServiceKind → List String
  | .prober | .client => []
  | .registry => ["QUOBYTE_MAX_MEM_REGISTRY"]
  | .metadata => ["QUOBYTE_MAX_MEM_METADATA"]
  | .data => ["QUOBYTE_MAX_MEM_DATA"]
  | .api => ["QUOBYTE_API_PORT", "QUOBYTE_MAX_MEM_API"]
  | .s3 => ["QUOBYTE_S3_PORT", "QUOBYTE_MAX_MEM_S3", "QUOBYTE_S3_HOSTNAME"]
  | .webconsole => ["QUOBYTE_WEBCONSOLE_PORT", "QUOBYTE_MAX_MEM_WEBCONSOLE"]

private theorem service_names (flags : Flags) (kind : ServiceKind) :
    List.Sublist ((ownPortMeant flags kind ++ memoryMeant flags kind).map Meant.name)
      (serviceNames kind) := by
  cases kind <;> simp only [ownPortMeant, memoryMeant, memorySource, serviceNames]
  case prober | client => exact List.Sublist.refl _
  all_goals
    split
    · simp
    · simp

theorem front_names (flags : Flags) (kind : ServiceKind) (rpcPort httpPort : ℕ) :
    List.Sublist ((frontMeant flags kind rpcPort httpPort).map Meant.name) frontNames := by
  have all : List.Sublist (["QUOBYTE_SERVICE", "QUOBYTE_REGISTRY", "QUOBYTE_RPC_PORT",
      "QUOBYTE_HTTP_PORT"] ++ serviceNames kind) frontNames := by
    cases kind <;> decide
  refine List.Sublist.trans ?_ all
  rw [frontMeant, List.append_assoc, List.map_append]
  exact (List.Sublist.refl _).append (service_names flags kind)

theorem back_names (flags : Flags) : List.Sublist ((backMeant flags).map Meant.name) backNames := by
  have one (condition : Prop) [Decidable condition] (m : Meant) :
      List.Sublist ((if condition then [] else [m]).map Meant.name) [m.name] := by
    split
    · exact List.nil_sublist _
    · exact List.Sublist.refl _
  have last (condition : Bool) (m : Meant) :
      List.Sublist ((if condition then [m] else []).map Meant.name) [m.name] := by
    split
    · exact List.Sublist.refl _
    · exact List.nil_sublist _
  simp only [backMeant, List.map_append]
  exact (((one _ _).append (one _ _)).append (one _ _)).append (last _ _)

theorem meant_names (flags : Flags) (kind : ServiceKind) (rpcPort httpPort : ℕ) :
    List.Sublist ((meant flags kind rpcPort httpPort).map Meant.name)
      (frontNames ++ "DIG_LOOKUP" :: backNames) := by
  simp only [meant, List.map_append, List.map_cons]
  exact (front_names flags kind rpcPort httpPort).append ((back_names flags).cons_cons "DIG_LOOKUP")

/-- Every name is one a shell knows. -/
theorem meant_named : ∀ m ∈ meant flags kind rpcPort httpPort, validName m.name.toList := by
  intro m member
  have listed := (meant_names flags kind rpcPort httpPort).subset (List.mem_map_of_mem member)
  have all : ∀ name ∈ frontNames ++ "DIG_LOOKUP" :: backNames, validName name.toList := by decide
  exact all m.name listed

/-- No name is exported twice. -/
theorem meant_nodup :
    ((meant flags kind rpcPort httpPort).map fun m => m.name.toList).Nodup := by
  have all : ((frontNames ++ "DIG_LOOKUP" :: backNames).map String.toList).Nodup := by decide
  have listed := ((meant_names flags kind rpcPort httpPort).map String.toList)
  rw [List.map_map] at listed
  exact listed.nodup all

private theorem plain_digits {text : String} (digits : ∀ c ∈ text.toList, c.isDigit ∨ c = '-' ∨ c = 'm') :
    PlainText text := by
  have outside : ∀ c ∈ '~' :: special, ¬ (c.isDigit ∨ c = '-' ∨ c = 'm') := by decide
  have absent (c : Char) (listed : c ∈ '~' :: special) : c ∉ text.toList :=
    fun member => outside c listed (digits c member)
  refine ⟨fun c member => ?_, tildeFree_of_absent (absent '~' List.mem_cons_self)⟩
  by_contra other
  refine absent c (List.mem_cons_of_mem _ ?_) member
  simpa [wordChar] using other

private theorem nat_digits (n : ℕ) : ∀ c ∈ (toString n).toList, c.isDigit ∨ c = '-' ∨ c = 'm' :=
  fun _ member => .inl (isDigit_of_mem_toString member)

private theorem int_digits (n : Int) : ∀ c ∈ (toString n).toList, c.isDigit ∨ c = '-' ∨ c = 'm' := by
  cases n with
  | ofNat n => exact nat_digits n
  | negSucc n =>
    have text : toString (Int.negSucc n) = "-" ++ toString (n + 1) := rfl
    intro c member
    rw [text, String.toList_append] at member
    rcases List.mem_append.mp member with sign | digits
    · exact .inr (.inl (by simpa using sign))
    · exact nat_digits _ c digits

/-- The exports there can be once the strings in the flags are good. -/
inductive Listed (flags : Flags) (rpcPort httpPort : ℕ) (good : String → Prop) : Meant → Prop where
  | configured (name : String) {value : String} (kept : good value) :
      Listed flags rpcPort httpPort good ⟨name, .configured value⟩
  | rpc (left : rpcPort = 0) :
      Listed flags rpcPort httpPort good ⟨"QUOBYTE_RPC_PORT", .mesosPort "PORT0"⟩
  | http (left : httpPort = 0) :
      Listed flags rpcPort httpPort good ⟨"QUOBYTE_HTTP_PORT", .mesosPort "PORT1"⟩
  | lookup : Listed flags rpcPort httpPort good ⟨"DIG_LOOKUP", .lookup⟩
  | address (given : flags.autodetectServiceIp = false) :
      Listed flags rpcPort httpPort good ⟨"HOST_IP", .address⟩

variable {good : String → Prop}

private theorem number_listed (plain : ∀ text, PlainText text → good text) (name : String) (n : Int) :
    Listed flags rpcPort httpPort good ⟨name, .configured (toString n)⟩ :=
  .configured name (plain _ (plain_digits (int_digits n)))

private theorem service_listed (plain : ∀ text, PlainText text → good text)
    (s3 : kind = .s3 → good flags.s3Hostname) :
    ∀ m ∈ ownPortMeant flags kind ++ memoryMeant flags kind, Listed flags rpcPort httpPort good m := by
  have limit (n : Int) : good (toString n ++ "m") := by
    refine plain _ (plain_digits fun c member => ?_)
    rw [String.toList_append] at member
    rcases List.mem_append.mp member with digits | last
    · exact int_digits n c digits
    · exact .inr (.inr (by simpa using last))
  intro m member
  rcases List.mem_append.mp member with own | memory
  · cases kind <;> simp only [ownPortMeant, List.mem_singleton, List.not_mem_nil] at own <;> subst own <;>
      exact number_listed plain _ _
  · unfold memoryMeant at memory
    split at memory
    · cases memory
    · split at memory
      · cases memory
      · rcases List.mem_append.mp memory with first | last
        · rw [List.mem_singleton.mp first]
          exact .configured _ (limit _)
        · split at last
          · rename_i kind
            rw [List.mem_singleton.mp last]
            exact .configured _ (s3 kind)
          · cases last

private theorem front_listed (plain : ∀ text, PlainText text → good text)
    (registry : good (flags.registryDnsName ++ flags.mesosDnsDomain))
    (s3 : kind = .s3 → good flags.s3Hostname) :
    ∀ m ∈ frontMeant flags kind rpcPort httpPort, Listed flags rpcPort httpPort good m := by
  have service : good kind.serviceId := by
    refine plain _ ?_
    cases kind <;> exact ⟨by decide, tildeFree_of_absent (by decide)⟩
  intro m member
  rw [frontMeant, List.append_assoc] at member
  rcases List.mem_append.mp member with first | own
  · simp only [List.mem_cons, List.not_mem_nil, or_false] at first
    rcases first with rfl | rfl | rfl | rfl
    · exact .configured _ service
    · exact .configured _ registry
    · by_cases left : rpcPort = 0
      · rw [portMeant, if_neg (by simp [left])]
        exact .rpc left
      · rw [portMeant, if_pos left]
        exact .configured _ (plain _ (plain_digits (nat_digits rpcPort)))
    · by_cases left : httpPort = 0
      · rw [portMeant, if_neg (by simp [left])]
        exact .http left
      · rw [portMeant, if_pos left]
        exact .configured _ (plain _ (plain_digits (nat_digits httpPort)))
  · exact service_listed plain s3 m own

private theorem back_listed (plain : ∀ text, PlainText text → good text)
    (extra : good flags.extraServiceConfig) :
    ∀ m ∈ backMeant flags, Listed flags rpcPort httpPort good m := by
  intro m member
  simp only [backMeant, List.append_assoc, List.mem_append] at member
  rcases member with address | config | debug | assertions
  · split at address
    · cases address
    · rename_i given
      rw [List.mem_singleton.mp address]
      exact .address (by simpa using given)
  · split at config
    · cases config
    · rw [List.mem_singleton.mp config]
      exact .configured _ extra
  · split at debug
    · cases debug
    · rw [List.mem_singleton.mp debug]
      exact number_listed plain _ _
  · split at assertions
    · rw [List.mem_singleton.mp assertions]
      exact .configured _ (plain _ ⟨by decide, tildeFree_of_absent (by decide)⟩)
    · cases assertions

/-- With good strings in the flags the command holds nothing else. -/
theorem meant_listed (plain : ∀ text, PlainText text → good text)
    (registry : good (flags.registryDnsName ++ flags.mesosDnsDomain))
    (s3 : kind = .s3 → good flags.s3Hostname) (extra : good flags.extraServiceConfig) :
    ∀ m ∈ meant flags kind rpcPort httpPort, Listed flags rpcPort httpPort good m := by
  intro m member
  rcases List.mem_append.mp member with before | behind
  · exact front_listed plain registry s3 m before
  · rcases List.mem_cons.mp behind with rfl | back
    · exact .lookup
    · exact back_listed plain extra m back

theorem Listed.readable {m : Meant} (listed : Listed flags rpcPort httpPort Unspecial m) :
    m.meaning.Readable := by
  have rpcName : validName "PORT0".toList := by decide
  have httpName : validName "PORT1".toList := by decide
  cases listed with
  | configured name plain => exact plain
  | rpc => exact rpcName
  | http => exact httpName
  | lookup | address => trivial

end QuobyteMesos.StartCommand
