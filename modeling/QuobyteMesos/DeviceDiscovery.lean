import QuobyteMesos.Executor

/-! What an executor reports about its agent, and what it makes of a device it has
initialized itself.

A response depends on the set of mount points of the right kind and on what marks
them, and on nothing else in the mount table (`discovery_exact`). A setup file is
such a mark if one of its lines declares a type. The file that the executor writes
has two lines, and neither does: what was meant as its last three lines has no line
feeds (`initialized_never_recognised`). -/
namespace QuobyteMesos.DeviceDiscovery
open Executor StdString

variable {fs : FileSystem} {type : DeviceType} {request : ProbeRequest} {random : ℕ}

/-! ### What a response lists -/

/-- The mount point carries the marker file of a name, or a setup file with a
line. -/
def MarkedBy (fs : FileSystem) (name declaration mntpoint : String) : Prop :=
  (fs.stat (mntpoint ++ "/quobyte-" ++ name)).isSome ∨
    ((fs.stat (mntpoint ++ "/QUOBYTE_DEV_SETUP")).isSome ∧
      declaration ∈ fs.lines (mntpoint ++ "/QUOBYTE_DEV_SETUP"))

/-- Some line of the mount table is of the right kind and its mount point is marked. -/
def Discovered (fs : FileSystem) (name declaration : String) : Prop :=
  ∃ line ∈ fs.mounts, ∃ mntpoint, Mounted line mntpoint ∧ MarkedBy fs name declaration mntpoint

private theorem found_iff {name declaration : String} (listed : name ∈ ["dir", "metadata", "data"])
    (named : ∀ other, namedType other = some type ↔ other = name)
    (declared : ∀ line, declaredType line = some type ↔ line = declaration) :
    type ∈ foundTypes fs ↔ Discovered fs name declaration := by
  have marked (mntpoint : String) :
      Marked fs mntpoint type ↔ MarkedBy fs name declaration mntpoint := by
    unfold Marked MarkedBy Named Declared
    simp only [named, declared, setupFileName]
    constructor
    · rintro (⟨_, _, present, rfl⟩ | ⟨present, line, member, rfl⟩)
      · exact .inl present
      · exact .inr ⟨present, member⟩
    · rintro (present | ⟨present, member⟩)
      · exact .inl ⟨name, listed, present, rfl⟩
      · exact .inr ⟨present, declaration, member, rfl⟩
  simp only [mem_foundTypes, marked, Discovered]

private theorem registry_found :
    .registry ∈ foundTypes fs ↔ Discovered fs "dir" "device.type=DIR_DEVICE" := by
  refine found_iff (by simp) (fun other => ?_) fun line => ?_
  · unfold namedType
    grind
  · unfold declaredType
    grind

private theorem metadata_found :
    .metadata ∈ foundTypes fs ↔ Discovered fs "metadata" "device.type=METADATA_DEVICE" := by
  refine found_iff (by simp) (fun other => ?_) fun line => ?_
  · unfold namedType
    grind
  · unfold declaredType
    grind

theorem data_found :
    .data ∈ foundTypes fs ↔ Discovered fs "data" "device.type=DATA_DEVICE" := by
  refine found_iff (by simp) (fun other => ?_) fun line => ?_
  · unfold namedType
    grind
  · unfold declaredType
    grind

/-- The types with a core service are listed when they are found. -/
theorem core_listed (core : type = .registry ∨ type = .metadata ∨ type = .data) :
    type ∈ (probe fs request).deviceType ↔ type ∈ foundTypes fs := by
  have named : type ∈ DeviceType.ascending := by
    rcases core with rfl | rfl | rfl <;> decide
  have other : type ≠ .client := by
    rcases core with rfl | rfl | rfl <;> decide
  have absent : type ∉ (if request.clientDirectory ≠ "" ∧
      (fs.stat request.clientDirectory).isSome then [DeviceType.client] else []) := by
    split <;> simp [other]
  simp only [probe, List.mem_append, absent, false_or, List.mem_filter, named, true_and,
    decide_eq_true_eq]

private theorem client_listed :
    .client ∈ (probe fs request).deviceType ↔
      request.clientDirectory ≠ "" ∧ (fs.stat request.clientDirectory).isSome := by
  have unfound : DeviceType.client ∉ foundTypes fs := by
    intro found
    rcases found_core found with client | client | client <;> cases client
  simp only [probe, List.mem_append, List.mem_filter, unfound, decide_false, Bool.false_eq_true,
    and_false, or_false]
  split
  · rename_i present
    simp [present]
  · rename_i absent
    simp [absent]

/-- The response looks at the lines of the right kind only, and at each of them as
if it stood there once. -/
theorem probe_mounts {mounts : List String}
    (same : ∀ line mntpoint, Mounted line mntpoint → (line ∈ mounts ↔ line ∈ fs.mounts)) :
    probe { fs with mounts := mounts } request = probe fs request := by
  have found : foundTypes { fs with mounts := mounts } = foundTypes fs := by
    ext type
    rw [mem_foundTypes, mem_foundTypes]
    constructor
    · rintro ⟨line, member, mntpoint, mounted, marked⟩
      exact ⟨line, (same line mntpoint mounted).mp member, mntpoint, mounted, marked⟩
    · rintro ⟨line, member, mntpoint, mounted, marked⟩
      exact ⟨line, (same line mntpoint mounted).mpr member, mntpoint, mounted, marked⟩
  simp only [probe, found]

/-- A request that initializes nothing is answered with one response, which lists
what is found, each type once; the file system is left as it is, and a mount table
with the same lines of the right kind, in any order and number and among any others,
gives the same response. -/
theorem discovery_exact (fs : FileSystem) (random : ℕ) (clientDirectory : String) :
    ∃ response,
      frameworkMessage fs random { clientDirectory := clientDirectory } = (fs, some response) ∧
      response.deviceType.Nodup ∧
      (∀ type ∈ response.deviceType,
        type = .registry ∨ type = .metadata ∨ type = .data ∨ type = .client) ∧
      (.registry ∈ response.deviceType ↔ Discovered fs "dir" "device.type=DIR_DEVICE") ∧
      (.metadata ∈ response.deviceType ↔ Discovered fs "metadata" "device.type=METADATA_DEVICE") ∧
      (.data ∈ response.deviceType ↔ Discovered fs "data" "device.type=DATA_DEVICE") ∧
      (.client ∈ response.deviceType ↔
        clientDirectory ≠ "" ∧ (fs.stat clientDirectory).isSome) ∧
      ∀ mounts : List String,
        (∀ line mntpoint, Mounted line mntpoint → (line ∈ mounts ↔ line ∈ fs.mounts)) →
        (frameworkMessage { fs with mounts := mounts } random
          { clientDirectory := clientDirectory }).2 = some response := by
  have sent := probe_sent fs { clientDirectory := clientDirectory }
  refine ⟨probe fs { clientDirectory := clientDirectory }, rfl, sent.nodup, sent.named, ?_, ?_, ?_,
    client_listed, ?_⟩
  · rw [core_listed (.inl rfl), registry_found]
  · rw [core_listed (.inr (.inl rfl)), metadata_found]
  · rw [core_listed (.inr (.inr rfl)), data_found]
  · intro mounts same
    exact congrArg some (probe_mounts same)

/-! ### A device it has initialized -/

/-- The request initializes a device that is mounted and has no setup file yet, and
the file can be created. -/
structure Initializes (fs : FileSystem) (request : ProbeRequest) : Prop where
  named : request.initializePath ≠ ""
  mounted : ∃ line ∈ fs.mounts, Mounted line request.initializePath
  bare : fs.stat (setupFileName request.initializePath) = none
  creatable : fs.creatable (setupFileName request.initializePath) = true

/-- Two file systems have the same setup file on a mount point. -/
structure SameSetup (fs fs' : FileSystem) (mntpoint : String) : Prop where
  stat : fs.stat (setupFileName mntpoint) = fs'.stat (setupFileName mntpoint)
  lines : fs.lines (setupFileName mntpoint) = fs'.lines (setupFileName mntpoint)

/-- The initialized device is read back and reported, at once and by every later
probe that finds it mounted and its file unchanged. -/
structure Recognised (fs : FileSystem) (random : ℕ) (request : ProbeRequest) : Prop where
  readBack : "device.type=DATA_DEVICE" ∈
    (frameworkMessage fs random request).1.lines (setupFileName request.initializePath)
  reported : ∃ response, (frameworkMessage fs random request).2 = some response ∧
    .data ∈ response.deviceType
  later : ∀ later : FileSystem,
    SameSetup (frameworkMessage fs random request).1 later request.initializePath →
    (∃ line ∈ later.mounts, Mounted line request.initializePath) →
    ∀ clientDirectory, ∃ response,
      (frameworkMessage later random { clientDirectory := clientDirectory }).2 = some response ∧
        .data ∈ response.deviceType

private theorem first_line {header line serial number model type : String}
    (ended : header.toList = line.toList ++ ['\n']) :
    (header ++ (serial ++ number) ++ model ++ type).toList =
      line.toList ++ '\n' :: (serial ++ number ++ model ++ type).toList := by
  simp [ended]

/-- The lines of the file as it is written. -/
theorem setup_lines (random : ℕ) :
    getlines (setupText random).toList =
      ["# Quobyte device identifier file (written by Mesos framework)".toList,
        ("device.serial=" ++ toString random ++ "device.model=Unknown" ++
          "device.type=DATA_DEVICE").toList] := by
  have header : '\n' ∉ "# Quobyte device identifier file (written by Mesos framework)".toList := by
    decide
  have digits : '\n' ∉ (toString random).toList := by
    intro member
    have digit := isDigit_of_mem_toString member
    cases digit
  have rest : '\n' ∉ ("device.serial=" ++ toString random ++ "device.model=Unknown" ++
      "device.type=DATA_DEVICE").toList := by
    simp only [String.toList_append, List.mem_append, not_or]
    exact ⟨⟨⟨by decide, digits⟩, by decide⟩, by decide⟩
  have ended : "# Quobyte device identifier file (written by Mesos framework)\n".toList =
      "# Quobyte device identifier file (written by Mesos framework)".toList ++ ['\n'] := by
    decide
  have text : (setupText random).toList =
      "# Quobyte device identifier file (written by Mesos framework)".toList ++
        '\n' :: ("device.serial=" ++ toString random ++ "device.model=Unknown" ++
          "device.type=DATA_DEVICE").toList := first_line ended
  have more : ("device.serial=" ++ toString random ++ "device.model=Unknown" ++
      "device.type=DATA_DEVICE").toList ≠ [] := by simp
  simp only [text, getlines_line header, getlines_last rest more]

/-- No line of the file as it is written declares a type. -/
theorem setup_undeclared (random : ℕ) :
    "device.type=DATA_DEVICE" ∉ (getlines (setupText random).toList).map String.ofList := by
  rw [setup_lines]
  intro member
  obtain ⟨line, listed, same⟩ := List.mem_map.mp member
  have letters : line = "device.type=DATA_DEVICE".toList := by
    rw [← same, String.toList_ofList]
  rw [letters] at listed
  simp at listed

private theorem marker_apart (mntpoint path : String) :
    mntpoint ++ "/quobyte-" ++ "data" ≠ setupFileName path := by
  intro same
  have last := congrArg (fun text => text.toList.getLast?) same
  simp [setupFileName, List.getLast?_append] at last

/-- The new setup file marks nothing, and hides nothing that is marked. -/
private theorem discovered_after (initializes : Initializes fs request) (random : ℕ) :
    Discovered (fs.writeFile (setupFileName request.initializePath) (setupText random)) "data"
        "device.type=DATA_DEVICE" ↔
      Discovered fs "data" "device.type=DATA_DEVICE" := by
  have marked (mntpoint : String) :
      MarkedBy (fs.writeFile (setupFileName request.initializePath) (setupText random)) "data"
          "device.type=DATA_DEVICE" mntpoint ↔
        MarkedBy fs "data" "device.type=DATA_DEVICE" mntpoint := by
    unfold MarkedBy FileSystem.writeFile
    rw [if_pos initializes.creatable]
    simp only [Function.update_of_ne (marker_apart mntpoint request.initializePath)]
    by_cases here : mntpoint ++ "/QUOBYTE_DEV_SETUP" = setupFileName request.initializePath
    · simp [here, Function.update_self, initializes.bare, setup_undeclared random]
    · simp only [Function.update_of_ne here]
  have mounts : (fs.writeFile (setupFileName request.initializePath) (setupText random)).mounts =
      fs.mounts := by
    unfold FileSystem.writeFile
    split <;> rfl
  simp only [Discovered, mounts, marked]

private theorem initialized (initializes : Initializes fs request) (random : ℕ) :
    frameworkMessage fs random request =
      (fs.writeFile (setupFileName request.initializePath) (setupText random),
        some (probe (fs.writeFile (setupFileName request.initializePath) (setupText random))
          request)) := by
  unfold frameworkMessage
  rw [if_pos initializes.named, initializes.bare]
  rfl

private theorem not_read_back (initializes : Initializes fs request) (random : ℕ) :
    "device.type=DATA_DEVICE" ∉
      (frameworkMessage fs random request).1.lines (setupFileName request.initializePath) := by
  rw [initialized initializes, FileSystem.writeFile, if_pos initializes.creatable]
  simp only [Function.update_self]
  exact setup_undeclared random

/-- No device is recognised from the setup file the executor has written to it: the
declaration is not read back, whatever the serial number, and the response lists a
data device exactly if there was one without that file. -/
theorem initialized_never_recognised (initializes : Initializes fs request) (random : ℕ) :
    ¬ Recognised fs random request ∧
    ∃ response, (frameworkMessage fs random request).2 = some response ∧
      (.data ∈ response.deviceType ↔ Discovered fs "data" "device.type=DATA_DEVICE") := by
  refine ⟨fun recognised => not_read_back initializes random recognised.readBack, ?_⟩
  rw [initialized initializes]
  refine ⟨_, rfl, ?_⟩
  rw [core_listed (.inr (.inr rfl)), data_found, discovered_after initializes random]

/-- A disk without any marks. -/
def blankDisk : FileSystem := { mounts := ["/dev/sdb /mnt/disk1 xfs rw 0 0"] }

def initializeDisk : ProbeRequest := { initializePath := "/mnt/disk1" }

private theorem disk_initializes : Initializes blankDisk initializeDisk where
  named := by decide
  mounted := ⟨_, List.mem_singleton_self _, "/dev/sdb", "xfs", ["rw", "0", "0"],
    by decide +kernel, .inr rfl⟩
  bare := rfl
  creatable := rfl

/-- Initializing it leaves it unmarked. -/
theorem blank_disk_unmarked : ¬ Recognised blankDisk 846930886 initializeDisk ∧
    ∃ response, (frameworkMessage blankDisk 846930886 initializeDisk).2 = some response ∧
      .data ∉ response.deviceType := by
  obtain ⟨unrecognised, response, sent, listed⟩ :=
    initialized_never_recognised disk_initializes 846930886
  refine ⟨unrecognised, response, sent, mt listed.mp ?_⟩
  rintro ⟨line, _, mntpoint, _, marked⟩
  simp [MarkedBy, blankDisk] at marked

/-- The response to the request that initializes it lists no device. -/
theorem blank_disk_unreported :
    (frameworkMessage blankDisk 1804289383 initializeDisk).2 = some {} ∧
      ¬ Recognised blankDisk 1804289383 initializeDisk := by
  refine ⟨by decide +kernel, fun recognised => ?_⟩
  exact not_read_back disk_initializes 1804289383 recognised.readBack

end QuobyteMesos.DeviceDiscovery
