import QuobyteMesos.Messages
import QuobyteMesos.StdString
import Mathlib.Data.Finset.Insert

/-! The executor on an agent, translated from `executor.cpp`.

It keeps no state of its own: a request is answered from the agent's file
system, which is the mount table, the files that exist and the lines of the
setup files. The result of `random()` is an argument. `mem_foundTypes` reads the
three nested loops as what they look for. -/
namespace QuobyteMesos

/-- What `stat` tells about a path that exists. -/
inductive FileType where
  | directory
  | other
  deriving DecidableEq, Repr

/-- The files of an agent as the executor sees them; a path that `stat` does not
find has no type, and a file that cannot be opened has no lines. -/
structure FileSystem where
  mounts : List String := []
  stat : String → Option FileType := fun _ => none
  lines : String → List String := fun _ => []
  creatable : String → Bool := fun _ => true

/-- Writing a new file; nothing happens when it cannot be created. -/
def FileSystem.writeFile (fs : FileSystem) (path text : String) : FileSystem :=
  if fs.creatable path then
    { fs with
      stat := Function.update fs.stat path (some .other)
      lines := Function.update fs.lines path
        ((StdString.getlines text.toList).map String.ofList) }
  else
    fs

/-- The named values in ascending order, in which a `std::set` of them is iterated. -/
def DeviceType.ascending : List DeviceType := [.bootstrap, .registry, .metadata, .data, .client]

namespace Executor

def setupFileName (mntpoint : String) : String := mntpoint ++ "/QUOBYTE_DEV_SETUP"

/-- What `frameworkMessage` writes to a setup file. -/
def setupText (random : ℕ) : String :=
  "# Quobyte device identifier file (written by Mesos framework)\n" ++
    ("device.serial=" ++ toString random) ++ "device.model=Unknown" ++ "device.type=DATA_DEVICE"

/-- The device type the name of a marker file stands for. -/
def namedType (name : String) : Option DeviceType :=
  if name = "dir" then some .registry
  else if name = "metadata" then some .metadata
  else if name = "data" then some .data
  else none

/-- The device type a line of a setup file declares. -/
def declaredType (line : String) : Option DeviceType :=
  if line = "device.type=DIR_DEVICE" then some .registry
  else if line = "device.type=METADATA_DEVICE" then some .metadata
  else if line = "device.type=DATA_DEVICE" then some .data
  else none

def insertType (foundTypes : Finset DeviceType) : Option DeviceType → Finset DeviceType
  | some type => insert type foundTypes
  | none => foundTypes

/-- The loop over the lines of a setup file. -/
def readSetupFile (fs : FileSystem) (setupFile : String) (foundTypes : Finset DeviceType) :
    Finset DeviceType :=
  (fs.lines setupFile).foldl (fun found line => insertType found (declaredType line)) foundTypes

/-- The body of the loop over the marker names; the setup file is read again for
each of them. -/
def inspectName (fs : FileSystem) (mntpoint : String) (foundTypes : Finset DeviceType)
    (name : String) : Finset DeviceType :=
  let foundTypes :=
    if (fs.stat (mntpoint ++ "/quobyte-" ++ name)).isSome then
      insertType foundTypes (namedType name)
    else
      foundTypes
  if (fs.stat (setupFileName mntpoint)).isSome then
    readSetupFile fs (setupFileName mntpoint) foundTypes
  else
    foundTypes

/-- The body of the loop over the mount table. -/
def inspectMount (fs : FileSystem) (foundTypes : Finset DeviceType) (line : String) :
    Finset DeviceType :=
  match StdString.words line with
  | _ :: mntpoint :: type :: _ =>
    if type = "ext4" ∨ type = "xfs" then
      ["dir", "metadata", "data"].foldl (inspectName fs mntpoint) foundTypes
    else
      foundTypes
  | _ => foundTypes

/-- `found_types` after the mount table has been read. -/
def foundTypes (fs : FileSystem) : Finset DeviceType := fs.mounts.foldl (inspectMount fs) ∅

/-- The response, built from the file system as it is then. -/
def probe (fs : FileSystem) (request : ProbeRequest) : ProbeResponse where
  deviceType :=
    (if request.clientDirectory ≠ "" ∧ (fs.stat request.clientDirectory).isSome then [.client]
      else []) ++ DeviceType.ascending.filter (· ∈ foundTypes fs)
  clientMountPoint := fs.stat "/quobyte" = some .directory

/-- A path that has a setup file already is left alone, and the request without
an answer. -/
def frameworkMessage (fs : FileSystem) (random : ℕ) (request : ProbeRequest) :
    FileSystem × Option ProbeResponse :=
  if request.initializePath ≠ "" then
    if (fs.stat (setupFileName request.initializePath)).isSome then
      (fs, none)
    else
      let fs := fs.writeFile (setupFileName request.initializePath) (setupText random)
      (fs, some (probe fs request))
  else
    (fs, some (probe fs request))

/-! ### What is found -/

variable {fs : FileSystem} {type : DeviceType} {found : Finset DeviceType}

/-- A loop that adds to a set has found what one of its rounds adds. -/
theorem mem_foldl {α : Type} {round : Finset DeviceType → α → Finset DeviceType}
    {adds : α → Prop}
    (spec : ∀ found x, type ∈ round found x ↔ type ∈ found ∨ adds x) (xs : List α)
    (found : Finset DeviceType) :
    type ∈ xs.foldl round found ↔ type ∈ found ∨ ∃ x ∈ xs, adds x := by
  induction xs generalizing found with
  | nil => simp
  | cons x xs ih => simp only [List.foldl_cons, ih, spec, List.exists_mem_cons_iff, or_assoc]

theorem mem_insertType (found : Finset DeviceType) (candidate : Option DeviceType) :
    type ∈ insertType found candidate ↔ type ∈ found ∨ candidate = some type := by
  cases candidate with
  | none => simp [insertType]
  | some other =>
    simp only [insertType, Finset.mem_insert, Option.some.injEq]
    constructor
    · rintro (rfl | member)
      · exact .inr rfl
      · exact .inl member
    · rintro (member | rfl)
      · exact .inr member
      · exact .inl rfl

/-- The mount point carries the marker file of a name. -/
def Named (fs : FileSystem) (mntpoint name : String) (type : DeviceType) : Prop :=
  (fs.stat (mntpoint ++ "/quobyte-" ++ name)).isSome ∧ namedType name = some type

/-- The setup file of the mount point declares the type. -/
def Declared (fs : FileSystem) (mntpoint : String) (type : DeviceType) : Prop :=
  (fs.stat (setupFileName mntpoint)).isSome ∧
    ∃ line ∈ fs.lines (setupFileName mntpoint), declaredType line = some type

/-- The device type is marked on the mount point in one way or the other. -/
def Marked (fs : FileSystem) (mntpoint : String) (type : DeviceType) : Prop :=
  (∃ name ∈ ["dir", "metadata", "data"], Named fs mntpoint name type) ∨ Declared fs mntpoint type

/-- The mount point of a line the executor looks into. -/
def Mounted (line mntpoint : String) : Prop :=
  ∃ what type rest, StdString.words line = what :: mntpoint :: type :: rest ∧
    (type = "ext4" ∨ type = "xfs")

theorem mem_readSetupFile {setupFile : String} :
    type ∈ readSetupFile fs setupFile found ↔
      type ∈ found ∨ ∃ line ∈ fs.lines setupFile, declaredType line = some type :=
  mem_foldl (fun found line => mem_insertType found (declaredType line)) _ found

theorem mem_inspectName (mntpoint : String) (found : Finset DeviceType) (name : String) :
    type ∈ inspectName fs mntpoint found name ↔
      type ∈ found ∨ Named fs mntpoint name type ∨ Declared fs mntpoint type := by
  have named : type ∈ (if (fs.stat (mntpoint ++ "/quobyte-" ++ name)).isSome then
      insertType found (namedType name) else found) ↔
        type ∈ found ∨ Named fs mntpoint name type := by
    split
    · rename_i present
      simp [mem_insertType, Named, present]
    · rename_i absent
      simp [Named, absent]
  simp only [inspectName]
  split
  · rename_i present
    rw [mem_readSetupFile, named, or_assoc]
    simp [Declared, present]
  · rename_i absent
    rw [named]
    simp [Declared, absent]

/-- The setup file is read once for every name and declares the same each time. -/
private theorem marked_iff {mntpoint : String} :
    (∃ name ∈ ["dir", "metadata", "data"],
      Named fs mntpoint name type ∨ Declared fs mntpoint type) ↔ Marked fs mntpoint type := by
  constructor
  · rintro ⟨name, listed, named | declared⟩
    · exact .inl ⟨name, listed, named⟩
    · exact .inr declared
  · rintro (⟨name, listed, named⟩ | declared)
    · exact ⟨name, listed, .inl named⟩
    · exact ⟨"dir", List.mem_cons_self, .inr declared⟩

private theorem mounted_iff {line what mntpoint format other : String} {rest : List String}
    (fields : StdString.words line = what :: mntpoint :: format :: rest) :
    Mounted line other ↔ other = mntpoint ∧ (format = "ext4" ∨ format = "xfs") := by
  simp only [Mounted, fields, List.cons.injEq]
  constructor
  · rintro ⟨_, _, _, ⟨_, rfl, rfl, _⟩, scanned⟩
    exact ⟨rfl, scanned⟩
  · rintro ⟨rfl, scanned⟩
    exact ⟨what, format, rest, ⟨rfl, rfl, rfl, rfl⟩, scanned⟩

theorem mem_inspectMount (found : Finset DeviceType) (line : String) :
    type ∈ inspectMount fs found line ↔
      type ∈ found ∨ ∃ mntpoint, Mounted line mntpoint ∧ Marked fs mntpoint type := by
  unfold inspectMount
  split
  · rename_i what mntpoint format rest fields
    simp only [mounted_iff fields]
    split
    · rename_i scanned
      rw [mem_foldl (mem_inspectName mntpoint), marked_iff]
      simp [scanned]
    · rename_i skipped
      simp [skipped]
  · rename_i short
    have nowhere (mntpoint : String) : ¬ Mounted line mntpoint := by
      rintro ⟨what, format, rest, fields, _⟩
      exact short what mntpoint format rest fields
    simp [nowhere]

/-- What is found is what some mounted file system of the right kind carries a
mark of, wherever its line stands. -/
theorem mem_foundTypes :
    type ∈ foundTypes fs ↔
      ∃ line ∈ fs.mounts, ∃ mntpoint, Mounted line mntpoint ∧ Marked fs mntpoint type := by
  rw [foundTypes, mem_foldl mem_inspectMount]
  simp

/-! ### What is sent -/

/-- A response some agent's executor sends, to some request. -/
def Sends (response : ProbeResponse) : Prop :=
  ∃ fs random request, (frameworkMessage fs random request).2 = some response

/-- The device types a response can list. -/
structure SentTypes (types : List DeviceType) : Prop where
  nodup : types.Nodup
  named : ∀ type ∈ types, type = .registry ∨ type = .metadata ∨ type = .data ∨ type = .client

/-- Only types with a core service are found on a file system. -/
theorem found_core (found : type ∈ foundTypes fs) :
    type = .registry ∨ type = .metadata ∨ type = .data := by
  obtain ⟨_, _, mntpoint, _, marked⟩ := mem_foundTypes.mp found
  rcases marked with ⟨name, _, _, named⟩ | ⟨_, line, _, declared⟩
  · unfold namedType at named
    grind
  · unfold declaredType at declared
    grind

/-- The client is listed at most once, and so is every type found. -/
theorem probe_sent (fs : FileSystem) (request : ProbeRequest) :
    SentTypes (probe fs request).deviceType := by
  have ordered : (DeviceType.ascending.filter (· ∈ foundTypes fs)).Nodup :=
    List.Nodup.filter _ (by decide)
  constructor
  · refine List.Nodup.append ?_ ordered ?_
    · split <;> simp
    · intro type client found
      have foundType : type ∈ foundTypes fs := by simpa using (List.mem_filter.mp found).2
      rcases found_core foundType with rfl | rfl | rfl <;> split at client <;> simp at client
  · intro type member
    rcases List.mem_append.mp member with client | found
    · split at client
      · simp [List.mem_singleton.mp client]
      · cases client
    · have foundType : type ∈ foundTypes fs := by simpa using (List.mem_filter.mp found).2
      rcases found_core foundType with rfl | rfl | rfl <;> simp

theorem sent_of_sends {response : ProbeResponse} (sends : Sends response) :
    SentTypes response.deviceType := by
  obtain ⟨fs, random, request, sent⟩ := sends
  unfold frameworkMessage at sent
  split at sent
  · split at sent
    · cases sent
    · cases sent
      exact probe_sent _ request
  · cases sent
    exact probe_sent fs request

end Executor

end QuobyteMesos
