import QuobyteMesos.CoreLaunches
import QuobyteMesos.ReservedPorts
import QuobyteMesos.ResourceText
import Mathlib.Data.List.TakeWhile

/-! The memory limit a command exports and the memory its task reserves.

The reservation is what Mesos makes of one flag; the limit is what a scan of a
flag finds behind its first "mem", and for s3 it is another flag: the command
reads `s3_resources` while `webconsole_resources` is reserved. `ReadsMemory` says
what Mesos makes of the mem entries of a text, so that the limit is right exactly
if the one flag shows to the scan what the entries of the other add up to. -/
namespace QuobyteMesos.MemoryLimits
open Mesos Machine StdString SchedulerRuns SchedulerSteps CoreLaunches TaskSettings
open FlagScan ReservedPorts ResourceText

variable {R : Type} [Resources R] {config : Config R} {s s' : Scheduler} {now : Int}
variable {offer : Offer R} {kind : ServiceKind} {task : TaskInfo R} {id : String}
variable {tasks : List (TaskInfo R)} {calls : List (DriverCall R)}

/-! ### The mem entries of a text -/

/-- The value of an entry named mem, whatever its role. -/
def memValue (token : List Char) : Option (List Char) :=
  (entryParts token).bind fun parts =>
    if parts.name = "mem".toList then some parts.value else none

/-- The values of the mem entries of a text. -/
def memValues (text : List Char) : List (List Char) :=
  (tokenize ';' text).filterMap memValue

/-- The integer part of what the mem entries of a text add up to, `amount` being a
value in thousandths. -/
def flagMb (amount : List Char → ℕ) (text : String) : ℕ :=
  ((memValues text.toList).map amount).sum / 1000

/-- How Mesos reads memory, with three decimal digits: `memoryMb` is the integer part
of the mem scalar of some resources, `amount` the value of an entry in thousandths. -/
structure ReadsMemory (memoryMb : R → ℕ) (amount : List Char → ℕ) : Prop where
  parsed : ∀ text resources, Resources.parse text = some resources →
    memoryMb resources = flagMb amount text
  decimal : ∀ number : Scalar, number.integerPart ≤ 2147483647 →
    (∀ digits ∈ number.fraction, digits.length ≤ 3) →
      amount number.text / 1000 = number.integerPart

/-- What separates entries can be read from either side. -/
private theorem memValues_append (front back : List Char) :
    memValues (front ++ ';' :: back) = memValues front ++ memValues back := by
  simp [memValues, tokenize, List.splitOn_append_cons_self]

private theorem memValues_single {token : List Char} (plain : ';' ∉ token) (some : token ≠ []) :
    memValues token = (memValue token).toList := by
  rw [memValues, tokenize, List.splitOn_eq_singleton plain]
  cases value : memValue token <;> simp [some, value]

/-- The parts of an entry with a single colon. -/
private theorem entryParts_joined {label value : List Char} (label_plain : ':' ∉ label)
    (value_plain : ':' ∉ value) (label_some : label ≠ []) (value_some : value ≠ []) :
    entryParts (label ++ ':' :: value) = some
      { name := trim (label.takeWhile (· ≠ '('))
        role := trim (((label.dropWhile (· ≠ '(')).drop 1).takeWhile (· ≠ ')'))
        value := value.filter (· ≠ ' ') } := by
  have parts : tokenize ':' (label ++ ':' :: value) = [label, value] := by
    rw [tokenize, List.splitOn_append_cons_self_of_not_mem label_plain,
      List.splitOn_eq_singleton value_plain]
    simp [label_some, value_some]
  rw [entryParts, parts]

/-- Behind the name of the ports stands neither a semicolon nor a colon. -/
private theorem ports_text (ports : List UInt16) : ∃ ranges : List Char,
    (portsText ports).toList = "ports".toList ++ ':' :: ranges ∧ ranges ≠ [] ∧
      ∀ c ∈ ranges, c.isDigit ∨ c ∈ ['-', ',', '[', ']'] := by
  refine ⟨'[' :: (",".toList.intercalate (ports.map fun port =>
    (toString port ++ "-" ++ toString port).toList) ++ [']']), ?_, by simp, ?_⟩
  · rw [portsText, String.toList_append, String.toList_append, String.toList_intercalate, List.map_map]
    rfl
  · intro c member
    obtain rfl | listed := List.mem_cons.mp member
    · exact .inr (by simp)
    rcases List.mem_append.mp listed with joined | last
    · obtain comma | ⟨range, inside, here⟩ := mem_intercalate joined
      · obtain rfl : c = ',' := List.mem_singleton.mp comma
        exact .inr (by decide)
      · obtain ⟨port, _, rfl⟩ := List.mem_map.mp inside
        simp only [String.toList_append, List.mem_append] at here
        obtain (first | dash) | second := here
        · exact .inl (@isDigit_of_mem_toString port.toNat _ first)
        · obtain rfl : c = '-' := List.mem_singleton.mp dash
          exact .inr (by decide)
        · exact .inl (@isDigit_of_mem_toString port.toNat _ second)
    · obtain rfl : c = ']' := List.mem_singleton.mp last
      exact .inr (by decide)

/-- The ports added to a flag bring in no memory. -/
private theorem ports_value (ports : List UInt16) : memValues (portsText ports).toList = [] := by
  obtain ⟨ranges, text, some, characters⟩ := ports_text ports
  have semicolon : ';' ∉ ranges := fun member => absurd (characters _ member) (by decide)
  have colon : ':' ∉ ranges := fun member => absurd (characters _ member) (by decide)
  have whole : ';' ∉ "ports".toList ++ ':' :: ranges := by simp [semicolon]
  have name : trim ("ports".toList.takeWhile (· ≠ '(')) ≠ "mem".toList := by decide
  rw [text, memValues_single whole (by simp), memValue,
    entryParts_joined (by decide) colon (by decide) some, Option.bind_some, if_neg name]
  rfl

theorem flagMb_ports (amount : List Char → ℕ) (flag : String) (ports : List UInt16) :
    flagMb amount (flag ++ ";" ++ portsText ports) = flagMb amount flag := by
  have text : (flag ++ ";" ++ portsText ports).toList =
      flag.toList ++ ';' :: (portsText ports).toList := by simp
  rw [flagMb, text, memValues_append, ports_value, List.append_nil, flagMb]

/-! ### A text of resources with a single mem entry -/

/-- A text as Mesos documents it, with the names and the mem scalar it reads as they
stand: names without blanks, and a single mem entry, within an `int`, with at most
three decimal digits. -/
structure Documented (reserved : List Entry) (number : Scalar) : Prop where
  once : MemOnce reserved number
  names : ∀ entry ∈ reserved, ∀ c ∈ entry.name, ¬ isSpace c
  fits : number.integerPart ≤ 2147483647
  decimals : ∀ digits ∈ number.fraction, digits.length ≤ 3

private theorem memValues_joined {tokens : List (List Char)} (some : tokens ≠ [])
    (plain : ∀ token ∈ tokens, ';' ∉ token ∧ token ≠ []) :
    memValues ([';'].intercalate tokens) = tokens.filterMap memValue := by
  rw [memValues, tokenize, List.splitOn_intercalate _ (fun token member => (plain token member).1) some,
    List.filter_eq_self.mpr fun token member => by simpa using (plain token member).2]

/-- A name without blanks stays what it is. -/
private theorem trim_plain {name : List Char} (plain : ∀ c ∈ name, ¬ isSpace c) : trim name = name := by
  have kept {text : List Char} (plain : ∀ c ∈ text, ¬ isSpace c) : text.dropWhile isSpace = text := by
    cases text with
    | nil => rfl
    | cons c text => exact List.dropWhile_cons_of_neg (plain c List.mem_cons_self)
  rw [trim, kept plain, kept fun c member => plain c (List.mem_reverse.mp member), List.reverse_reverse]

/-- The name of an entry is what stands in front of its colon or its role. -/
private theorem key_name (entry : Entry) : entry.key.takeWhile (· ≠ '(') = entry.name := by
  obtain ⟨_, _, paren⟩ := entry.name_plain
  have inside : ∀ c ∈ entry.name, decide (c ≠ '(') = true := by
    intro c member
    simpa using fun same : c = '(' => paren (same ▸ member)
  unfold Entry.key
  cases entry.role with
  | none => exact List.takeWhile_eq_self_iff.mpr inside
  | some role => rw [List.takeWhile_append_of_pos inside]; simp

private theorem memValue_entry {entry : Entry} (plain : ∀ c ∈ entry.name, ¬ isSpace c) :
    memValue entry.text = if entry.name = "mem".toList then
      some (entry.value.text.filter (· ≠ ' ')) else none := by
  by_cases some : entry.key = []
  · have unnamed : entry.name = [] := by
      rw [← key_name, some]
      rfl
    have single : tokenize ':' entry.text = [entry.value.text] := by
      have split := List.splitOn_append_cons_self_of_not_mem (List.not_mem_nil (a := ':')) entry.value.text
      rw [List.splitOn_eq_singleton (value_plain _).2] at split
      rw [Entry.text, some, tokenize, split]
      simp [value_some]
    rw [memValue, entryParts, single, unnamed]
    rfl
  · rw [memValue, Entry.text, entryParts_joined (key_plain entry).2 (value_plain _).2 some (value_some _),
      Option.bind_some, key_name, trim_plain plain]

theorem flagMb_documented {memoryMb : R → ℕ} {amount : List Char → ℕ} {reserved : List Entry}
    {number : Scalar} (reads : ReadsMemory memoryMb amount)
    (documented : Documented reserved number) :
    flagMb amount (resourceText reserved) = number.integerPart := by
  obtain ⟨mem, listed, named, value⟩ := documented.once.listed
  have some : reserved ≠ [] := List.ne_nil_of_mem listed
  have plain : ∀ token ∈ reserved.map Entry.text, ';' ∉ token ∧ token ≠ [] := by
    intro token member
    obtain ⟨entry, _, rfl⟩ := List.mem_map.mp member
    exact ⟨text_plain entry, by simp [Entry.text]⟩
  have single : reserved.filter (·.name = "mem".toList) = [mem] := by
    have one := documented.once.once
    rw [List.filter_map, List.length_map] at one
    obtain ⟨entry, only⟩ := List.length_eq_one_iff.mp one
    have here : mem ∈ reserved.filter ((· = "mem".toList) ∘ Entry.name) :=
      List.mem_filter.mpr ⟨listed, by simpa using named⟩
    rw [only] at here
    rw [List.mem_singleton.mp here]
    exact only
  have entries : memValues (resourceText reserved).toList = (reserved.filter
      (·.name = "mem".toList)).map fun entry => entry.value.text.filter (· ≠ ' ') := by
    rw [resourceText, String.toList_ofList, memValues_joined (by simpa using some) plain,
      List.filterMap_map, ← List.filterMap_eq_map, List.filterMap_filter]
    refine List.filterMap_congr fun entry member => ?_
    rw [Function.comp_apply, memValue_entry (documented.names entry member)]
    simp
  have text : number.text.filter (· ≠ ' ') = number.text := by
    refine List.filter_eq_self.mpr fun c member => ?_
    have blank := scalar_other number (c := ' ') (by decide) (by decide)
    simpa using fun same : c = ' ' => blank (same ▸ member)
  rw [flagMb, entries, single, List.map_singleton, value, Value.text, text, List.map_singleton,
    List.sum_singleton, reads.decimal number documented.fits documented.decimals]

/-! ### The limit and the reservation -/

/-- The limit is the memory reserved less what is kept back, and so never above it. -/
structure LimitRight (memory extraRamMb : Int) (reservedMb : ℕ) : Prop where
  same : memory = reservedMb - extraRamMb
  within : 0 ≤ extraRamMb → memory ≤ reservedMb

/-- What is read fits an `int32_t`. -/
private theorem scanned_int32 {text : String} {value : Int}
    (scanned : memMbFromResourceString text = .ok value) :
    -2147483648 ≤ value ∧ value ≤ 2147483647 := by
  by_cases failure : value = -1
  · omega
  · obtain ⟨_, _, _, _, _, _, _, read⟩ := shows_of_scanned scanned failure
    exact stoi_bounds read

/-- The limit is the memory reserved less what is kept back exactly if the flag
shows the memory reserved and the difference does not overflow. -/
private theorem limit_iff {text : String} {mem extra : Int} {reserved : ℕ}
    (scanned : memMbFromResourceString text = .ok mem) (int32Flag : extra < 2147483648) :
    LimitRight (int32 (mem - extra)) extra reserved ↔
      Shows text (int32 reserved) ∧ int32 (reserved - extra) = reserved - extra := by
  have bounds := scanned_int32 scanned
  constructor
  · rintro ⟨same, _⟩
    unfold int32 at same
    have read : mem = int32 reserved := by
      unfold int32
      omega
    have success : mem ≠ -1 := by
      unfold int32 at read
      omega
    refine ⟨read ▸ shows_of_scanned scanned success, ?_⟩
    unfold int32
    omega
  · rintro ⟨shows, fits⟩
    have read : mem = int32 reserved :=
      Except.ok.inj (scanned.symm.trans (scanned_of_shows shows))
    have same : int32 (mem - extra) = reserved - extra := by
      unfold int32 at read fits ⊢
      omega
    exact ⟨same, fun _ => by omega⟩

/-- The reservation of a service holds the memory of its flag. -/
private theorem reserved_memory {memoryMb : R → ℕ} {amount : List Char → ℕ}
    (reads : ReadsMemory memoryMb amount) (made : byMakeTask kind = true) :
    memoryMb (config.resources kind) = flagMb amount (reservedFlag config.flags kind) := by
  have parsed := config.prepared kind
  rw [reserved_text made] at parsed
  rw [reads.parsed _ _ parsed, flagMb_ports]

/-- A task launched for one of the six services exports the memory it reserves less
what is kept back exactly if the flag its command reads shows what the mem entries of
the flag it reserves add up to, and the difference does not overflow. Where both flags
are texts as documented, that is: the first entry of the one that holds "mem" shows the
integer part of the mem entry of the other. For s3 the two are `s3_resources` and
`webconsole_resources`, for every other service they are the same flag. -/
theorem exported_limit_iff {memoryMb : R → ℕ} {amount : List Char → ℕ} {source : MemorySource}
    (reads : ReadsMemory memoryMb amount)
    (handled : handleOffer config s now offer = .ok (s', calls))
    (launched : .launchTasks id tasks ∈ calls) (member : task ∈ tasks)
    (named : task.taskId = taskId kind offer.hostname)
    (listed : memorySource config.flags kind = some source)
    (int32Flag : source.extraRamMb < 2147483648) :
    ∃ memory, Carries config offer kind source memory task ∧
      (LimitRight memory source.extraRamMb (memoryMb task.resources) ↔
        Shows source.resources (int32 (flagMb amount (reservedFlag config.flags kind))) ∧
          int32 (flagMb amount (reservedFlag config.flags kind) - source.extraRamMb) =
            flagMb amount (reservedFlag config.flags kind) - source.extraRamMb) ∧
      ∀ {entries reserved : List Entry} {number : Scalar},
        source.resources = resourceText entries →
        reservedFlag config.flags kind = resourceText reserved → Documented reserved number →
          (LimitRight memory source.extraRamMb (memoryMb task.resources) ↔
            FirstShown entries number.integerPart ∧
              int32 (number.integerPart - source.extraRamMb) =
                number.integerPart - source.extraRamMb) := by
  have made : byMakeTask kind = true := by
    cases kind <;> first | rfl | cases listed
  have built := launched_made handled launched member named made
  obtain ⟨mem, scanned, carries⟩ := madeTask_carries listed built
  have right : LimitRight _ _ (flagMb amount (reservedFlag config.flags kind)) ↔ _ :=
    limit_iff scanned int32Flag
  refine ⟨_, carries, ?_, ?_⟩
  · rwa [carries.resources, reserved_memory reads made]
  · intro entries reserved number text reservedText documented
    rw [reservedText, flagMb_documented reads documented] at right
    rw [carries.resources, reserved_memory reads made, reservedText,
      flagMb_documented reads documented, right, text]
    have fits := documented.fits
    have same : int32 (number.integerPart : Int) = number.integerPart := by
      unfold int32
      omega
    have shown : Shows (resourceText entries) number.integerPart ↔
        FirstShown entries number.integerPart :=
      ⟨fun shows => (scan_shown_iff fits).mp (scanned_of_shows shows),
        fun first => shows_of_scanned ((scan_shown_iff fits).mpr first) (by omega)⟩
    rw [same, shown]

/-! ### The text format reads memory so -/

/-- The integer part of the memory reserved, for whatever role. -/
def reservedMb (resources : TextResources) : ℕ :=
  ((resources.amounts.filter (·.1.1 = "mem")).map (·.2)).sum / 1000

/-- What is no number counts nothing. -/
def thousandths (value : List Char) : ℕ := (TextResources.parseScalar value).getD 0

private theorem thousandths_bracket (ranges : List Char) : thousandths ('[' :: ranges) = 0 := by
  have letter : ¬ '['.isDigit := by decide
  simp [thousandths, TextResources.parseScalar, letter]

private theorem entry_memory {token : List Char} {entry : TextResources}
    (parsed : TextResources.parseEntry token = some entry) :
    ((entry.amounts.filter (·.1.1 = "mem")).map (·.2)).sum =
      ((memValue token).toList.map thousandths).sum := by
  unfold TextResources.parseEntry at parsed
  obtain ⟨parts, split, read⟩ := Option.bind_eq_some_iff.mp parsed
  have name : String.ofList parts.name = "mem" ↔ parts.name = "mem".toList :=
    ⟨fun same => by rw [← same, String.toList_ofList], fun same => by rw [same, String.ofList_toList]⟩
  rw [memValue, split, Option.bind_some]
  split at read
  · rename_i ranges value
    obtain ⟨ports, _, rfl⟩ := Option.map_eq_some_iff.mp read
    rw [value]
    split <;> simp [thousandths_bracket]
  · obtain ⟨amount, value, rfl⟩ := Option.map_eq_some_iff.mp read
    by_cases mem : parts.name = "mem".toList
    · simp [mem, thousandths, value]
    · have other : String.ofList parts.name ≠ "mem" := mt name.mp mem
      rw [if_neg mem, List.filter_cons_of_neg (by simpa using other)]
      rfl

private theorem entries_memory {tokens : List (List Char)} {entries : List TextResources}
    (parsed : tokens.mapM TextResources.parseEntry = some entries) :
    (((entries.flatMap ResourcePool.Bundle.amounts).filter (·.1.1 = "mem")).map (·.2)).sum =
      ((tokens.filterMap memValue).map thousandths).sum := by
  induction tokens generalizing entries with
  | nil =>
    obtain rfl : entries = [] := by simpa using parsed.symm
    rfl
  | cons token tokens ih =>
    rw [List.mapM_cons] at parsed
    obtain ⟨entry, first, rest⟩ := Option.bind_eq_some_iff.mp parsed
    obtain ⟨later, others, same⟩ := Option.bind_eq_some_iff.mp rest
    obtain rfl : entry :: later = entries := Option.some.inj same
    have values : (token :: tokens).filterMap memValue =
        (memValue token).toList ++ tokens.filterMap memValue := by
      cases value : memValue token <;> simp [value]
    rw [values, List.flatMap_cons, List.filter_append, List.map_append, List.sum_append,
      entry_memory first, ih others, List.map_append, List.sum_append]

/-- Digits with at most three more behind a point, in thousandths. -/
private theorem scalar_read (number : Scalar) :
    TextResources.parseScalar number.text = some (number.integerPart * 1000 +
      digitsValue ((number.fraction.getD [] ++ ['0', '0', '0']).take 3)) := by
  have digits : ∀ c ∈ number.whole, decide (c ≠ '.') = true := by
    intro c member
    have digit := number.whole_digits c member
    simpa using fun same : c = '.' => absurd (same ▸ digit) (by decide)
  have point : number.fractionText.takeWhile (· ≠ '.') = [] := by
    unfold Scalar.fractionText
    cases number.fraction <;> rfl
  have behind : (number.fractionText.dropWhile (· ≠ '.')).drop 1 = number.fraction.getD [] := by
    unfold Scalar.fractionText
    cases number.fraction <;> rfl
  have run : ∀ c ∈ number.fraction.getD [], c.isDigit := by
    cases fraction : number.fraction with
    | none => simp
    | some digits => exact number.fraction_digits digits fraction
  have whole : number.text.takeWhile (· ≠ '.') = number.whole := by
    rw [Scalar.text, List.takeWhile_append_of_pos digits, point, List.append_nil]
  have rest : (number.text.dropWhile (· ≠ '.')).drop 1 = number.fraction.getD [] := by
    rw [Scalar.text, List.dropWhile_append_of_pos digits, behind]
  unfold TextResources.parseScalar
  rw [whole, rest]
  exact if_pos ⟨number.some_digit, List.all_eq_true.mpr number.whole_digits, List.all_eq_true.mpr run⟩

/-- The text format reads memory as Mesos does. -/
theorem reads_reserved : ReadsMemory reservedMb thousandths where
  parsed := by
    intro text resources parsed
    obtain ⟨entries, each, rfl⟩ := Option.map_eq_some_iff.mp parsed
    rw [reservedMb, entries_memory each, flagMb, memValues]
  decimal := by
    intro number _ _
    have run : ∀ c ∈ (number.fraction.getD [] ++ ['0', '0', '0']).take 3, c.isDigit := by
      intro c member
      rcases List.mem_append.mp (List.mem_of_mem_take member) with inside | zero
      · cases fraction : number.fraction with
        | none => simp [fraction] at inside
        | some digits => exact number.fraction_digits digits fraction c (by simpa [fraction] using inside)
      · simp only [List.mem_cons, List.not_mem_nil, or_false, or_self] at zero
        subst zero
        rfl
    have small := digitsValue_lt run
    have length : ((number.fraction.getD [] ++ ['0', '0', '0']).take 3).length = 3 := by simp
    rw [length] at small
    rw [thousandths, scalar_read, Option.getD_some]
    omega

/-! ### Two launches of the registry -/

/-- The registry launched with the default flags gets what it reserves but for the
512 MB kept back. -/
theorem default_limit_right : ∃ s, ∃ task : TaskInfo TextResources, Reachable defaultConfig s ∧
    task.taskId = taskId .registry "h1" ∧ ∃ source memory,
      Carries defaultConfig (wideOffer "o2" "h1") .registry source memory task ∧
      memory = reservedMb task.resources - 512 := by
  have ran : (run (callbackStep defaultConfig) (Scheduler.fresh { targetVersion := "1" })
      (registryOnce.take 3)).next.map (fun s =>
        launchesWith defaultConfig s 2 (wideOffer "o2" "h1") fun tasks =>
          tasks.any fun task => task.taskId = taskId .registry "h1") = some true := by decide +kernel
  obtain ⟨s, s', calls, id, tasks, task, reachable, handled, launched, member, named⟩ :=
    task_of_run ran
  obtain ⟨memory, carries, _, right⟩ :=
    exported_limit_iff reads_reserved handled launched member named rfl (by decide)
  have documented : Documented [cpusEntry, memoryEntry, diskEntry] memoryNumber :=
    ⟨⟨⟨memoryEntry, by simp, rfl, rfl⟩, by decide⟩, by decide, by decide, by simp [memoryNumber]⟩
  have shown : FirstShown [cpusEntry, memoryEntry, diskEntry] 2084 :=
    ⟨[cpusEntry], memoryEntry, [diskEntry], memoryNumber, rfl, by simp; decide, by decide, rfl, rfl⟩
  have flag : "cpus:1.0;mem:2084;disk:32" = resourceText [cpusEntry, memoryEntry, diskEntry] := rfl
  have limit := (right flag flag documented).mpr ⟨shown, by decide⟩
  exact ⟨s, task, reachable, named, _, memory, carries, limit.same⟩

/-- The default flags with the memory of the registry as their last entry. -/
def memoryLastConfig : Config TextResources where
  flags := { registryResources := "cpus:1.0;disk:32;mem:2084" }
  resources kind := if kind = .registry then
      ⟨[(("cpus", ""), 1000), (("disk", ""), 32000), (("mem", ""), 2084000)], [21000, 21001]⟩
    else defaultResources kind
  prepared := by
    intro kind
    cases kind <;> decide +kernel

/-- The last digit is dropped: 208 less 512 is exported instead of 2084 less 512. -/
theorem last_digit_dropped : ∃ s s' calls id tasks task, Reachable memoryLastConfig s ∧
    handleOffer memoryLastConfig s 2 (wideOffer "o2" "h1") = .ok (s', calls) ∧
    .launchTasks id tasks ∈ calls ∧ task ∈ tasks ∧ task.taskId = taskId .registry "h1" ∧
    ∃ source memory, Carries memoryLastConfig (wideOffer "o2" "h1") .registry source memory task ∧
      reservedMb task.resources = 2084 ∧ source.extraRamMb = 512 ∧ memory = -304 := by
  have ran : (run (callbackStep memoryLastConfig) (Scheduler.fresh { targetVersion := "1" })
      (registryOnce.take 3)).next.map (fun s =>
        launchesWith memoryLastConfig s 2 (wideOffer "o2" "h1") fun tasks =>
          tasks.any fun task => task.taskId = taskId .registry "h1") = some true := by decide +kernel
  obtain ⟨s, s', calls, id, tasks, task, reachable, handled, launched, member, named⟩ :=
    task_of_run ran
  have built := launched_made handled launched member named rfl
  obtain ⟨mem, scanned, carries⟩ := madeTask_carries rfl built
  have read : memMbFromResourceString "cpus:1.0;disk:32;mem:2084" = .ok 208 := by decide +kernel
  obtain rfl : mem = 208 := Except.ok.inj (scanned.symm.trans read)
  refine ⟨s, s', calls, id, tasks, task, reachable, handled, launched, member, named, _, _, carries,
    ?_, rfl, by decide⟩
  rw [carries.resources]
  decide

end QuobyteMesos.MemoryLimits
