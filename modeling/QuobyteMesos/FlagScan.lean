import QuobyteMesos.Tasks

/-! What the scan for a memory limit finds in a flag.

The scan reads what stands behind the first colon of the field behind the first
"mem", and drops the last character of a field that no semicolon follows. `Shows`
says which number a flag shows to it. -/
namespace QuobyteMesos.FlagScan
open StdString

/-- The field behind a "mem": up to the next semicolon, or else all that follows
but the last character. -/
inductive Field : List Char → List Char → Prop where
  | closed {field : List Char} (rest : List Char) (plain : ';' ∉ field) :
      Field (field ++ ';' :: rest) field
  | last {after : List Char} (plain : ';' ∉ after) : Field after after.dropLast

/-- What stands behind the first colon of the field of the first "mem". -/
def Behind (text : String) (number : List Char) : Prop :=
  ∃ before after label, FirstAt "mem".toList text.toList before after ∧
    Field after (label ++ ':' :: number) ∧ ':' ∉ label

/-- The number in the field of the first "mem", behind its first colon. -/
def Shows (text : String) (value : Int) : Prop :=
  ∃ before after label number, FirstAt "mem".toList text.toList before after ∧
    Field after (label ++ ':' :: number) ∧ ':' ∉ label ∧ stoi number = .ok value

/-- What does not begin with a number is not one. -/
private theorem stoi_letter (rest : List Char) : stoi ('m' :: rest) = .error .invalidArgument := by
  simp [stoi, isSpace]

/-- What the scan cuts out between its first "mem" and the end of the field. -/
def segment (after : List Char) : List Char :=
  substr 0 ((find [';'] ('m' :: 'e' :: 'm' :: after)).getD (after.length + 2))
    ('m' :: 'e' :: 'm' :: after)

/-- A number that cannot be read counts as `-1`. -/
def numberRead : Except NumberError Int → Except Abort Int
  | .ok value => .ok value
  | .error .invalidArgument => .ok (-1)
  | .error .outOfRange => .error .numberOutOfRange

/-- What the scan makes of the segment it has cut out. -/
def scanSegment (text : List Char) : Except Abort Int :=
  numberRead (stoi (substr (((find [':'] text).map (· + 1)).getD 0) text.length text))

theorem scan_first {text : String} {before after : List Char}
    (first : FirstAt "mem".toList text.toList before after) :
    memMbFromResourceString text = scanSegment (segment after) := by
  have found := find_eq_some_iff.mpr ⟨before, after, first, rfl⟩
  have start : substr before.length text.toList.length text.toList = 'm' :: 'e' :: 'm' :: after := by
    rw [first.split, substr, List.append_assoc, List.drop_left, List.take_of_length_le (by simp)]
    rfl
  unfold memMbFromResourceString
  simp only [found, start]
  rfl

/-- The segment is the field with its "mem", whose last letter is dropped with it
where nothing follows. -/
theorem segment_field {after field : List Char} (cut : Field after field)
    (more : after ≠ []) : segment after = 'm' :: 'e' :: 'm' :: field := by
  cases cut with
  | closed rest plain =>
    have behind : ';' ∉ 'm' :: 'e' :: 'm' :: field := by simpa using plain
    have found := find_char_append behind rest
    simp only [List.cons_append] at found
    rw [segment, found, substr]
    simp
  | last plain =>
    obtain ⟨letter, rest, rfl⟩ := List.exists_cons_of_ne_nil more
    have behind : ';' ∉ 'm' :: 'e' :: 'm' :: letter :: rest := by simpa using plain
    rw [segment, find_char_eq_none_iff.mpr behind]
    simp [substr, List.dropLast_eq_take]

theorem exists_field (after : List Char) : ∃ field, Field after field := by
  by_cases semicolon : ';' ∈ after
  · obtain ⟨field, rest, rfl, plain⟩ := List.eq_append_cons_of_mem semicolon
    exact ⟨field, .closed rest plain⟩
  · exact ⟨_, .last semicolon⟩

/-- What follows the first colon of the segment is read as a number. -/
theorem scan_colon {label : List Char} (plain : ':' ∉ label) (number : List Char) :
    scanSegment ('m' :: 'e' :: 'm' :: (label ++ ':' :: number)) = numberRead (stoi number) := by
  have behind : ':' ∉ 'm' :: 'e' :: 'm' :: label := by simpa using plain
  have found := find_char_append behind number
  simp only [List.cons_append] at found
  rw [scanSegment, found]
  simp only [substr, Option.map_some, Option.getD_some, List.length_cons]
  rw [List.take_of_length_le (by simp; omega)]
  simp

/-- Without a colon there is no number. -/
theorem scan_plain {text : List Char} (plain : ':' ∉ 'm' :: text) :
    scanSegment ('m' :: text) = .ok (-1) := by
  rw [scanSegment, find_char_eq_none_iff.mpr plain]
  simp [substr, stoi_letter, numberRead]

theorem scan_behind {text : String} {number : List Char} (behind : Behind text number) :
    memMbFromResourceString text = numberRead (stoi number) := by
  obtain ⟨before, after, label, first, cut, plain⟩ := behind
  have more : after ≠ [] := by
    intro none
    generalize field : label ++ ':' :: number = parts at cut
    cases cut with
    | closed rest => simp at none
    | last => simp [none] at field
  rw [scan_first first, segment_field cut more, scan_colon plain]

/-- A field without a colon shows nothing. -/
theorem scan_unlabelled {text : String} {before after field : List Char}
    (first : FirstAt "mem".toList text.toList before after) (cut : Field after field)
    (plain : ':' ∉ field) : memMbFromResourceString text = .ok (-1) := by
  rw [scan_first first]
  by_cases more : after = []
  · subst more
    decide
  · rw [segment_field cut more]
    exact scan_plain (by simpa using plain)

theorem scan_cases (text : String) :
    (∃ number, Behind text number) ∨ memMbFromResourceString text = .ok (-1) := by
  cases found : find "mem".toList text.toList with
  | none =>
    right
    simp only [memMbFromResourceString, found]
  | some position =>
    obtain ⟨before, after, first, _⟩ := find_eq_some_iff.mp found
    obtain ⟨field, cut⟩ := exists_field after
    by_cases colon : ':' ∈ field
    · obtain ⟨label, number, rfl, plain⟩ := List.eq_append_cons_of_mem colon
      exact .inl ⟨number, before, after, label, first, cut, plain⟩
    · exact .inr (scan_unlabelled first cut colon)

/-- A flag that shows a number is read as that number. -/
theorem scanned_of_shows {text : String} {value : Int} (shows : Shows text value) :
    memMbFromResourceString text = .ok value := by
  obtain ⟨before, after, label, number, first, cut, plain, read⟩ := shows
  rw [scan_behind ⟨before, after, label, first, cut, plain⟩, read, numberRead]

/-- What is read from a flag, if it is not the `-1` of a failure, is shown by it. -/
theorem shows_of_scanned {text : String} {value : Int}
    (scanned : memMbFromResourceString text = .ok value) (success : value ≠ -1) :
    Shows text value := by
  rcases scan_cases text with ⟨number, behind⟩ | failed
  · rw [scan_behind behind] at scanned
    obtain ⟨before, after, label, first, cut, plain⟩ := behind
    refine ⟨before, after, label, number, first, cut, plain, ?_⟩
    cases read : stoi number with
    | ok other =>
      rw [read] at scanned
      cases scanned
      rfl
    | error failure =>
      rw [read] at scanned
      cases failure with
      | invalidArgument =>
        cases scanned
        exact absurd rfl success
      | outOfRange => cases scanned
  · rw [failed] at scanned
    cases scanned
    exact absurd rfl success

end QuobyteMesos.FlagScan
