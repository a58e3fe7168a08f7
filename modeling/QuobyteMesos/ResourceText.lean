import QuobyteMesos.FlagScan

/-! What the scan for a memory limit makes of any text, and of a text of resources.

`Entry` is an entry of the text format Mesos documents, and `resourceText` joins
entries as the flags do. `scan_entries` is the scan over them: it stops at the
first entry that holds "mem" anywhere, be it in the name of another resource or
in a role, and drops the last character of that entry if it is the last one. -/
namespace QuobyteMesos.ResourceText
open StdString FlagScan

/-! ### Any text -/

/-- The text shows a number behind its first "mem", of any size. -/
def Numbered (text : String) (value : Int) : Prop :=
  ∃ number, Behind text number ∧ LeadingNumber number value

private theorem scan_numbered {text : String} {value : Int} (numbered : Numbered text value) :
    memMbFromResourceString text = if -2147483648 ≤ value ∧ value ≤ 2147483647 then .ok value
      else .error .numberOutOfRange := by
  obtain ⟨number, behind, leading⟩ := numbered
  rw [scan_behind behind, stoi_of_leading leading]
  split <;> rfl

private theorem scan_unnumbered {text : String} (none : ∀ value, ¬ Numbered text value) :
    memMbFromResourceString text = .ok (-1) := by
  rcases scan_cases text with ⟨number, behind⟩ | failed
  · have invalid := stoi_invalid_iff.mpr fun value leading => none value ⟨number, behind, leading⟩
    rw [scan_behind behind, invalid, numberRead]
  · exact failed

/-- The answer is `-1` exactly if the text shows no other number. -/
theorem scan_failed_iff {text : String} :
    memMbFromResourceString text = .ok (-1) ↔ ∀ value, Numbered text value → value = -1 := by
  constructor
  · intro failed value numbered
    rw [scan_numbered numbered] at failed
    split at failed
    · exact Except.ok.inj failed
    · cases failed
  · intro only
    by_cases some : ∃ value, Numbered text value
    · obtain ⟨value, numbered⟩ := some
      obtain rfl := only value numbered
      rw [scan_numbered numbered]
      rfl
    · exact scan_unnumbered fun value numbered => some ⟨value, numbered⟩

/-- The scan returns exactly if the number it meets fits an `int`. -/
theorem scan_returns_iff {text : String} :
    (∃ value, memMbFromResourceString text = .ok value) ↔
      ∀ value, Numbered text value → -2147483648 ≤ value ∧ value ≤ 2147483647 := by
  constructor
  · rintro ⟨result, returned⟩ value numbered
    rw [scan_numbered numbered] at returned
    by_contra outside
    rw [if_neg outside] at returned
    cases returned
  · intro bounded
    by_cases some : ∃ value, Numbered text value
    · obtain ⟨value, numbered⟩ := some
      exact ⟨value, by rw [scan_numbered numbered, if_pos (bounded value numbered)]⟩
    · exact ⟨-1, scan_unnumbered fun value numbered => some ⟨value, numbered⟩⟩

/-! ### Texts of resources -/

/-- A scalar: digits, and behind a point the digits of a fraction. -/
structure Scalar where
  whole : List Char
  fraction : Option (List Char)
  some_digit : whole ≠ []
  whole_digits : ∀ c ∈ whole, c.isDigit
  fraction_digits : ∀ digits ∈ fraction, ∀ c ∈ digits, c.isDigit

def Scalar.integerPart (number : Scalar) : ℕ := digitsValue number.whole

/-- What follows the digits of the integer part. -/
def Scalar.fractionText (number : Scalar) : List Char :=
  match number.fraction with
  | none => []
  | some digits => '.' :: digits

def Scalar.text (number : Scalar) : List Char := number.whole ++ number.fractionText

/-- What may stand between brackets. -/
abbrev Inner : Type := {inner : List Char // ';' ∉ inner ∧ ':' ∉ inner}

inductive Value where
  | scalar (number : Scalar)
  | ranges (inner : Inner)
  | set (inner : Inner)

def Value.text : Value → List Char
  | .scalar number => number.text
  | .ranges inner => '[' :: (inner.val ++ [']'])
  | .set inner => '\x7b' :: (inner.val ++ ['\x7d'])

/-- An entry `name:value` or `name(role):value`. -/
structure Entry where
  name : List Char
  role : Option (List Char)
  value : Value
  name_plain : ';' ∉ name ∧ ':' ∉ name ∧ '(' ∉ name
  role_plain : ∀ text ∈ role, ';' ∉ text ∧ ':' ∉ text

/-- What stands in front of the colon. -/
def Entry.key (entry : Entry) : List Char :=
  match entry.role with
  | none => entry.name
  | some role => entry.name ++ '(' :: (role ++ [')'])

def Entry.text (entry : Entry) : List Char := entry.key ++ ':' :: entry.value.text

/-- The text of a list of resources. -/
def resourceText (entries : List Entry) : String :=
  String.ofList ([';'].intercalate (entries.map Entry.text))

/-- The names in a text: each entry up to its colon or its role. -/
def entryNames (text : String) : List (List Char) :=
  (text.toList.splitOn ';').map fun entry => entry.takeWhile fun c => c ≠ ':' ∧ c ≠ '('

/-- A single entry is named mem, and it is the scalar `number`. -/
structure MemOnce (entries : List Entry) (number : Scalar) : Prop where
  listed : ∃ entry ∈ entries, entry.name = "mem".toList ∧ entry.value = .scalar number
  once : ((entries.map Entry.name).filter (· = "mem".toList)).length = 1

/-- An entry holds "mem" somewhere. -/
def Entry.HoldsMem (entry : Entry) : Prop := "mem".toList <:+: entry.text

instance (entry : Entry) : Decidable entry.HoldsMem :=
  inferInstanceAs (Decidable ("mem".toList <:+: entry.text))

/-- What is left of a scalar without its last character has this integer part. -/
def Scalar.CutTo (number : Scalar) (integerPart : ℕ) : Prop :=
  match number.fraction with
  | some _ => number.integerPart = integerPart
  | none => 2 ≤ number.whole.length ∧ digitsValue number.whole.dropLast = integerPart

/-- The first entry that holds "mem" holds it in front of its colon and shows this
integer part; the last entry counts without its last character. -/
def FirstShown (entries : List Entry) (integerPart : ℕ) : Prop :=
  ∃ front entry back shown, entries = front ++ entry :: back ∧ (∀ e ∈ front, ¬ e.HoldsMem) ∧
    "mem".toList <:+: entry.key ∧ entry.value = .scalar shown ∧
    if back = [] then shown.CutTo integerPart else shown.integerPart = integerPart

/-- The first entry that holds "mem" holds it in front of its colon and shows the
same integer part; as the last entry it can do without its last character. -/
def FirstShows (entries : List Entry) (number : Scalar) : Prop :=
  ∃ front entry back shown, entries = front ++ entry :: back ∧ (∀ e ∈ front, ¬ e.HoldsMem) ∧
    "mem".toList <:+: entry.key ∧ entry.value = .scalar shown ∧
    shown.integerPart = number.integerPart ∧
    (back = [] → shown.fraction.isSome ∨ (shown.integerPart = 0 ∧ 2 ≤ shown.whole.length))

/-! ### Where an entry keeps its separators -/

private theorem digit_other {digits : List Char} (run : ∀ c ∈ digits, c.isDigit) {c : Char}
    (other : ¬ c.isDigit) : c ∉ digits :=
  fun member => other (run c member)

/-- A scalar is written with digits and a point. -/
theorem scalar_other (number : Scalar) {c : Char} (other : ¬ c.isDigit) (point : c ≠ '.') :
    c ∉ number.text := by
  unfold Scalar.text Scalar.fractionText
  cases fraction : number.fraction with
  | none => simpa using digit_other number.whole_digits other
  | some digits =>
    have behind := digit_other (number.fraction_digits digits fraction) other
    simp [digit_other number.whole_digits other, point, behind]

theorem value_plain (value : Value) : ';' ∉ value.text ∧ ':' ∉ value.text := by
  cases value with
  | scalar number =>
    exact ⟨scalar_other number (by decide) (by decide), scalar_other number (by decide) (by decide)⟩
  | ranges inner => simpa [Value.text] using inner.property
  | set inner => simpa [Value.text] using inner.property

theorem value_some (value : Value) : value.text ≠ [] := by
  cases value with
  | scalar number => simp [Value.text, Scalar.text, number.some_digit]
  | ranges inner => simp [Value.text]
  | set inner => simp [Value.text]

/-- What stands in front of the colon holds no separator. -/
theorem key_plain (entry : Entry) : ';' ∉ entry.key ∧ ':' ∉ entry.key := by
  obtain ⟨semicolon, colon, _⟩ := entry.name_plain
  unfold Entry.key
  cases role : entry.role with
  | none => exact ⟨semicolon, colon⟩
  | some text =>
    have inside := entry.role_plain text role
    simp [semicolon, colon, inside]

theorem text_plain (entry : Entry) : ';' ∉ entry.text := by
  simp [Entry.text, (key_plain entry).1, (value_plain entry.value).1]

/-- The names in the text of some entries are their names. -/
theorem entryNames_resourceText {entries : List Entry} (some : entries ≠ []) :
    entryNames (resourceText entries) = entries.map Entry.name := by
  have plain : ∀ part ∈ entries.map Entry.text, ';' ∉ part := by
    intro part member
    obtain ⟨entry, _, rfl⟩ := List.mem_map.mp member
    exact text_plain entry
  have name (entry : Entry) : (entry.text.takeWhile fun c => c ≠ ':' ∧ c ≠ '(') = entry.name := by
    obtain ⟨_, colon, paren⟩ := entry.name_plain
    have inside : ∀ c ∈ entry.name, decide (c ≠ ':' ∧ c ≠ '(') = true := by
      intro c member
      have first : c ≠ ':' := fun same => colon (same ▸ member)
      have second : c ≠ '(' := fun same => paren (same ▸ member)
      simp [first, second]
    unfold Entry.text Entry.key
    cases entry.role with
    | none =>
      rw [List.takeWhile_append_of_pos inside]
      simp
    | some role =>
      rw [List.append_assoc, List.takeWhile_append_of_pos inside]
      simp
  rw [entryNames, resourceText, String.toList_ofList, List.splitOn_intercalate _ plain (by simpa using some),
    List.map_map]
  exact List.map_congr_left fun entry _ => name entry

/-! ### The scan over entries -/

private theorem mem_plain {c : Char} (other : c ≠ 'm' ∧ c ≠ 'e') : c ∉ "mem".toList := by
  simp [other]

/-- The first "mem" of a text of resources, seen from the first entry holding one. -/
private theorem firstAt_entries {front : List Entry} {entry : Entry} {left right : List Char}
    (unheld : ∀ e ∈ front, ¬ e.HoldsMem) (back : List Entry)
    (first : FirstAt "mem".toList entry.text left right) :
    ∃ before, FirstAt "mem".toList (resourceText (front ++ entry :: back)).toList before
      (right ++ joinedTail ';' (back.map Entry.text)) := by
  have absent : ∀ part ∈ front.map Entry.text, ¬ "mem".toList <:+: part := by
    intro part member
    obtain ⟨e, listed, rfl⟩ := List.mem_map.mp member
    exact unheld e listed
  have semicolon : ';' ∉ "mem".toList := mem_plain (by decide)
  have joined := firstAt_joined (by decide) semicolon absent first (back.map Entry.text)
  simpa [resourceText] using joined

/-- The field in front of further entries is the rest of the entry; behind the last
entry it lacks the last character. -/
private theorem field_entries {rest : List Char} (plain : ';' ∉ rest) (back : List Entry) :
    Field (rest ++ joinedTail ';' (back.map Entry.text))
      (if back = [] then rest.dropLast else rest) := by
  cases back with
  | nil => simpa [joinedTail] using Field.last plain
  | cons next back => exact .closed _ plain

/-- The scan reads the value of the first entry that holds "mem", if it holds it in
front of its colon. -/
theorem scan_entries {front back : List Entry} {entry : Entry}
    (unheld : ∀ e ∈ front, ¬ e.HoldsMem) (held : entry.HoldsMem) :
    memMbFromResourceString (resourceText (front ++ entry :: back)) =
      if "mem".toList <:+: entry.key then
        numberRead (stoi (if back = [] then entry.value.text.dropLast else entry.value.text))
      else .ok (-1) := by
  have colon : ':' ∉ "mem".toList := mem_plain (by decide)
  split
  · rename_i inside
    obtain ⟨left, right, first⟩ := exists_firstAt inside
    have here := firstAt_before (by decide) colon first entry.value.text
    obtain ⟨before, joined⟩ := firstAt_entries unheld back here
    have semicolon : ';' ∉ right ++ ':' :: entry.value.text := by
      simp [first.plain_behind (key_plain entry).1, (value_plain entry.value).1]
    have cut := field_entries semicolon back
    refine scan_behind ⟨before, _, right, joined, ?_, first.plain_behind (key_plain entry).2⟩
    split at cut
    · rename_i last
      rw [if_pos last]
      rwa [List.dropLast_append_of_ne_nil (by simp), List.dropLast_cons_of_ne_nil (value_some _)] at cut
    · rename_i more
      rwa [if_neg more]
  · rename_i outside
    have elsewhere : find "mem".toList entry.key = none :=
      Option.not_isSome_iff_eq_none.mp (mt find_isSome_iff.mp outside)
    have somewhere := find_isSome_iff.mpr held
    rw [Entry.text, find_across (by decide) colon, elsewhere, Option.none_or, Option.isSome_map] at somewhere
    obtain ⟨left, right, first⟩ := exists_firstAt (find_isSome_iff.mp somewhere)
    have here := firstAt_behind (by decide) colon outside first
    obtain ⟨before, joined⟩ := firstAt_entries unheld back here
    have unlabelled : ':' ∉ right := first.plain_behind (value_plain entry.value).2
    refine scan_unlabelled joined
      (field_entries (first.plain_behind (value_plain entry.value).1) back) ?_
    split
    · exact fun member => unlabelled (List.dropLast_subset _ member)
    · exact unlabelled

/-! ### The number of the entry named mem -/

private theorem read_digits {digits : List Char} (rest : List Char) (some : digits ≠ [])
    (run : ∀ c ∈ digits, c.isDigit) (other : ∀ c ∈ rest.head?, ¬ c.isDigit) :
    numberRead (stoi (digits ++ rest)) = if digitsValue digits ≤ 2147483647
      then .ok (digitsValue digits : Int) else .error .numberOutOfRange := by
  have leading : LeadingNumber (digits ++ rest) (digitsValue digits) :=
    ⟨[], [], digits, rest, by simp, by simp, .inl rfl, some, run, other, by simp⟩
  rw [stoi_of_leading leading]
  by_cases fits : digitsValue digits ≤ 2147483647
  · rw [if_pos (by omega), if_pos fits, numberRead]
  · rw [if_neg (by omega), if_neg fits, numberRead]

private theorem fraction_other (number : Scalar) : ∀ c ∈ number.fractionText.head?, ¬ c.isDigit := by
  unfold Scalar.fractionText
  cases number.fraction with
  | none => simp
  | some digits =>
    intro c member
    obtain rfl := Option.some.inj member
    decide

private theorem read_scalar {number : Scalar} {integerPart : ℕ} (fits : integerPart ≤ 2147483647) :
    numberRead (stoi number.text) = .ok (integerPart : Int) ↔ number.integerPart = integerPart := by
  have read : numberRead (stoi number.text) = if number.integerPart ≤ 2147483647
      then .ok (number.integerPart : Int) else .error .numberOutOfRange :=
    read_digits _ number.some_digit number.whole_digits (fraction_other number)
  rw [read]
  constructor
  · intro same
    split at same
    · exact Int.ofNat.inj (Except.ok.inj same)
    · cases same
  · rintro rfl
    rw [if_pos fits]

/-- A fraction can do without its last character; without one the last digit is lost, and
a single digit leaves nothing. -/
private theorem read_cut {number : Scalar} {integerPart : ℕ} (fits : integerPart ≤ 2147483647) :
    numberRead (stoi number.text.dropLast) = .ok (integerPart : Int) ↔ number.CutTo integerPart := by
  unfold Scalar.CutTo
  cases fraction : number.fraction with
  | some digits =>
    have text : number.text.dropLast = number.whole ++ ('.' :: digits).dropLast := by
      simp [Scalar.text, Scalar.fractionText, fraction, List.dropLast_append_of_ne_nil]
    have other : ∀ c ∈ ('.' :: digits).dropLast.head?, ¬ c.isDigit := by
      intro c member
      cases digits with
      | nil => cases member
      | cons d digits =>
        obtain rfl := Option.some.inj member
        decide
    rw [text, read_digits _ number.some_digit number.whole_digits other]
    constructor
    · intro same
      split at same
      · exact Int.ofNat.inj (Except.ok.inj same)
      · cases same
    · rintro rfl
      exact if_pos fits
  | none =>
    have text : number.text = number.whole := by simp [Scalar.text, Scalar.fractionText, fraction]
    have run : ∀ c ∈ number.whole.dropLast, c.isDigit := fun c member =>
      number.whole_digits c (List.dropLast_subset _ member)
    have length := @List.length_dropLast _ number.whole
    rw [text]
    by_cases left : number.whole.dropLast = []
    · have invalid : numberRead (stoi []) = .ok (-1) := rfl
      rw [left, invalid]
      rw [left, List.length_nil] at length
      constructor
      · intro same
        have := Except.ok.inj same
        omega
      · rintro ⟨long, _⟩
        omega
    · have read := read_digits [] left run (by simp)
      have digits := List.length_pos_iff.mpr left
      rw [List.append_nil] at read
      rw [read]
      constructor
      · intro same
        split at same
        · exact ⟨by omega, Int.ofNat.inj (Except.ok.inj same)⟩
        · cases same
      · rintro ⟨_, rfl⟩
        exact if_pos fits

/-- A bracket is not a number, with or without its last character. -/
private theorem read_bracket {c : Char} (bracket : c = '[' ∨ c = '\x7b') (rest : List Char) :
    numberRead (stoi (c :: rest)) = .ok (-1) := by
  rcases bracket with rfl | rfl <;> simp [stoi, isSpace, numberRead]

private theorem bracket_cut {c : Char} (inner : List Char) (last : Char) (back : List Entry) :
    ∃ rest, (if back = [] then (c :: (inner ++ [last])).dropLast else c :: (inner ++ [last])) =
      c :: rest := by
  split
  · exact ⟨inner, by rw [List.dropLast_cons_of_ne_nil (by simp), List.dropLast_concat]⟩
  · exact ⟨_, rfl⟩

private theorem holds_of_key {entry : Entry} (held : "mem".toList <:+: entry.key) : entry.HoldsMem :=
  held.trans (List.prefix_append _ _).isInfix

private theorem mem_holds {entry : Entry} (named : entry.name = "mem".toList) : entry.HoldsMem := by
  refine holds_of_key ?_
  rw [← named]
  unfold Entry.key
  cases entry.role with
  | none => exact List.infix_refl _
  | some role => exact (List.prefix_append _ _).isInfix

private theorem scan_unheld {entries : List Entry} (unheld : ∀ e ∈ entries, ¬ e.HoldsMem) :
    memMbFromResourceString (resourceText entries) = .ok (-1) := by
  have absent : ∀ part ∈ entries.map Entry.text, ¬ "mem".toList <:+: part := by
    intro part member
    obtain ⟨e, listed, rfl⟩ := List.mem_map.mp member
    exact unheld e listed
  have nowhere := find_joined_none (by decide) (mem_plain (by decide) : ';' ∉ "mem".toList) absent
  simp only [memMbFromResourceString, resourceText, String.toList_ofList, nowhere]

/-- The scan of a text of resources answers with the integer part that the first entry
holding "mem" shows. -/
theorem scan_shown_iff {entries : List Entry} {integerPart : ℕ} (fits : integerPart ≤ 2147483647) :
    memMbFromResourceString (resourceText entries) = .ok (integerPart : Int) ↔
      FirstShown entries integerPart := by
  have failure : (-1 : Int) ≠ integerPart := by omega
  constructor
  · intro right
    cases found : entries.find? (·.HoldsMem) with
    | none =>
      have unheld : ∀ e ∈ entries, ¬ e.HoldsMem := by simpa using List.find?_eq_none.mp found
      rw [scan_unheld unheld] at right
      exact absurd (Except.ok.inj right) failure
    | some entry =>
      obtain ⟨held, front, back, rfl, unheld⟩ := List.find?_eq_some_iff_append.mp found
      have held : entry.HoldsMem := by simpa using held
      have unheld : ∀ e ∈ front, ¬ e.HoldsMem := by simpa using unheld
      rw [scan_entries unheld held] at right
      split at right
      · rename_i inside
        cases shows : entry.value with
        | scalar shown =>
          refine ⟨front, entry, back, shown, rfl, unheld, inside, shows, ?_⟩
          rw [shows, Value.text] at right
          split at right
          · rename_i last
            rw [if_pos last]
            exact (read_cut fits).mp right
          · rename_i more
            rw [if_neg more]
            exact (read_scalar fits).mp right
        | ranges inner =>
          obtain ⟨rest, cut⟩ := bracket_cut (c := '[') inner.val ']' back
          rw [shows, Value.text, cut, read_bracket (.inl rfl)] at right
          exact absurd (Except.ok.inj right) failure
        | set inner =>
          obtain ⟨rest, cut⟩ := bracket_cut (c := '\x7b') inner.val '\x7d' back
          rw [shows, Value.text, cut, read_bracket (.inr rfl)] at right
          exact absurd (Except.ok.inj right) failure
      · exact absurd (Except.ok.inj right) failure
  · rintro ⟨front, entry, back, shown, rfl, unheld, inside, value, reads⟩
    rw [scan_entries unheld (holds_of_key inside), if_pos inside, value, Value.text]
    split at reads
    · rename_i last
      rw [if_pos last]
      exact (read_cut fits).mpr reads
    · rename_i more
      rw [if_neg more]
      exact (read_scalar fits).mpr reads

/-- A number that is read without its last digit as what it is is zero. -/
private theorem cut_self_iff (number : Scalar) : number.CutTo number.integerPart ↔
    number.fraction.isSome ∨ (number.integerPart = 0 ∧ 2 ≤ number.whole.length) := by
  unfold Scalar.CutTo
  cases number.fraction with
  | some digits => simp
  | none =>
    have value : number.integerPart = digitsValue number.whole.dropLast * 10 +
        ((number.whole.getLast number.some_digit).toNat - '0'.toNat) := by
      rw [Scalar.integerPart]
      conv_lhs => rw [← List.dropLast_concat_getLast number.some_digit, digitsValue, List.foldl_append]
      rfl
    simp only [Option.isSome_none, Bool.false_eq_true, false_or]
    constructor
    · rintro ⟨long, same⟩
      exact ⟨by omega, long⟩
    · rintro ⟨zero, long⟩
      exact ⟨long, by omega⟩

/-- With a single mem entry, the last entry that holds "mem" first is that entry. -/
private theorem first_shows_iff {entries : List Entry} {number : Scalar}
    (once : MemOnce entries number) :
    FirstShows entries number ↔ FirstShown entries number.integerPart := by
  constructor
  · rintro ⟨front, entry, back, shown, rfl, unheld, inside, value, same, last⟩
    refine ⟨front, entry, back, shown, rfl, unheld, inside, value, ?_⟩
    split
    · rw [← same]
      exact (cut_self_iff shown).mpr (last ‹_›)
    · exact same
  · rintro ⟨front, entry, back, shown, rfl, unheld, inside, value, reads⟩
    refine ⟨front, entry, back, shown, rfl, unheld, inside, value, ?_⟩
    split at reads
    · rename_i end'
      subst end'
      obtain ⟨mem, listed, named, valued⟩ := once.listed
      have same : mem = entry := by
        rcases List.mem_append.mp listed with before | here
        · exact absurd (mem_holds named) (unheld mem before)
        · exact List.mem_singleton.mp here
      obtain rfl : shown = number := by
        rw [same, value] at valued
        exact Value.scalar.inj valued
      exact ⟨rfl, fun _ => (cut_self_iff shown).mp reads⟩
    · exact ⟨reads, fun none => absurd none ‹_›⟩

/-- In a text of resources with a single mem entry the scan answers with its integer
part exactly if the first entry that holds "mem" shows it. In a text without a mem
entry it answers with `-1`, and in any text it returns at all, exactly as far as the
number behind the first "mem" allows. -/
theorem scan_exact (text : String) :
    (∀ {entries : List Entry} {number : Scalar}, text = resourceText entries →
      MemOnce entries number → number.integerPart ≤ 2147483647 →
      (memMbFromResourceString text = .ok (number.integerPart : Int) ↔
        FirstShows entries number)) ∧
    ("mem".toList ∉ entryNames text →
      (memMbFromResourceString text = .ok (-1) ↔ ∀ value, Numbered text value → value = -1)) ∧
    ((∃ value, memMbFromResourceString text = .ok value) ↔
      ∀ value, Numbered text value → -2147483648 ≤ value ∧ value ≤ 2147483647) := by
  refine ⟨?_, fun _ => scan_failed_iff, scan_returns_iff⟩
  rintro entries number rfl once fits
  rw [first_shows_iff once]
  exact scan_shown_iff fits

/-! ### Three resources in two orders -/

def cpusEntry : Entry where
  name := "cpus".toList
  role := none
  value := .scalar ⟨['1'], some ['0'], by decide, by decide, by decide⟩
  name_plain := by decide
  role_plain := by simp

def memoryNumber : Scalar := ⟨"2084".toList, none, by decide, by decide, by simp⟩

def memoryEntry : Entry where
  name := "mem".toList
  role := none
  value := .scalar memoryNumber
  name_plain := by decide
  role_plain := by simp

def diskEntry : Entry where
  name := "disk".toList
  role := none
  value := .scalar ⟨"32".toList, none, by decide, by decide, by simp⟩
  name_plain := by decide
  role_plain := by simp

/-- The default of the registry is read, a text without memory is not, and both return. -/
theorem default_flag_read :
    memMbFromResourceString (resourceText [cpusEntry, memoryEntry, diskEntry]) = .ok 2084 ∧
    memMbFromResourceString "cpus:1.0;disk:32" = .ok (-1) ∧
    ∃ value, memMbFromResourceString "cpus:1.0;disk:32" = .ok value := by
  have once : MemOnce [cpusEntry, memoryEntry, diskEntry] memoryNumber :=
    ⟨⟨memoryEntry, by simp, rfl, rfl⟩, by decide⟩
  have shows : FirstShows [cpusEntry, memoryEntry, diskEntry] memoryNumber :=
    ⟨[cpusEntry], memoryEntry, [diskEntry], memoryNumber, rfl, by simp; decide, by decide, rfl, rfl,
      by simp⟩
  have none : ∀ value, ¬ Numbered "cpus:1.0;disk:32" value := by
    rintro value ⟨number, ⟨before, after, label, first, _⟩, _⟩
    have found := find_eq_some_iff.mpr ⟨before, after, first, rfl⟩
    have nowhere : find "mem".toList "cpus:1.0;disk:32".toList = Option.none := by decide
    rw [nowhere] at found
    cases found
  have others := scan_exact "cpus:1.0;disk:32"
  exact ⟨((scan_exact _).1 rfl once (by decide)).mpr shows,
    (others.2.1 (by decide)).mpr fun value numbered => absurd numbered (none value),
    others.2.2.mpr fun value numbered => absurd numbered (none value)⟩

/-- With the memory last its last digit is lost, another resource is taken for mem,
and a number beyond an `int` is an exception that nothing catches. -/
theorem scan_misses :
    (MemOnce [cpusEntry, diskEntry, memoryEntry] memoryNumber ∧ memoryNumber.integerPart = 2084 ∧
      memMbFromResourceString (resourceText [cpusEntry, diskEntry, memoryEntry]) = .ok 208) ∧
    ("mem".toList ∉ entryNames "gpumem:16;cpus:1.0" ∧
      memMbFromResourceString "gpumem:16;cpus:1.0" = .ok 16) ∧
    memMbFromResourceString "mem:99999999999;cpus:1.0" = .error .numberOutOfRange :=
  ⟨⟨⟨⟨memoryEntry, by simp, rfl, rfl⟩, by decide⟩, by decide, by decide⟩,
    ⟨by decide, by decide⟩, by decide⟩

end QuobyteMesos.ResourceText
