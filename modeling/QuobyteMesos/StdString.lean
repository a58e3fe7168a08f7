import Mathlib.Algebra.Group.Nat.Defs
import Mathlib.Data.List.Infix

/-! The searches, conversions and stream reads of the C++ library, over lists.

Positions are those of `std::string`: `rfind` and `find` answer with an index
or not at all, `substr` takes a start and a length, and `stoi` follows the
documented conversion. What a search found is stated by splitting the list at
the position (`rfind_eq_some_iff`), which is the form a decoder needs. -/
namespace QuobyteMesos.StdString

variable {α : Type} [DecidableEq α]

-- what holds of every character of a text is decided along the text, not over all of `Char`
instance (priority := 2000) decidableMem {p : Char → Prop} [DecidablePred p] (text : List Char) :
    Decidable (∀ c ∈ text, p c) :=
  List.decidableBAll p text

/-- `std::string::rfind` for one character: the last position holding it. -/
def rfind (c : α) : List α → Option Nat
  | [] => none
  | x :: rest =>
    match rfind c rest with
    | some position => some (position + 1)
    | none => if x = c then some 0 else none

/-- `std::string::find`: the first position where the needle stands. -/
def find (needle : List α) : List α → Option Nat
  | [] => if needle = [] then some 0 else none
  | x :: rest =>
    if needle <+: x :: rest then some 0 else (find needle rest).map (· + 1)

/-- `std::string::substr`: at most `length` elements from `position` on. -/
def substr (position length : Nat) (text : List α) : List α :=
  (text.drop position).take length

theorem rfind_eq_none_iff {c : α} {text : List α} : rfind c text = none ↔ c ∉ text := by
  induction text with
  | nil => simp [rfind]
  | cons x rest ih =>
    cases found : rfind c rest with
    | none =>
      have absent := ih.mp found
      by_cases here : x = c
      · simp [rfind, found, here]
      · simp [rfind, found, here, absent, Ne.symm here]
    | some position =>
      have present : c ∈ rest := by
        by_contra absent
        rw [ih.mpr absent] at found
        cases found
      simp [rfind, found, present]

/-- The position found is the one whose right side holds no further occurrence. -/
theorem rfind_append_cons {c : α} (left : List α) {right : List α} (last : c ∉ right) :
    rfind c (left ++ c :: right) = some left.length := by
  induction left with
  | nil => simp [rfind, rfind_eq_none_iff.mpr last]
  | cons x left ih => simp [rfind, ih]

theorem rfind_eq_some_iff {c : α} {text : List α} {position : Nat} :
    rfind c text = some position ↔
      ∃ left right, text = left ++ c :: right ∧ left.length = position ∧ c ∉ right := by
  constructor
  · intro found
    induction text generalizing position with
    | nil => simp [rfind] at found
    | cons x rest ih =>
      cases deeper : rfind c rest with
      | some below =>
        simp only [rfind, deeper, Option.some.injEq] at found
        obtain ⟨left, right, rfl, rfl, last⟩ := ih deeper
        exact ⟨x :: left, right, rfl, by simpa using found, last⟩
      | none =>
        have last := rfind_eq_none_iff.mp deeper
        by_cases here : x = c
        · simp only [rfind, deeper, here, ↓reduceIte, Option.some.injEq] at found
          exact ⟨[], rest, by simp [here], by simpa using found, last⟩
        · simp [rfind, deeper, here] at found
  · rintro ⟨left, right, rfl, rfl, last⟩
    exact rfind_append_cons left last

/-- Splitting at the last separator and joining again restores the text. -/
theorem split_at_rfind {c : α} {text : List α} {position : Nat}
    (found : rfind c text = some position) :
    substr 0 position text ++ c :: text.drop (position + 1) = text ∧
      c ∉ text.drop (position + 1) := by
  obtain ⟨left, right, rfl, rfl, last⟩ := rfind_eq_some_iff.mp found
  have tail : (left ++ c :: right).drop (left.length + 1) = right := by
    rw [← List.drop_drop, List.drop_left, List.drop_one, List.tail_cons]
  rw [tail]
  simp [substr, last]

/-! ### The first occurrence -/

/-- The needle stands behind `left`, and nowhere before. -/
structure FirstAt (needle text left right : List α) : Prop where
  split : text = left ++ needle ++ right
  first : ∀ shorter, shorter.length < left.length → ¬ shorter ++ needle <+: text

/-- The position found is that of the first occurrence. -/
theorem find_eq_some_iff {needle text : List α} {position : Nat} :
    find needle text = some position ↔
      ∃ left right, FirstAt needle text left right ∧ left.length = position := by
  induction text generalizing position with
  | nil =>
    constructor
    · intro found
      simp only [find] at found
      split at found
      · cases found
        rename_i empty
        exact ⟨[], [], ⟨by simp [empty], by simp⟩, rfl⟩
      · cases found
    · rintro ⟨left, right, ⟨split, _⟩, rfl⟩
      have empty : left = [] ∧ needle = [] ∧ right = [] := by simpa using split.symm
      simp [find, empty]
  | cons x rest ih =>
    constructor
    · intro found
      simp only [find] at found
      split at found
      · cases found
        rename_i here
        obtain ⟨right, split⟩ := here
        exact ⟨[], right, ⟨by simp [split], by simp⟩, rfl⟩
      · rename_i elsewhere
        obtain ⟨below, deeper, rfl⟩ := Option.map_eq_some_iff.mp found
        obtain ⟨left, right, ⟨split, first⟩, rfl⟩ := ih.mp deeper
        refine ⟨x :: left, right, ⟨by simp [split], ?_⟩, rfl⟩
        intro shorter bound occurs
        cases shorter with
        | nil => exact elsewhere occurs
        | cons y shorter =>
          have tail := (List.cons_prefix_cons.mp occurs).2
          exact first shorter (by simpa using bound) tail
    · rintro ⟨left, right, ⟨split, first⟩, rfl⟩
      cases left with
      | nil =>
        have here : needle <+: x :: rest := ⟨right, split.symm⟩
        simp [find, here]
      | cons y left =>
        obtain ⟨rfl, tail⟩ := List.cons.inj split
        have elsewhere : ¬ needle <+: x :: rest := first [] (by simp)
        have deeper : find needle rest = some left.length := by
          refine ih.mpr ⟨left, right, ⟨tail, fun shorter bound occurs => ?_⟩, rfl⟩
          exact first (x :: shorter) (by simpa using bound) (List.cons_prefix_cons.mpr ⟨rfl, occurs⟩)
        simp [find, elsewhere, deeper]

theorem find_isSome_iff {needle text : List α} : (find needle text).isSome ↔ needle <:+: text := by
  induction text with
  | nil => simp [find]
  | cons x rest ih =>
    rw [List.infix_cons_iff, ← ih]
    by_cases here : needle <+: x :: rest
    · simp [find, here]
    · simp [find, here]

theorem exists_firstAt {needle text : List α} (inside : needle <:+: text) :
    ∃ left right, FirstAt needle text left right := by
  obtain ⟨_, found⟩ := Option.isSome_iff_exists.mp (find_isSome_iff.mpr inside)
  obtain ⟨left, right, first, _⟩ := find_eq_some_iff.mp found
  exact ⟨left, right, first⟩

omit [DecidableEq α] in
theorem FirstAt.plain_behind {needle text left right : List α} (first : FirstAt needle text left right)
    {c : α} (plain : c ∉ text) : c ∉ right := by
  rw [first.split] at plain
  exact fun member => plain (List.mem_append_right _ member)

/-- What stands between two separators stands in the text. -/
theorem infix_of_mem_splitOn {c : α} {text part : List α} (member : part ∈ text.splitOn c) :
    part <:+: text := by
  have joined (parts : List (List α)) (member : part ∈ parts) :
      part <:+: [c].intercalate parts := by
    induction parts with
    | nil => cases member
    | cons first parts ih =>
      rcases List.mem_cons.mp member with rfl | later
      · cases parts with
        | nil => simp
        | cons => exact (List.prefix_append _ _).isInfix
      · have more : parts ≠ [] := List.ne_nil_of_mem later
        rw [List.intercalate_cons_of_ne_nil more]
        exact (ih later).trans (List.suffix_append _ _).isInfix
  have found := joined _ member
  rwa [List.intercalate_splitOn] at found

/-- A single character is not found in front of what does not hold it. -/
theorem find_behind {c : α} {front : List α} (absent : c ∉ front) (text : List α) :
    find [c] (front ++ text) = (find [c] text).map (· + front.length) := by
  induction front with
  | nil => simp
  | cons x front ih =>
    obtain ⟨different, absent⟩ := not_or.mp (mt List.mem_cons.mpr absent)
    have elsewhere : ¬ [c] <+: x :: (front ++ text) := fun occurs =>
      different (List.cons_prefix_cons.mp occurs).1
    rw [List.cons_append, find, if_neg elsewhere, ih absent, Option.map_map]
    congr 1

theorem find_char_append {c : α} {left : List α} (absent : c ∉ left) (right : List α) :
    find [c] (left ++ c :: right) = some left.length := by
  rw [find_behind absent, find, if_pos (by simp)]
  simp

theorem find_char_eq_none_iff {c : α} {text : List α} : find [c] text = none ↔ c ∉ text := by
  induction text with
  | nil => simp [find]
  | cons x rest ih =>
    by_cases here : c = x
    · simp [find, here]
    · simp [find, here, ih]

/-- A separator that is not part of the needle keeps the two sides of a search apart. -/
theorem find_across {separator : α} {needle : List α}
    (some : needle ≠ []) (apart : separator ∉ needle) (front rest : List α) :
    find needle (front ++ separator :: rest) =
      (find needle front).or ((find needle rest).map (· + (front.length + 1))) := by
  induction front with
  | nil =>
    have elsewhere : ¬ needle <+: separator :: rest := by
      intro here
      cases needle with
      | nil => exact some rfl
      | cons x needle =>
        obtain ⟨rfl, _⟩ := List.cons_prefix_cons.mp here
        exact apart (by simp)
    simp [find, elsewhere, some]
  | cons x front ih =>
    have within : needle <+: x :: front ++ separator :: rest ↔ needle <+: x :: front := by
      constructor
      · intro here
        rcases List.prefix_or_prefix_of_prefix here (List.prefix_append _ _) with inside | beyond
        · exact inside
        · obtain ⟨more, rfl⟩ := beyond
          cases more with
          | nil => simp
          | cons y more =>
            obtain ⟨rfl, _⟩ := List.cons_prefix_cons.mp
              ((List.prefix_append_right_inj _).mp here)
            exact absurd (by simp) apart
      · exact fun here => here.trans (List.prefix_append _ _)
    rw [List.cons_append] at within ⊢
    by_cases here : needle <+: x :: front
    · simp [find, within, here]
    · simp only [find, within, here, if_false, ih]
      cases find needle front <;> cases find needle rest <;> simp; omega

theorem firstAt_of_find {needle text left right : List α} (split : text = left ++ needle ++ right)
    (found : find needle text = some left.length) : FirstAt needle text left right := by
  obtain ⟨left', right', first, same⟩ := find_eq_some_iff.mp found
  have parts : left' ++ (needle ++ right') = left ++ (needle ++ right) := by
    rw [← List.append_assoc, ← List.append_assoc, ← split, ← first.split]
  obtain ⟨rfl, behind⟩ := List.append_inj parts same
  obtain rfl := List.append_cancel_left behind
  exact first

/-- What is found in front of a separator is found first. -/
theorem firstAt_before {separator : α} {needle front left right : List α} (some : needle ≠ [])
    (apart : separator ∉ needle) (first : FirstAt needle front left right) (rest : List α) :
    FirstAt needle (front ++ separator :: rest) left (right ++ separator :: rest) := by
  have found := find_eq_some_iff.mpr ⟨left, right, first, rfl⟩
  refine firstAt_of_find (by simp [first.split]) ?_
  rw [find_across some apart, found, Option.some_or]

/-- Behind a separator it is found first if it does not stand in front. -/
theorem firstAt_behind {separator : α} {needle front rest left right : List α} (some : needle ≠ [])
    (apart : separator ∉ needle) (absent : ¬ needle <:+: front)
    (first : FirstAt needle rest left right) :
    FirstAt needle (front ++ separator :: rest) (front ++ separator :: left) right := by
  have found := find_eq_some_iff.mpr ⟨left, right, first, rfl⟩
  have nowhere : find needle front = none :=
    Option.not_isSome_iff_eq_none.mp (mt find_isSome_iff.mp absent)
  refine firstAt_of_find (by simp [first.split]) ?_
  rw [find_across some apart, nowhere, found, Option.none_or, Option.map_some, List.length_append,
    List.length_cons]
  congr 1
  omega

/-- What follows the last of the parts in front, up to the end of the text. -/
def joinedTail (separator : α) : List (List α) → List α
  | [] => []
  | part :: parts => separator :: [separator].intercalate (part :: parts)

/-- In a joined text the first occurrence is that of the first part that holds one. -/
theorem firstAt_joined {separator : α} {needle part left right : List α} {front : List (List α)}
    (some : needle ≠ []) (apart : separator ∉ needle) (absent : ∀ p ∈ front, ¬ needle <:+: p)
    (first : FirstAt needle part left right) (back : List (List α)) :
    ∃ before, FirstAt needle ([separator].intercalate (front ++ part :: back)) before
      (right ++ joinedTail separator back) := by
  induction front with
  | nil =>
    refine ⟨left, ?_⟩
    cases back with
    | nil => simpa [joinedTail] using first
    | cons next back =>
      have before := firstAt_before some apart first ([separator].intercalate (next :: back))
      simpa [joinedTail, List.intercalate_cons_of_ne_nil] using before
  | cons p front ih =>
    obtain ⟨before, later⟩ := ih fun p member => absent p (by simp [member])
    refine ⟨p ++ separator :: before, ?_⟩
    have behind := firstAt_behind some apart (absent p (by simp)) later
    simpa [List.intercalate_cons_of_ne_nil] using behind

/-- A joined text does not hold what none of its parts does. -/
theorem find_joined_none {separator : α} {needle : List α} {parts : List (List α)}
    (some : needle ≠ []) (apart : separator ∉ needle) (absent : ∀ part ∈ parts, ¬ needle <:+: part) :
    find needle ([separator].intercalate parts) = none := by
  have nowhere {part : List α} (absent : ¬ needle <:+: part) : find needle part = none :=
    Option.not_isSome_iff_eq_none.mp (mt find_isSome_iff.mp absent)
  induction parts with
  | nil => simp [find, some]
  | cons part parts ih =>
    obtain ⟨here, later⟩ := List.forall_mem_cons.mp absent
    cases parts with
    | nil => simpa using nowhere here
    | cons next parts =>
      rw [List.intercalate_cons_of_ne_nil (by simp), List.append_assoc, List.singleton_append,
        find_across some apart, nowhere here, ih later]
      rfl

/-- What stands in joined parts stands in a part or in what joins them. -/
theorem mem_intercalate {α : Type} {c : α} {separator : List α} {parts : List (List α)}
    (member : c ∈ separator.intercalate parts) : c ∈ separator ∨ ∃ part ∈ parts, c ∈ part := by
  induction parts with
  | nil => simp at member
  | cons part parts ih =>
    by_cases last : parts = []
    · subst last
      exact .inr ⟨part, List.mem_singleton_self _, by simpa using member⟩
    · rw [List.intercalate_cons_of_ne_nil last, List.append_assoc, List.mem_append,
        List.mem_append] at member
      rcases member with here | between | later
      · exact .inr ⟨part, List.mem_cons_self, here⟩
      · exact .inl between
      · obtain inside | ⟨other, listed, inside⟩ := ih later
        · exact .inl inside
        · exact .inr ⟨other, List.mem_cons_of_mem _ listed, inside⟩

/-! ### Streams -/

/-- `isspace` in the C locale. -/
def isSpace (c : Char) : Bool :=
  [' ', '\t', '\n', '\x0b', '\x0c', '\r'].contains c

/-- The words that `operator>>` extracts from a line one after the other. -/
def words (line : String) : List String :=
  ((line.toList.splitOnP isSpace).filter (· ≠ [])).map String.ofList

/-- The lines `std::getline` delivers; what follows the last line feed is a line
unless it is empty. -/
def getlines : List Char → List (List Char)
  | [] => []
  | c :: rest =>
    if c = '\n' then
      [] :: getlines rest
    else
      match getlines rest with
      | [] => [[c]]
      | line :: lines => (c :: line) :: lines

theorem getlines_line {line : List Char} (plain : '\n' ∉ line) (rest : List Char) :
    getlines (line ++ '\n' :: rest) = line :: getlines rest := by
  induction line with
  | nil => simp [getlines]
  | cons c line ih =>
    obtain ⟨other, plain⟩ := not_or.mp (mt List.mem_cons.mpr plain)
    rw [List.cons_append, getlines, if_neg (Ne.symm other), ih plain]

theorem getlines_last {line : List Char} (plain : '\n' ∉ line) (more : line ≠ []) :
    getlines line = [line] := by
  induction line with
  | nil => exact absurd rfl more
  | cons c line ih =>
    obtain ⟨other, plain⟩ := not_or.mp (mt List.mem_cons.mpr plain)
    rw [getlines, if_neg (Ne.symm other)]
    cases line with
    | nil => rfl
    | cons d line => rw [ih plain (by simp)]

/-! ### Numbers -/

/-- A number is written with digits. -/
theorem isDigit_of_mem_toString {n : ℕ} {c : Char} (member : c ∈ (toString n).toList) :
    c.isDigit = true := by
  rw [Nat.toString_eq_repr, Nat.repr_eq_ofList_toDigits, String.toList_ofList] at member
  exact Nat.isDigit_of_mem_toDigits (by decide) (by decide) member

/-- The two exceptions `std::stoi` documents. -/
inductive NumberError where
  | invalidArgument
  | outOfRange
  deriving DecidableEq, Repr

/-- The value of a run of decimal digits. -/
def digitsValue (digits : List Char) : Nat :=
  digits.foldl (fun value digit => value * 10 + (digit.toNat - '0'.toNat)) 0

theorem digitsValue_lt {digits : List Char} (run : ∀ c ∈ digits, c.isDigit) :
    digitsValue digits < 10 ^ digits.length := by
  induction digits using List.reverseRecOn with
  | nil => decide
  | append_singleton digits digit ih =>
    have before := ih fun c member => run c (List.mem_append_left _ member)
    have last := run digit (List.mem_append_right _ (List.mem_singleton_self _))
    have small : digit.toNat - '0'.toNat ≤ 9 := by
      simp only [Char.isDigit, Bool.and_eq_true, decide_eq_true_eq] at last
      have bound : digit.toNat ≤ 57 := last.2
      have zero : '0'.toNat = 48 := rfl
      omega
    have value : digitsValue (digits ++ [digit]) =
        digitsValue digits * 10 + (digit.toNat - '0'.toNat) := by
      rw [digitsValue, List.foldl_append]
      rfl
    rw [value, List.length_append, List.length_singleton, Nat.pow_succ]
    omega

/-- `std::stoi`: blanks, an optional sign and the longest run of digits; what
follows the digits is ignored, and a value outside `int` throws. -/
def stoi (text : List Char) : Except NumberError Int :=
  let body := text.dropWhile isSpace
  let negative := body.head? = some '-'
  let unsigned := if negative ∨ body.head? = some '+' then body.tail else body
  let digits := unsigned.takeWhile Char.isDigit
  if digits = [] then
    .error .invalidArgument
  else
    let value : Int := if negative then -(digitsValue digits) else digitsValue digits
    if -2147483648 ≤ value ∧ value ≤ 2147483647 then .ok value else .error .outOfRange

/-- What `stoi` answers with is an `int`. -/
theorem stoi_bounds {text : List Char} {value : Int} (read : stoi text = .ok value) :
    -2147483648 ≤ value ∧ value ≤ 2147483647 := by
  unfold stoi at read
  extract_lets body negative unsigned digits at read
  by_cases none : digits = []
  · rw [if_pos none] at read
    cases read
  · rw [if_neg none] at read
    split at read
    · rename_i bounds
      rw [← Except.ok.inj read]
      exact bounds
    · cases read

/-- The text begins with the number `value`: after blanks and a sign, a run of digits
that no further digit follows. -/
def LeadingNumber (text : List Char) (value : Int) : Prop :=
  ∃ blanks sign digits rest, text = blanks ++ (sign ++ (digits ++ rest)) ∧
    (∀ c ∈ blanks, isSpace c) ∧ (sign = [] ∨ sign = ['+'] ∨ sign = ['-']) ∧
    digits ≠ [] ∧ (∀ c ∈ digits, c.isDigit) ∧ (∀ c ∈ rest.head?, ¬ c.isDigit) ∧
    value = if sign = ['-'] then -(digitsValue digits : Int) else digitsValue digits

private theorem digit_plain {c : Char} (digit : c.isDigit) : ¬ isSpace c ∧ c ≠ '+' ∧ c ≠ '-' := by
  refine ⟨fun space => ?_, ?_, ?_⟩
  · rcases (by simpa [isSpace] using space : c = ' ' ∨ c = '\t' ∨ c = '\n' ∨ c = '\x0b' ∨
      c = '\x0c' ∨ c = '\r') with rfl | rfl | rfl | rfl | rfl | rfl <;> cases digit
  · rintro rfl
    cases digit
  · rintro rfl
    cases digit

private theorem dropWhile_blanks {blanks rest : List Char} (spaces : ∀ c ∈ blanks, isSpace c)
    (other : ∀ c ∈ rest.head?, ¬ isSpace c) : (blanks ++ rest).dropWhile isSpace = rest := by
  rw [List.dropWhile_append_of_pos spaces]
  cases rest with
  | nil => rfl
  | cons c rest => rw [List.dropWhile_cons_of_neg (other c rfl)]

private theorem takeWhile_digits {digits rest : List Char} (run : ∀ c ∈ digits, c.isDigit)
    (other : ∀ c ∈ rest.head?, ¬ c.isDigit) : (digits ++ rest).takeWhile Char.isDigit = digits := by
  rw [List.takeWhile_append_of_pos run]
  cases rest with
  | nil => simp
  | cons c rest => rw [List.takeWhile_cons_of_neg (other c rfl), List.append_nil]

/-- `stoi` reads the number a text begins with, if an `int` can hold it. -/
theorem stoi_of_leading {text : List Char} {value : Int} (leading : LeadingNumber text value) :
    stoi text = if -2147483648 ≤ value ∧ value ≤ 2147483647 then .ok value
      else .error .outOfRange := by
  obtain ⟨blanks, sign, digits, rest, rfl, spaces, signed, some, run, other, rfl⟩ := leading
  obtain ⟨first, later, rfl⟩ := List.exists_cons_of_ne_nil some
  obtain ⟨unspaced, unplus, unminus⟩ := digit_plain (run first (by simp))
  have taken := takeWhile_digits run other
  simp only [List.cons_append] at taken
  have body : (blanks ++ (sign ++ (first :: later ++ rest))).dropWhile isSpace =
      sign ++ (first :: later ++ rest) := by
    refine dropWhile_blanks spaces ?_
    rcases signed with rfl | rfl | rfl
    · simpa using unspaced
    · simp [isSpace]
    · simp [isSpace]
  unfold stoi
  rw [body]
  rcases signed with rfl | rfl | rfl
  · simp [unplus, unminus, taken]
  · simp [taken]
  · simp [taken]

/-- What `stoi` does not take for an invalid argument begins with a number. -/
theorem leading_of_stoi {text : List Char} (valid : stoi text ≠ .error .invalidArgument) :
    ∃ value, LeadingNumber text value := by
  have split : text = text.takeWhile isSpace ++ text.dropWhile isSpace :=
    (List.takeWhile_append_dropWhile).symm
  have spaces : ∀ c ∈ text.takeWhile isSpace, isSpace c := fun c member =>
    List.all_eq_true.mp List.all_takeWhile c member
  have run (unsigned : List Char) : ∀ c ∈ unsigned.takeWhile Char.isDigit, c.isDigit :=
    fun c member => List.all_eq_true.mp List.all_takeWhile c member
  have stop (unsigned : List Char) : ∀ c ∈ (unsigned.dropWhile Char.isDigit).head?, ¬ c.isDigit := by
    intro c member
    have := List.head?_dropWhile_not Char.isDigit unsigned
    rw [Option.mem_def.mp member] at this
    simpa using this
  have restored (unsigned : List Char) : unsigned =
      unsigned.takeWhile Char.isDigit ++ unsigned.dropWhile Char.isDigit :=
    (List.takeWhile_append_dropWhile).symm
  unfold stoi at valid
  extract_lets body negative unsigned digits at valid
  change text = _ ++ body at split
  clear_value body
  have some : digits ≠ [] := by
    intro none
    rw [if_pos none] at valid
    exact valid rfl
  by_cases minus : body.head? = Option.some '-'
  · obtain ⟨rest, rfl⟩ := List.head?_eq_some_iff.mp minus
    have tail : unsigned = rest := by simp [unsigned, negative]
    exact ⟨_, _, ['-'], digits, unsigned.dropWhile Char.isDigit,
      by rw [← restored unsigned, tail]; exact split, spaces, by tauto, some, run _, stop _, rfl⟩
  · by_cases plus : body.head? = Option.some '+'
    · obtain ⟨rest, rfl⟩ := List.head?_eq_some_iff.mp plus
      have tail : unsigned = rest := by simp [unsigned, negative]
      exact ⟨_, _, ['+'], digits, unsigned.dropWhile Char.isDigit,
        by rw [← restored unsigned, tail]; exact split, spaces, by tauto, some, run _, stop _, rfl⟩
    · have whole : unsigned = body := by simp [unsigned, negative, minus, plus]
      exact ⟨_, _, [], digits, unsigned.dropWhile Char.isDigit,
        by rw [← restored unsigned, whole]; exact split, spaces, by tauto, some, run _, stop _, rfl⟩

theorem stoi_invalid_iff {text : List Char} :
    stoi text = .error .invalidArgument ↔ ∀ value, ¬ LeadingNumber text value := by
  constructor
  · intro invalid value leading
    rw [stoi_of_leading leading] at invalid
    split at invalid <;> cases invalid
  · intro none
    by_contra valid
    obtain ⟨value, leading⟩ := leading_of_stoi valid
    exact none value leading

/-- The `int32_t` a result wraps around to. -/
def int32 (value : Int) : Int := (value + 2147483648) % 4294967296 - 2147483648

end QuobyteMesos.StdString
