import QuobyteMesos.ResourcePool
import QuobyteMesos.StdString

/-! `mesos::Resources`, which is not part of this repository.

The scheduler uses it through `Resources`: parsing the flags, checking that an
offer still contains a reservation and deducting it. `ScalarPorts` states the
behaviour the scheduler relies on, non-negative scalars by name and role plus a
set of port numbers, and makes every such type a `Pool`. `TextResources` is an
executable instance that reads the text format of the flags. -/
namespace QuobyteMesos
open ResourcePool StdString

/-- The operations the scheduler calls. `reserved role` is the number of
resources left after filtering by role. -/
class Resources (R : Type) where
  empty : R
  parse : String → Option R
  contains : R → R → Bool
  sub : R → R → R
  reserved : R → String → ℕ

/-- Scalars named by resource and role, and a set of ports, both of which
containment and subtraction treat component by component. -/
class ScalarPorts (R : Type) [Resources R] where
  scalar : R → String × String → ℕ
  ports : R → Set ℕ
  scalar_empty : ∀ name, scalar Resources.empty name = 0
  ports_empty : ports Resources.empty = ∅
  contains_iff : ∀ a b : R, Resources.contains a b = true ↔
    (∀ name, scalar b name ≤ scalar a name) ∧ ports b ⊆ ports a
  scalar_sub : ∀ (a b : R) name, scalar (Resources.sub a b) name = scalar a name - scalar b name
  ports_sub : ∀ a b : R, ports (Resources.sub a b) = ports a \ ports b

instance {R : Type} [Resources R] [ScalarPorts R] : Pool R (String × String) ℕ where
  contains := Resources.contains
  take := Resources.sub
  amount := ScalarPorts.scalar
  tokens := ScalarPorts.ports
  contains_iff := ScalarPorts.contains_iff
  amount_take := ScalarPorts.scalar_sub
  tokens_take := ScalarPorts.ports_sub

/-! ## The text format -/

/-- The parts between separators; empty ones do not count. -/
def tokenize (separator : Char) (text : List Char) : List (List Char) :=
  (text.splitOn separator).filter (· ≠ [])

/-- A text without the blanks at its ends. -/
def trim (text : List Char) : List Char :=
  ((text.dropWhile isSpace).reverse.dropWhile isSpace).reverse

/-- The parts of an entry `name:value` or `name(role):value`. -/
structure EntryParts where
  name : List Char
  role : List Char
  value : List Char

def entryParts (token : List Char) : Option EntryParts :=
  match tokenize ':' token with
  | [label, value] => some
      { name := trim (label.takeWhile (· ≠ '('))
        role := trim (((label.dropWhile (· ≠ '(')).drop 1).takeWhile (· ≠ ')'))
        value := value.filter (· ≠ ' ') }
  | _ => none

/-- Resources as lists: scalars in thousandths and single ports. -/
abbrev TextResources := Bundle (String × String) ℕ

namespace TextResources

/-- A decimal number in thousandths. -/
def parseScalar (text : List Char) : Option ℕ :=
  let whole := text.takeWhile (· ≠ '.')
  let fraction := (text.dropWhile (· ≠ '.')).drop 1
  if whole ≠ [] ∧ whole.all Char.isDigit ∧ fraction.all Char.isDigit then
    some (digitsValue whole * 1000 + digitsValue ((fraction ++ ['0', '0', '0']).take 3))
  else
    none

/-- One range `first-last`, as the numbers it spans. -/
def parseRange (text : List Char) : Option (List ℕ) :=
  match text.splitOn '-' with
  | [first, last] =>
    if first ≠ [] ∧ last ≠ [] ∧ first.all Char.isDigit ∧ last.all Char.isDigit then
      some (List.range' (digitsValue first) (digitsValue last + 1 - digitsValue first))
    else
      none
  | _ => none

def parseEntry (token : List Char) : Option TextResources :=
  (entryParts token).bind fun parts =>
    match parts.value with
    | '[' :: ranges =>
      ((ranges.takeWhile (· ≠ ']')).splitOn ',').mapM parseRange |>.map fun ports =>
        { held := ports.flatten }
    | scalar =>
      (parseScalar scalar).map fun amount =>
        { amounts := [((String.ofList parts.name, String.ofList parts.role), amount)] }

/-- Entries separated by semicolons, their amounts and ports put together. -/
def parse (text : String) : Option TextResources :=
  (tokenize ';' text.toList).mapM parseEntry |>.map fun entries =>
    { amounts := entries.flatMap Bundle.amounts, held := entries.flatMap Bundle.held }

instance : Resources TextResources where
  empty := {}
  parse := parse
  contains := Bundle.contains
  sub := Bundle.take
  reserved resources role := (resources.amounts.filter (·.1.2 = role)).length

instance : ScalarPorts TextResources where
  scalar := Bundle.amount
  ports bundle := {port | port ∈ bundle.held}
  scalar_empty _ := rfl
  ports_empty := by simp [Resources.empty]
  contains_iff := Bundle.contains_iff
  scalar_sub := Bundle.amount_take
  ports_sub := Pool.tokens_take

example : parse "cpus:1.0;mem:2084;ports:[21000-21001]" =
    some ⟨[(("cpus", ""), 1000), (("mem", ""), 2084000)], [21000, 21001]⟩ := by decide +kernel

end TextResources

end QuobyteMesos
