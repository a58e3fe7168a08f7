import Mathlib.Algebra.BigOperators.Group.List.Basic
import Mathlib.Data.List.Dedup
import Mathlib.Data.Set.Lattice
import Mathlib.Algebra.GroupWithZero.Nat
import Mathlib.Order.CompletePartialOrder

/-! Pools of countable amounts and indivisible tokens, and claims drawn from
them one after the other.

`Drawn` records a sequence of draws, each checked against what the earlier ones
left. Whatever was drawn fits the original pool exactly (`Drawn.amount`), no
token is drawn twice (`Drawn.disjoint`), and a check that succeeds late would
have succeeded at the start (`Drawn.contains_pool`). `Bundle` is an executable
pool. The module knows nothing of what the amounts and tokens stand for. -/
namespace QuobyteMesos.ResourcePool

universe u v w

/-- What a pool offers: containment and removal, read through the amount of
each name and the set of tokens held. -/
class Pool (R : Type u) (Name : outParam (Type v)) (Token : outParam (Type w)) where
  contains : R → R → Bool
  take : R → R → R
  amount : R → Name → ℕ
  tokens : R → Set Token
  contains_iff : ∀ pool claim, contains pool claim = true ↔
    (∀ name, amount claim name ≤ amount pool name) ∧ tokens claim ⊆ tokens pool
  amount_take : ∀ pool claim name, amount (take pool claim) name = amount pool name - amount claim name
  tokens_take : ∀ pool claim, tokens (take pool claim) = tokens pool \ tokens claim

open Pool

variable {R : Type u} {Name : Type v} {Token : Type w} [Pool R Name Token]

/-- Claims drawn in order, each contained in what the earlier ones left. -/
inductive Drawn (pool : R) : List R → R → Prop where
  | nothing : Drawn pool [] pool
  | draw {claims : List R} {rest claim : R} (before : Drawn pool claims rest)
      (fits : contains rest claim = true) : Drawn pool (claims ++ [claim]) (take rest claim)

/-- One holding lies within another in every amount and every token. -/
def Within (held claim : R) : Prop :=
  (∀ name, amount held name ≤ amount claim name) ∧ tokens held ⊆ tokens claim

theorem within_refl (claim : R) : Within claim claim := ⟨fun _ => le_rfl, subset_rfl⟩

variable {pool rest claim : R} {claims held : List R}

/-- The amounts drawn and the amount left add up to the pool. -/
theorem Drawn.amount (drawn : Drawn pool claims rest) (name : Name) :
    (claims.map fun claim => Pool.amount claim name).sum + Pool.amount rest name =
      Pool.amount pool name := by
  induction drawn with
  | nothing => simp
  | draw before fits ih =>
    have enough := ((contains_iff _ _).mp fits).1 name
    rw [List.map_append, List.sum_append, List.map_singleton, List.sum_singleton, amount_take]
    omega

theorem Drawn.tokens_rest (drawn : Drawn pool claims rest) :
    tokens rest ⊆ tokens pool ∧ ∀ claim ∈ claims, Disjoint (tokens claim) (tokens rest) := by
  induction drawn with
  | nothing => exact ⟨subset_rfl, by simp⟩
  | @draw claims rest claim before fits ih =>
    rw [tokens_take]
    refine ⟨Set.sdiff_subset.trans ih.1, ?_⟩
    intro earlier member
    rcases List.mem_append.mp member with member | member
    · exact (ih.2 earlier member).mono_right Set.sdiff_subset
    · rw [List.mem_singleton.mp member]
      exact Set.disjoint_sdiff_right

theorem Drawn.tokens_pool (drawn : Drawn pool claims rest) :
    ∀ claim ∈ claims, tokens claim ⊆ tokens pool := by
  induction drawn with
  | nothing => simp
  | draw before fits ih =>
    intro claim member
    rcases List.mem_append.mp member with member | member
    · exact ih claim member
    · rw [List.mem_singleton.mp member]
      exact ((contains_iff _ _).mp fits).2.trans before.tokens_rest.1

/-- No token is drawn twice. -/
theorem Drawn.disjoint (drawn : Drawn pool claims rest) :
    claims.Pairwise fun first second => Disjoint (tokens first) (tokens second) := by
  induction drawn with
  | nothing => exact List.Pairwise.nil
  | draw before fits ih =>
    rw [List.pairwise_append]
    refine ⟨ih, List.pairwise_singleton _ _, ?_⟩
    intro first member second last
    rw [List.mem_singleton.mp last]
    exact (before.tokens_rest.2 first member).mono_right ((contains_iff _ _).mp fits).2

/-- What still fits after some draws fitted the pool in the first place. -/
theorem Drawn.contains_pool (drawn : Drawn pool claims rest)
    (fits : contains rest claim = true) : contains pool claim = true := by
  obtain ⟨amounts, held⟩ := (contains_iff _ _).mp fits
  refine (contains_iff _ _).mpr ⟨fun name => ?_, held.trans drawn.tokens_rest.1⟩
  have total := drawn.amount name
  have enough := amounts name
  omega

/-- Every claim drawn fitted the pool on its own. -/
theorem Drawn.contains_claim (drawn : Drawn pool claims rest) :
    ∀ claim ∈ claims, contains pool claim = true := by
  induction drawn with
  | nothing => simp
  | draw before fits ih =>
    intro claim member
    rcases List.mem_append.mp member with earlier | last
    · exact ih claim earlier
    · rw [List.mem_singleton.mp last]
      exact before.contains_pool fits

/-- A claim holding a token is not available a second time. -/
theorem Drawn.not_again (drawn : Drawn pool claims rest) (member : claim ∈ claims)
    (token : (tokens claim).Nonempty) : contains rest claim = false := by
  by_contra fits
  have held := ((contains_iff _ _).mp (Bool.of_not_eq_false fits)).2
  obtain ⟨t, holds⟩ := token
  exact Set.disjoint_left.mp (drawn.tokens_rest.2 claim member) holds (held holds)

/-- Every element of the left list is related to one of the right list. -/
theorem exists_paired {α β : Type*} {related : α → β → Prop} {left : List α} {right : List β}
    (paired : List.Forall₂ related left right) : ∀ x ∈ left, ∃ y ∈ right, related x y := by
  induction paired with
  | nil => simp
  | @cons _ y _ _ head _ ih =>
    intro x member
    rcases List.mem_cons.mp member with rfl | member
    · exact ⟨y, List.mem_cons_self, head⟩
    · obtain ⟨y, later, pair⟩ := ih x member
      exact ⟨y, List.mem_cons_of_mem _ later, pair⟩

private theorem held_disjoint (within : List.Forall₂ Within held claims)
    (separate : claims.Pairwise fun first second => Disjoint (tokens first) (tokens second)) :
    held.Pairwise fun first second => Disjoint (tokens first) (tokens second) := by
  induction within with
  | nil => exact List.Pairwise.nil
  | cons head tail ih =>
    obtain ⟨apart, later⟩ := List.pairwise_cons.mp separate
    refine List.pairwise_cons.mpr ⟨?_, ih later⟩
    intro other member
    obtain ⟨claim, drawn, inside⟩ := exists_paired tail other member
    exact (apart claim drawn).mono head.2 inside.2

private theorem held_sum_le (within : List.Forall₂ Within held claims) (name : Name) :
    (held.map fun part => amount part name).sum ≤
      (claims.map fun claim => amount claim name).sum := by
  induction within with
  | nil => simp
  | cons head _ ih =>
    have first := head.1 name
    simp only [List.map_cons, List.sum_cons]
    omega

/-- Holdings that stay within the claims drawn for them never exceed the pool
and never share a token. -/
theorem Drawn.held_within (drawn : Drawn pool claims rest)
    (within : List.Forall₂ Within held claims) :
    (∀ name, (held.map fun part => Pool.amount part name).sum ≤ Pool.amount pool name) ∧
      (∀ part ∈ held, tokens part ⊆ tokens pool) ∧
      held.Pairwise fun first second => Disjoint (tokens first) (tokens second) := by
  refine ⟨fun name => ?_, ?_, held_disjoint within drawn.disjoint⟩
  · have total := drawn.amount name
    have bounded := held_sum_le within name
    omega
  · intro part member
    obtain ⟨claim, drawnClaim, inside⟩ := exists_paired within part member
    exact inside.2.trans (drawn.tokens_pool claim drawnClaim)

/-! ### An executable pool -/

/-- Amounts listed by name, several entries of one name adding up, and tokens. -/
structure Bundle (Name Token : Type) where
  amounts : List (Name × ℕ) := []
  held : List Token := []
  deriving DecidableEq, Repr

namespace Bundle

variable {Name Token : Type} [DecidableEq Name]

/-- The total listed under one name. -/
def amount (bundle : Bundle Name Token) (name : Name) : ℕ :=
  ((bundle.amounts.filter (·.1 = name)).map Prod.snd).sum

private theorem amount_of_absent {bundle : Bundle Name Token} {name : Name}
    (absent : name ∉ bundle.amounts.map Prod.fst) : bundle.amount name = 0 := by
  have none : bundle.amounts.filter (·.1 = name) = [] := by
    rw [List.filter_eq_nil_iff]
    intro entry member named
    exact absent (List.mem_map.mpr ⟨entry, member, by simpa using named⟩)
  simp [amount, none]

variable [DecidableEq Token]

def contains (pool claim : Bundle Name Token) : Bool :=
  claim.amounts.all (fun entry => claim.amount entry.1 ≤ pool.amount entry.1) &&
    claim.held.all (pool.held.contains ·)

/-- Removal keeps one entry for every name and drops what reaches zero. -/
def take (pool claim : Bundle Name Token) : Bundle Name Token where
  amounts := ((pool.amounts.map Prod.fst).dedup.map fun name =>
    (name, pool.amount name - claim.amount name)).filter (·.2 ≠ 0)
  held := pool.held.filter (!claim.held.contains ·)

private theorem sum_kept (names : List Name) (value : Name → ℕ) (name : Name)
    (distinct : names.Nodup) :
    (((names.map fun key => (key, value key)).filter (·.2 ≠ 0)).filter (·.1 = name)
      |>.map Prod.snd).sum = if name ∈ names then value name else 0 := by
  induction names with
  | nil => simp
  | cons key names ih =>
    obtain ⟨fresh, later⟩ := List.nodup_cons.mp distinct
    have rest := ih later
    by_cases same : key = name
    · subst key
      rw [if_neg fresh] at rest
      by_cases zero : value name = 0
      · simpa [zero] using rest
      · simpa [zero] using rest
    · by_cases zero : value key = 0
      · simpa [zero, Ne.symm same] using rest
      · simpa [zero, same, Ne.symm same] using rest

theorem amount_take (pool claim : Bundle Name Token) (name : Name) :
    (pool.take claim).amount name = pool.amount name - claim.amount name := by
  rw [amount, take, sum_kept _ (fun key => pool.amount key - claim.amount key) _ (List.nodup_dedup _)]
  split
  · rfl
  · rename_i absent
    rw [amount_of_absent (by simpa using absent), Nat.zero_sub]

theorem contains_iff (pool claim : Bundle Name Token) :
    pool.contains claim = true ↔ (∀ name, claim.amount name ≤ pool.amount name) ∧
      {token | token ∈ claim.held} ⊆ {token | token ∈ pool.held} := by
  simp only [contains, Bool.and_eq_true, List.all_eq_true, decide_eq_true_eq,
    List.contains_iff_mem, Set.ofPred_subset_ofPred]
  refine and_congr_left fun _ => ⟨fun listed name => ?_, fun all entry _ => all entry.1⟩
  by_cases present : name ∈ claim.amounts.map Prod.fst
  · obtain ⟨entry, member, rfl⟩ := List.mem_map.mp present
    exact listed entry member
  · rw [amount_of_absent present]
    exact Nat.zero_le _

instance : Pool (Bundle Name Token) Name Token where
  contains := contains
  take := take
  amount := amount
  tokens bundle := {token | token ∈ bundle.held}
  contains_iff := contains_iff
  amount_take := amount_take
  tokens_take pool claim := by
    ext token
    simp [take]

end Bundle

end QuobyteMesos.ResourcePool
