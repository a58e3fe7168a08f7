import Mathlib.Algebra.Order.BigOperators.Group.List
import Mathlib.Algebra.Order.Group.Nat
import Mathlib.Data.List.Pairwise
import Mathlib.Data.List.Perm.Subperm
import QuobyteMesos.ResourcePool

/-! Wishes served from a pool in their order.

Every wish has a claim and is served when it is admitted and what is left still
contains the claim, so an early wish can take what a later one needs. Where
every claim holds a token, a wish repeated is served once, and
`all_served_iff` says what it takes for a list of wishes to be served
completely: the claims of the distinct wishes fit the pool together. What the
wishes are is left open. -/
namespace QuobyteMesos.ResourcePool
open Pool

universe u v w

variable {R : Type u} {Name : Type v} {Token : Type w} [Pool R Name Token] {κ : Type}

/-- The wishes served, and what is left of the pool. -/
def serve (claim : κ → R) (admits : κ → R → Bool) : List κ → R → List κ × R
  | [], pool => ([], pool)
  | wish :: wishes, pool =>
    if admits wish pool && contains pool (claim wish) then
      (wish :: (serve claim admits wishes (take pool (claim wish))).1,
        (serve claim admits wishes (take pool (claim wish))).2)
    else
      serve claim admits wishes pool

variable {claim : κ → R} {admits admits' : κ → R → Bool} {pool rest : R} {claims : List R}
variable {wish : κ} {wishes later served : List κ}

/-- Serving a longer list goes on with what the first part left. -/
theorem serve_append (wishes later : List κ) (pool : R) :
    serve claim admits (wishes ++ later) pool =
      ((serve claim admits wishes pool).1 ++
          (serve claim admits later (serve claim admits wishes pool).2).1,
        (serve claim admits later (serve claim admits wishes pool).2).2) := by
  induction wishes generalizing pool with
  | nil => rfl
  | cons wish wishes ih =>
    simp only [List.cons_append, serve]
    split
    · rw [ih, List.cons_append]
    · rw [ih]

/-- Only the admission of listed wishes matters. -/
theorem serve_congr (same : ∀ wish ∈ wishes, admits' wish = admits wish) (pool : R) :
    serve claim admits' wishes pool = serve claim admits wishes pool := by
  induction wishes generalizing pool with
  | nil => rfl
  | cons wish wishes ih =>
    have later := ih fun other member => same other (List.mem_cons_of_mem _ member)
    simp only [serve, same wish List.mem_cons_self, later]

/-- Wishes refused whatever is left might as well not be there. -/
theorem serve_filter (keep : κ → Bool) (wishes : List κ) (pool : R)
    (same : ∀ wish ∈ wishes, ∀ left, admits wish left = keep wish) :
    serve claim admits wishes pool = serve claim (fun _ _ => true) (wishes.filter keep) pool := by
  induction wishes generalizing pool with
  | nil => rfl
  | cons wish wishes ih =>
    obtain ⟨here, later⟩ := List.forall_mem_cons.mp same
    cases kept : keep wish with
    | true => simp only [serve, here, kept, List.filter_cons_of_pos, Bool.true_and, ih _ later]
    | false =>
      simp only [serve, here, kept, Bool.false_and, Bool.false_eq_true, if_false, ih _ later,
        not_false_eq_true, List.filter_cons_of_neg]

theorem served_subset (wishes : List κ) (pool : R) :
    ∀ wish ∈ (serve claim admits wishes pool).1, wish ∈ wishes := by
  induction wishes generalizing pool with
  | nil => exact fun _ member => member
  | cons wish wishes ih =>
    intro other member
    simp only [serve] at member
    split at member
    · rcases List.mem_cons.mp member with rfl | member
      · exact List.mem_cons_self
      · exact List.mem_cons_of_mem _ (ih _ other member)
    · exact List.mem_cons_of_mem _ (ih _ other member)

/-- The claims of the served wishes are drawn from the pool one after the other. -/
theorem Drawn.serve (drawn : Drawn pool claims rest) (wishes : List κ) :
    Drawn pool (claims ++ (serve claim admits wishes rest).1.map claim)
      (serve claim admits wishes rest).2 := by
  induction wishes generalizing claims rest with
  | nil => simpa [ResourcePool.serve] using drawn
  | cons wish wishes ih =>
    simp only [ResourcePool.serve]
    split
    · rename_i taken
      have fits := (Bool.and_eq_true_iff.mp taken).2
      simpa using ih (drawn.draw fits)
    · exact ih drawn

theorem drawn_served (wishes : List κ) (pool : R) :
    Drawn pool ((serve claim admits wishes pool).1.map claim) (serve claim admits wishes pool).2 := by
  simpa using Drawn.nothing.serve wishes

/-! ### Repeated wishes -/

/-- A wish whose claim holds a token is not served again. -/
private theorem served_nodup_from (admits : κ → R → Bool)
    (token : ∀ wish ∈ wishes, (tokens (claim wish)).Nonempty)
    (drawn : Drawn pool (served.map claim) rest) (once : served.Nodup) :
    (served ++ (serve claim admits wishes rest).1).Nodup := by
  induction wishes generalizing served rest with
  | nil => simpa [serve] using once
  | cons wish wishes ih =>
    have tokens := fun other member => token other (List.mem_cons_of_mem _ member)
    simp only [serve]
    split
    · rename_i taken
      have fits := (Bool.and_eq_true_iff.mp taken).2
      have fresh : wish ∉ served := by
        intro again
        have gone := drawn.not_again (List.mem_map_of_mem again) (token wish List.mem_cons_self)
        rw [gone] at fits
        cases fits
      have drawn' : Drawn pool ((served ++ [wish]).map claim) (take rest (claim wish)) := by
        simpa using drawn.draw fits
      have once' : (served ++ [wish]).Nodup := by
        simpa only [List.concat_eq_append] using once.concat fresh
      simpa using ih tokens drawn' once'
    · exact ih tokens drawn once

theorem served_nodup (token : ∀ wish ∈ wishes, (tokens (claim wish)).Nonempty) (pool : R) :
    (serve claim admits wishes pool).1.Nodup := by
  have none : Drawn pool (([] : List κ).map claim) pool := Drawn.nothing
  simpa using served_nodup_from admits token none List.nodup_nil

/-! ### Lists that are served completely -/

/-- The claims fit the pool together: no amount is exceeded, every token is there,
and no token is claimed twice. -/
structure Fits (pool : R) (claims : List R) : Prop where
  amounts : ∀ name, (claims.map fun claim => Pool.amount claim name).sum ≤ Pool.amount pool name
  held : ∀ claim ∈ claims, tokens claim ⊆ tokens pool
  separate : claims.Pairwise fun first second => Disjoint (tokens first) (tokens second)

/-- What was drawn fits. -/
theorem Drawn.fits (drawn : Drawn pool claims rest) : Fits pool claims := by
  refine ⟨fun name => ?_, drawn.tokens_pool, drawn.disjoint⟩
  have total := drawn.amount name
  omega

theorem Fits.perm (fits : Fits pool claims) {claims' : List R} (perm : claims.Perm claims') :
    Fits pool claims' := by
  refine ⟨fun name => ?_, fun claim member => ?_, ?_⟩
  · rw [← (perm.map _).sum_eq]
    exact fits.amounts name
  · exact fits.held claim (perm.mem_iff.mpr member)
  · exact (perm.pairwise_iff fun disjoint => disjoint.symm).mp fits.separate

/-- A token of the pool that nobody drew is left. -/
theorem Drawn.token_left (drawn : Drawn pool claims rest) {token : Token}
    (held : token ∈ tokens pool) (unclaimed : ∀ claim ∈ claims, token ∉ tokens claim) :
    token ∈ tokens rest := by
  induction drawn with
  | nothing => exact held
  | draw before fits ih =>
    rw [tokens_take]
    refine ⟨ih fun claim member => unclaimed claim (List.mem_append_left _ member), ?_⟩
    exact unclaimed _ (List.mem_append_right _ (List.mem_singleton_self _))

/-- The tokens of the pool are those drawn and those left. -/
theorem Drawn.tokens_iff (drawn : Drawn pool claims rest) (token : Token) :
    token ∈ tokens pool ↔ token ∈ tokens rest ∨ ∃ claim ∈ claims, token ∈ tokens claim := by
  constructor
  · intro held
    by_contra gone
    simp only [not_or, not_exists, not_and] at gone
    exact gone.1 (drawn.token_left held gone.2)
  · rintro (left | ⟨claim, member, holds⟩)
    · exact drawn.tokens_rest.1 left
    · exact drawn.tokens_pool claim member holds

/-- Distinct wishes of a list claim no more than the whole list. -/
private theorem sum_le_of_distinct {few many : List κ} (once : few.Nodup) (listed : few ⊆ many)
    (amount : κ → ℕ) : (few.map amount).sum ≤ (many.map amount).sum := by
  obtain ⟨between, perm, sublist⟩ := List.subperm_of_subset once listed
  rw [← (perm.map amount).sum_eq]
  exact (sublist.map amount).sum_le_sum fun _ _ => Nat.zero_le _

/-- Of claims that fit together, one that has not been drawn is still contained. -/
private theorem contains_undrawn {all : List κ} (fits : Fits pool (all.map claim))
    (drawn : Drawn pool (served.map claim) rest) (once : (served ++ [wish]).Nodup)
    (listed : served ++ [wish] ⊆ all) : contains rest (claim wish) = true := by
  have wanted : wish ∈ all := listed (by simp)
  refine (contains_iff _ _).mpr ⟨fun name => ?_, fun token holds => ?_⟩
  · have bounded := sum_le_of_distinct once listed fun wish => Pool.amount (claim wish) name
    have enough := fits.amounts name
    have total := drawn.amount name
    simp only [List.map_append, List.map_map, List.sum_append, List.map_cons, List.map_nil,
      List.sum_singleton, Function.comp_def] at bounded enough total
    omega
  · refine drawn.token_left (fits.held _ (List.mem_map_of_mem wanted) holds) ?_
    intro drawnClaim member
    obtain ⟨other, served, rfl⟩ := List.mem_map.mp member
    have apart : other ≠ wish := by
      rintro rfl
      exact (List.nodup_append.mp once).2.2 other served other (List.mem_singleton_self _) rfl
    have symmetric : Std.Symm fun first second => Disjoint (tokens (claim first))
        (tokens (claim second)) := ⟨fun _ _ disjoint => disjoint.symm⟩
    have separate := (List.pairwise_map.mp fits.separate).forall
      (listed (List.mem_append_left _ served)) wanted apart
    exact fun claimed => Set.disjoint_left.mp separate claimed holds

private theorem all_served_from {all : List κ} (fits : Fits pool (all.map claim))
    (admitted : ∀ wish ∈ wishes, ∀ left, admits wish left = true)
    (token : ∀ wish ∈ wishes, (tokens (claim wish)).Nonempty) (listed : wishes ⊆ all)
    (drawn : Drawn pool (served.map claim) rest) (once : served.Nodup) (before : served ⊆ all) :
    ∀ wish ∈ wishes, wish ∈ served ++ (serve claim admits wishes rest).1 := by
  induction wishes generalizing served rest with
  | nil => exact fun _ member => absurd member List.not_mem_nil
  | cons wish wishes ih =>
    obtain ⟨here, admitted⟩ := List.forall_mem_cons.mp admitted
    obtain ⟨holds, token⟩ := List.forall_mem_cons.mp token
    have tail : wishes ⊆ all := fun _ member => listed (List.mem_cons_of_mem _ member)
    by_cases again : wish ∈ served
    · have gone := drawn.not_again (List.mem_map_of_mem again) holds
      simp only [serve, gone, Bool.and_false, Bool.false_eq_true, if_false]
      intro other member
      rcases List.mem_cons.mp member with rfl | member
      · exact List.mem_append_left _ again
      · exact ih admitted token tail drawn once before other member
    · have once' : (served ++ [wish]).Nodup := by
        simpa only [List.concat_eq_append] using once.concat again
      have before' : served ++ [wish] ⊆ all := by
        refine List.append_subset.mpr ⟨before, fun other member => ?_⟩
        rw [List.mem_singleton.mp member]
        exact listed List.mem_cons_self
      have taken := contains_undrawn fits drawn once' before'
      have drawn' : Drawn pool ((served ++ [wish]).map claim) (take rest (claim wish)) := by
        simpa using drawn.draw taken
      simp only [serve, here, taken, Bool.and_self, if_true]
      intro other member
      have later := ih admitted token tail drawn' once' before'
      rcases List.mem_cons.mp member with rfl | member
      · simp
      · simpa using later other member

/-- Wishes that are all admitted and whose claims hold tokens are all served exactly
when the claims of the distinct ones fit the pool together. -/
theorem all_served_iff [DecidableEq κ] (admitted : ∀ wish ∈ wishes, ∀ left, admits wish left = true)
    (token : ∀ wish ∈ wishes, (tokens (claim wish)).Nonempty) (pool : R) :
    (∀ wish ∈ wishes, wish ∈ (serve claim admits wishes pool).1) ↔
      Fits pool (wishes.dedup.map claim) := by
  constructor
  · intro all
    have fits : Fits pool ((serve claim admits wishes pool).1.map claim) :=
      (drawn_served wishes pool).fits
    have perm : (serve claim admits wishes pool).1.Perm wishes.dedup := by
      apply (List.perm_ext_iff_of_nodup (served_nodup token pool) (List.nodup_dedup _)).mpr
      intro wish
      rw [List.mem_dedup]
      exact ⟨served_subset wishes pool wish, all wish⟩
    exact fits.perm (perm.map claim)
  · intro fits wish member
    have none : Drawn pool (([] : List κ).map claim) pool := Drawn.nothing
    have served := all_served_from fits admitted token
      (fun wish member => List.mem_dedup.mpr member) none List.nodup_nil (List.nil_subset _)
    simpa using served wish member

end QuobyteMesos.ResourcePool
