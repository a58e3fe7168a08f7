import Mathlib.Data.List.Basic
import Mathlib.Data.List.Chain
import Mathlib.Data.List.Flatten
import Mathlib.Data.List.Induction

/-! Deterministic machines that emit observations and may end inside a step.

A step either leaves a next state or ends the machine; what it emitted before
ending is kept. A run feeds a list of inputs and collects every observation.
The rules here are the inductions a proof about such a machine needs: an
invariant holds at the end of every run, a condition can be demanded of every
step of a run, and two observations are kept apart by a third
(`Guards.separated`). Nothing here depends on what the machine models. -/
namespace QuobyteMesos.Machine

universe u v w

variable {σ : Type u} {ι κ : Type v} {ο ο' : Type w}

/-- What one step leaves: the next state, absent when the machine ended inside
the step, and everything emitted until then. -/
structure Outcome (σ : Type u) (ο : Type w) where
  next : Option σ
  out : List ο

/-- Going on from where the first part stopped; an ended machine stays ended. -/
def Outcome.andThen (first : Outcome σ ο) (rest : σ → Outcome σ ο) : Outcome σ ο :=
  match first.next with
  | none => first
  | some s => ⟨(rest s).next, first.out ++ (rest s).out⟩

/-- Feeding the inputs one after the other. -/
def run (step : σ → ι → Outcome σ ο) : σ → List ι → Outcome σ ο
  | s, [] => ⟨some s, []⟩
  | s, input :: rest => (step s input).andThen fun s' => run step s' rest

variable {step : σ → ι → Outcome σ ο} {s s' : σ} {input : ι} {inputs left right : List ι}

@[simp] theorem run_nil : run step s [] = ⟨some s, []⟩ := rfl

theorem run_cons_ended (ended : (step s input).next = none) :
    run step s (input :: inputs) = step s input := by
  simp [run, Outcome.andThen, ended]

theorem run_cons_next (stepped : (step s input).next = some s') :
    run step s (input :: inputs) =
      ⟨(run step s' inputs).next, (step s input).out ++ (run step s' inputs).out⟩ := by
  simp [run, Outcome.andThen, stepped]

@[simp] theorem run_singleton : run step s [input] = step s input := by
  cases stepped : (step s input).next with
  | none => exact run_cons_ended stepped
  | some next =>
    rw [run_cons_next stepped]
    simp [← stepped]

private theorem andThen_assoc (first : Outcome σ ο) (second third : σ → Outcome σ ο) :
    (first.andThen second).andThen third = first.andThen fun s => (second s).andThen third := by
  obtain ⟨next, out⟩ := first
  cases next with
  | none => rfl
  | some s =>
    cases later : (second s).next with
    | none => simp [Outcome.andThen, later]
    | some s' => simp [Outcome.andThen, later]

/-- A run over two input lists is the first run followed by the second. -/
theorem run_append (left right : List ι) :
    run step s (left ++ right) = (run step s left).andThen fun s' => run step s' right := by
  induction left generalizing s with
  | nil => simp [Outcome.andThen]
  | cons input left ih =>
    simp only [List.cons_append, run, ih]
    exact (andThen_assoc _ _ _).symm

theorem run_append_next (ran : (run step s left).next = some s') (right : List ι) :
    run step s (left ++ right) =
      ⟨(run step s' right).next, (run step s left).out ++ (run step s' right).out⟩ := by
  simp [run_append, Outcome.andThen, ran]

/-- A machine whose every step is a run of a finer machine is the finer machine
fed with the expanded inputs. -/
theorem run_flatMap {coarse : σ → κ → Outcome σ ο} {expand : κ → List ι}
    (refines : ∀ s input, coarse s input = run step s (expand input)) (inputs : List κ) :
    run coarse s inputs = run step s (inputs.flatMap expand) := by
  induction inputs generalizing s with
  | nil => rfl
  | cons input inputs ih =>
    rw [List.flatMap_cons, run_append, ← refines]
    simp only [run, ih]

/-- The same outcome with its observations renamed. -/
def Outcome.mapOut (outcome : Outcome σ ο) (f : ο → ο') : Outcome σ ο' :=
  ⟨outcome.next, outcome.out.map f⟩

/-- Renaming the observations of every step renames those of the run. -/
theorem run_mapOut (f : ο → ο') (inputs : List ι) :
    run (fun s input => (step s input).mapOut f) s inputs = (run step s inputs).mapOut f := by
  induction inputs generalizing s with
  | nil => rfl
  | cons input inputs ih =>
    simp only [run, ih]
    cases stepped : (step s input).next with
    | none => simp [Outcome.andThen, Outcome.mapOut, stepped]
    | some next => simp [Outcome.andThen, Outcome.mapOut, stepped]

/-- Feeding the machine with translated inputs. -/
theorem run_map {translated : κ → ι} (inputs : List κ) :
    run (fun s input => step s (translated input)) s inputs =
      run step s (inputs.map translated) := by
  induction inputs generalizing s with
  | nil => rfl
  | cons input inputs ih => simp only [run, List.map_cons, ih]

/-- Whatever a run emits is emitted by one of its inputs, from the state the
inputs before it lead to. -/
theorem emitted_at {left right : List ο} {event : ο}
    (split : (run step s inputs).out = left ++ event :: right) :
    ∃ before input after middle pre post, inputs = before ++ input :: after ∧
      (run step s before).next = some middle ∧ (step middle input).out = pre ++ event :: post ∧
      left = (run step s before).out ++ pre := by
  induction inputs generalizing s left with
  | nil => simp at split
  | cons input inputs ih =>
    cases stepped : (step s input).next with
    | none =>
      rw [run_cons_ended stepped] at split
      exact ⟨[], input, inputs, s, left, right, rfl, rfl, split, rfl⟩
    | some next =>
      rw [run_cons_next stepped] at split
      rcases List.append_eq_append_iff.mp split with ⟨front, rfl, later⟩ | ⟨back, here, rest⟩
      · obtain ⟨before, other, after, middle, pre, post, rfl, ran, emitted, rfl⟩ := ih later
        refine ⟨input :: before, other, after, middle, pre, post, rfl, ?_, emitted, ?_⟩
        · rw [run_cons_next stepped, ran]
        · rw [run_cons_next stepped, List.append_assoc]
      · cases back with
        | nil =>
          have later : (run step next inputs).out = [] ++ event :: right := by
            simpa using rest.symm
          obtain ⟨before, other, after, middle, pre, post, rfl, ran, emitted, nothing⟩ := ih later
          refine ⟨input :: before, other, after, middle, pre, post, rfl, ?_, emitted, ?_⟩
          · rw [run_cons_next stepped, ran]
          · rw [run_cons_next stepped, List.append_assoc, ← nothing]
            simpa using here.symm
        | cons head back =>
          obtain ⟨rfl, rfl⟩ := List.cons.inj rest
          exact ⟨[], input, inputs, s, left, back, rfl, rfl, here, rfl⟩

/-- A run that does not end passes through the state behind its first part. -/
theorem ran_append (ran : (run step s (left ++ right)).next = some s') :
    ∃ middle, (run step s left).next = some middle ∧ (run step middle right).next = some s' ∧
      (run step s (left ++ right)).out = (run step s left).out ++ (run step middle right).out := by
  cases reached : (run step s left).next with
  | none =>
    rw [run_append, Outcome.andThen, reached] at ran
    exact absurd (reached.symm.trans ran) (by simp)
  | some middle =>
    rw [run_append_next reached] at ran ⊢
    exact ⟨middle, rfl, ran, rfl⟩

/-- A run that does not end passes through the state behind its first input. -/
theorem ran_cons (ran : (run step s (input :: inputs)).next = some s') :
    ∃ middle, (step s input).next = some middle ∧ (run step middle inputs).next = some s' ∧
      (run step s (input :: inputs)).out = (step s input).out ++ (run step middle inputs).out := by
  have split : (run step s ([input] ++ inputs)).next = some s' := ran
  simpa only [run_singleton, List.singleton_append] using ran_append split

/-- What a run that does not end emits is emitted by a step of it. -/
theorem emitted_step {event : ο} (emitted : event ∈ (run step s inputs).out)
    (ran : (run step s inputs).next = some s') :
    ∃ before input after middle next, inputs = before ++ input :: after ∧
      (run step s before).next = some middle ∧ (step middle input).next = some next ∧
      (run step next after).next = some s' ∧ event ∈ (step middle input).out := by
  obtain ⟨left, right, split⟩ := List.append_of_mem emitted
  obtain ⟨before, input, after, middle, pre, post, rfl, begun, here, _⟩ := emitted_at split
  obtain ⟨first, same, rest, _⟩ := ran_append ran
  obtain rfl := Option.some.inj (begun.symm.trans same)
  obtain ⟨next, stepped, later, _⟩ := ran_cons rest
  exact ⟨before, input, after, middle, next, rfl, begun, stepped, later, by simp [here]⟩

/-- The states a run can end in. -/
def Reaches (step : σ → ι → Outcome σ ο) (s s' : σ) : Prop :=
  ∃ inputs, (run step s inputs).next = some s'

/-- A property kept by every step holds wherever a run ends. -/
theorem run_invariant {inv : σ → Prop}
    (preserved : ∀ s input s', inv s → (step s input).next = some s' → inv s')
    (start : inv s) (ran : (run step s inputs).next = some s') : inv s' := by
  induction inputs generalizing s with
  | nil =>
    cases ran
    exact start
  | cons input inputs ih =>
    cases stepped : (step s input).next with
    | none =>
      rw [run_cons_ended stepped, stepped] at ran
      cases ran
    | some middle =>
      rw [run_cons_next stepped] at ran
      exact ih (preserved s input middle start stepped) ran

/-- A run on allowed inputs does not end as long as its steps do not. -/
theorem run_continues (inv : σ → Prop) {allowed : ι → Prop}
    (continues : ∀ s input, inv s → allowed input → ∃ s', (step s input).next = some s' ∧ inv s')
    (start : inv s) (all : ∀ input ∈ inputs, allowed input) :
    ∃ s', (run step s inputs).next = some s' := by
  induction inputs generalizing s with
  | nil => exact ⟨s, rfl⟩
  | cons input inputs ih =>
    obtain ⟨middle, stepped, kept⟩ := continues s input start (all input List.mem_cons_self)
    rw [run_cons_next stepped]
    exact ih kept fun other member => all other (List.mem_cons_of_mem _ member)

/-- Every step of the run finds the condition satisfied by its input and the
state it starts from. -/
def Along (condition : σ → ι → Prop) (step : σ → ι → Outcome σ ο) : σ → List ι → Prop
  | _, [] => True
  | s, input :: rest =>
    condition s input ∧ ∀ s', (step s input).next = some s' → Along condition step s' rest

/-- A check run before every step. -/
def alongCheck (check : σ → ι → Bool) (step : σ → ι → Outcome σ ο) : σ → List ι → Bool
  | _, [] => true
  | s, input :: rest => check s input && ((step s input).next.all fun s' => alongCheck check step s' rest)

/-- A run that passes a check meets every condition the check implies. -/
theorem along_of_check {condition : σ → ι → Prop} (check : σ → ι → Bool)
    (implies : ∀ s input, check s input = true → condition s input)
    (passed : alongCheck check step s inputs = true) : Along condition step s inputs := by
  induction inputs generalizing s with
  | nil => trivial
  | cons input inputs ih =>
    simp only [alongCheck, Bool.and_eq_true] at passed
    refine ⟨implies s input passed.1, ?_⟩
    intro s' stepped
    have rest := passed.2
    rw [stepped] at rest
    exact ih rest

/-- A condition that every input meets in any state is met along the run. -/
theorem along_of_all {condition : σ → ι → Prop}
    (all : ∀ s, ∀ input ∈ inputs, condition s input) : Along condition step s inputs := by
  induction inputs generalizing s with
  | nil => trivial
  | cons input inputs ih =>
    refine ⟨all s input List.mem_cons_self, fun s' _ => ih ?_⟩
    intro s other member
    exact all s other (List.mem_cons_of_mem _ member)

/-- A property that steps keep under the condition holds wherever a run meeting
the condition ends. -/
theorem run_invariant_along {inv : σ → Prop} {condition : σ → ι → Prop}
    (preserved : ∀ s input s', inv s → condition s input →
      (step s input).next = some s' → inv s')
    (start : inv s) (all : Along condition step s inputs)
    (ran : (run step s inputs).next = some s') : inv s' := by
  induction inputs generalizing s with
  | nil =>
    cases ran
    exact start
  | cons input inputs ih =>
    cases stepped : (step s input).next with
    | none =>
      rw [run_cons_ended stepped, stepped] at ran
      cases ran
    | some middle =>
      rw [run_cons_next stepped] at ran
      exact ih (preserved s input middle start all.1 stepped) (all.2 middle stepped) ran

/-- What one kind of input establishes and every input keeps holds wherever a run with
an input of this kind ends. -/
theorem run_establishes {inv goal : σ → Prop} {allowed settles : ι → Prop}
    (preserved : ∀ s input s', inv s → allowed input → (step s input).next = some s' → inv s')
    (keeps : ∀ s input s', inv s → goal s → allowed input → (step s input).next = some s' → goal s')
    (establishes : ∀ s input s', inv s → allowed input → settles input →
      (step s input).next = some s' → goal s')
    (start : inv s) (all : ∀ input ∈ inputs, allowed input) (occurs : ∃ input ∈ inputs, settles input)
    (ran : (run step s inputs).next = some s') : inv s' ∧ goal s' := by
  obtain ⟨input, member, here⟩ := occurs
  obtain ⟨before, after, rfl⟩ := List.append_of_mem member
  obtain ⟨first, reached, ran, _⟩ := ran_append ran
  obtain ⟨second, stepped, ran, _⟩ := ran_cons ran
  have now : allowed input := all input member
  have held : inv first := run_invariant_along preserved start
    (along_of_all fun _ other earlier => all other (List.mem_append_left _ earlier)) reached
  have both : ∀ s input s', inv s ∧ goal s → allowed input → (step s input).next = some s' →
      inv s' ∧ goal s' := by
    intro s input s' holds allows stepped
    exact ⟨preserved s input s' holds.1 allows stepped, keeps s input s' holds.1 holds.2 allows stepped⟩
  have settled : inv second ∧ goal second :=
    ⟨preserved first input second held now stepped, establishes first input second held now here stepped⟩
  have rest : ∀ other ∈ after, allowed other := fun other later =>
    all other (List.mem_append_right _ (List.mem_cons_of_mem _ later))
  exact @run_invariant_along _ _ _ step _ _ _ (fun s => inv s ∧ goal s) (fun _ => allowed) both
    settled (along_of_all fun _ => rest) ran

/-- A property that steps keep under the condition, as long as they do not emit
the event, holds wherever such a run ends. -/
theorem run_quiet (held : σ → Prop) {condition : σ → ι → Prop} {event : ο → Prop}
    (keeps : ∀ s input s', held s → condition s input → (step s input).next = some s' →
      (∀ z ∈ (step s input).out, ¬ event z) → held s')
    (start : held s) (all : Along condition step s inputs)
    (ran : (run step s inputs).next = some s')
    (quiet : ∀ z ∈ (run step s inputs).out, ¬ event z) : held s' := by
  induction inputs generalizing s with
  | nil =>
    cases ran
    exact start
  | cons input inputs ih =>
    cases stepped : (step s input).next with
    | none =>
      rw [run_cons_ended stepped, stepped] at ran
      cases ran
    | some middle =>
      rw [run_cons_next stepped] at ran quiet
      have now := keeps s input middle start all.1 stepped
        fun z member => quiet z (List.mem_append_left _ member)
      exact ih now (all.2 middle stepped) ran
        fun z member => quiet z (List.mem_append_right _ member)

/-- Inputs that change nothing and show nothing can be left out of a run. -/
theorem run_filter {condition : σ → ι → Prop} (idle : ι → Bool) (view : ο → Option ο')
    (nothing : ∀ s input, idle input = true → condition s input →
      (step s input).next = some s ∧ (step s input).out.filterMap view = [])
    (all : Along condition step s inputs) :
    (run step s (inputs.filter fun input => !idle input)).next = (run step s inputs).next ∧
      (run step s (inputs.filter fun input => !idle input)).out.filterMap view =
        (run step s inputs).out.filterMap view := by
  induction inputs generalizing s with
  | nil => exact ⟨rfl, rfl⟩
  | cons input inputs ih =>
    cases kind : idle input with
    | true =>
      obtain ⟨same, unseen⟩ := nothing s input kind all.1
      obtain ⟨next, out⟩ := ih (all.2 s same)
      rw [List.filter_cons_of_neg (by simp [kind]), run_cons_next same, List.filterMap_append, unseen]
      exact ⟨next, out⟩
    | false =>
      rw [List.filter_cons_of_pos (by simp [kind])]
      cases stepped : (step s input).next with
      | none => simp only [run_cons_ended stepped, and_self]
      | some s' =>
        obtain ⟨next, out⟩ := ih (all.2 s' stepped)
        rw [run_cons_next stepped, run_cons_next stepped, List.filterMap_append,
          List.filterMap_append, out]
        exact ⟨next, rfl⟩

/-- A view that some inputs do not concern, and whose change under the others is its
own, is a machine fed with the inputs that concern it. -/
theorem run_view {ν : Type*} (view : σ → ν) (change : ν → ι → ν) (concerns : ι → Bool)
    (unconcerned : ∀ s input s', concerns input = false → (step s input).next = some s' →
      view s' = view s)
    (follows : ∀ s input s', concerns input = true → (step s input).next = some s' →
      view s' = change (view s) input)
    (ran : (run step s inputs).next = some s') :
    view s' = (inputs.filter concerns).foldl change (view s) := by
  induction inputs generalizing s with
  | nil =>
    cases ran
    rfl
  | cons input inputs ih =>
    cases stepped : (step s input).next with
    | none =>
      rw [run_cons_ended stepped, stepped] at ran
      cases ran
    | some middle =>
      rw [run_cons_next stepped] at ran
      cases kind : concerns input with
      | false =>
        rw [List.filter_cons_of_neg (by simp [kind]), ih ran,
          unconcerned s input middle kind stepped]
      | true =>
        rw [List.filter_cons_of_pos (by simp [kind]), List.foldl_cons, ih ran,
          follows s input middle kind stepped]

/-- A run on pairwise independent inputs may take them in any order, when two of them
may change places wherever the invariant holds. -/
theorem run_perm {inv : σ → Prop} {independent : ι → ι → Prop}
    (symmetric : ∀ {a b}, independent a b → independent b a)
    (preserved : ∀ s a s', inv s → (step s a).next = some s' → inv s')
    (commute : ∀ s a b s₁ s₂, inv s → independent a b → (step s a).next = some s₁ →
      (step s₁ b).next = some s₂ → ∃ s', (step s b).next = some s' ∧
        (step s b).out = (step s₁ b).out ∧ (step s' a).next = some s₂ ∧ (step s' a).out = (step s a).out)
    (perm : left.Perm right) (apart : left.Pairwise independent) (start : inv s)
    (ran : (run step s left).next = some s') :
    (run step s right).next = some s' ∧ (run step s right).out.Perm (run step s left).out := by
  induction perm generalizing s with
  | nil => exact ⟨ran, .refl _⟩
  | cons input _ ih =>
    obtain ⟨middle, stepped, later, out⟩ := ran_cons ran
    obtain ⟨next, same⟩ := ih (List.pairwise_cons.mp apart).2 (preserved _ _ _ start stepped) later
    rw [out, run_cons_next stepped]
    exact ⟨next, same.append_left _⟩
  | swap b a rest =>
    obtain ⟨s₁, first, later, out⟩ := ran_cons ran
    obtain ⟨s₂, second, later, out'⟩ := ran_cons later
    have pair : independent a b := (List.pairwise_cons.mp apart).1 b List.mem_cons_self
    obtain ⟨middle, stepped, same, back, same'⟩ := commute s a b s₁ s₂ start pair first second
    rw [out, out', run_cons_next stepped, run_cons_next back, same, same', ← List.append_assoc,
      ← List.append_assoc]
    exact ⟨later, List.perm_append_comm.append_right _⟩
  | trans first _ ih ih' =>
    obtain ⟨next, same⟩ := ih apart start ran
    obtain ⟨next, same'⟩ := ih' (apart.perm first symmetric) start next
    exact ⟨next, same'.trans same⟩

/-! ### Histories -/

/-- Every input of the run meets the condition, which is told the inputs before
it and the state they lead to. -/
def Throughout (condition : List ι → σ → ι → Prop) (step : σ → ι → Outcome σ ο) (s : σ)
    (inputs : List ι) : Prop :=
  ∀ before input after middle, inputs = before ++ input :: after →
    (run step s before).next = some middle → condition before middle input

theorem throughout_left {condition : List ι → σ → ι → Prop}
    (all : Throughout condition step s (left ++ right)) : Throughout condition step s left := by
  intro before input after middle split ran
  exact all before input (after ++ right) middle (by rw [split]; simp) ran

/-- A condition that every input meets in any state is met throughout. -/
theorem throughout_of_all {allowed : ι → Prop} (all : ∀ input ∈ inputs, allowed input) :
    Throughout (fun _ _ => allowed) step s inputs := by
  intro before input after middle split _
  apply all
  rw [split]
  exact List.mem_append_right _ List.mem_cons_self

/-- A check run before every input, on the inputs before it. -/
def throughoutCheck (check : List ι → σ → ι → Bool) (step : σ → ι → Outcome σ ο) :
    List ι → σ → List ι → Bool
  | _, _, [] => true
  | seen, s, input :: rest => check seen s input &&
    (step s input).next.all fun s' => throughoutCheck check step (seen ++ [input]) s' rest

/-- A run that passes a check meets every condition the check implies. -/
theorem throughout_of_check {condition : List ι → σ → ι → Prop} (check : List ι → σ → ι → Bool)
    (implies : ∀ seen s input, check seen s input = true → condition seen s input) {seen : List ι}
    (passed : throughoutCheck check step seen s inputs = true) :
    Throughout (fun before => condition (seen ++ before)) step s inputs := by
  intro before input after middle split ran
  induction before generalizing s seen inputs with
  | nil =>
    cases ran
    rw [split, List.nil_append, throughoutCheck, Bool.and_eq_true] at passed
    rw [List.append_nil]
    exact implies seen middle input passed.1
  | cons first before ih =>
    rw [split, List.cons_append, throughoutCheck, Bool.and_eq_true] at passed
    cases stepped : (step s first).next with
    | none =>
      rw [run_cons_ended stepped, stepped] at ran
      cases ran
    | some next =>
      rw [run_cons_next stepped] at ran
      have later := passed.2
      rw [stepped] at later
      have met := ih later rfl ran
      rwa [List.append_assoc, List.singleton_append] at met

/-- A property of the state and of everything fed and emitted so far, kept by
every step that meets the condition, holds wherever a run meeting it ends. -/
theorem run_history (inv : List ι → List ο → σ → Prop) {condition : List ι → σ → ι → Prop}
    (keeps : ∀ seen out s input s', inv seen out s → condition seen s input →
      (step s input).next = some s' → inv (seen ++ [input]) (out ++ (step s input).out) s')
    {seen : List ι} {out : List ο} (start : inv seen out s)
    (all : Throughout (fun before => condition (seen ++ before)) step s inputs)
    (ran : (run step s inputs).next = some s') :
    inv (seen ++ inputs) (out ++ (run step s inputs).out) s' := by
  induction inputs using List.reverseRecOn generalizing s' with
  | nil =>
    cases ran
    simpa using start
  | append_singleton inputs input ih =>
    cases reached : (run step s inputs).next with
    | none =>
      rw [run_append, Outcome.andThen, reached] at ran
      exact absurd (reached.symm.trans ran) (by simp)
    | some middle =>
      have before := ih (throughout_left all) reached
      have meets := all inputs input [] middle rfl reached
      rw [run_append_next reached, run_singleton] at ran ⊢
      have now := keeps _ _ middle input s' before meets ran
      simpa only [List.append_assoc] using now

/-- The same for a property that does not look at what was emitted. -/
theorem run_fed (inv : List ι → σ → Prop) {condition : List ι → σ → ι → Prop}
    (keeps : ∀ seen s input s', inv seen s → condition seen s input →
      (step s input).next = some s' → inv (seen ++ [input]) s')
    (start : inv [] s) (all : Throughout condition step s inputs)
    (ran : (run step s inputs).next = some s') : inv inputs s' :=
  @run_history σ ι ο step s s' inputs (fun seen _ s => inv seen s) condition
    (fun seen _ => keeps seen) [] [] start all ran

/-- The property held in some state that the run has passed. -/
def Passed (property : σ → Prop) (step : σ → ι → Outcome σ ο) (s : σ) (inputs : List ι) : Prop :=
  ∃ before after middle, inputs = before ++ after ∧ (run step s before).next = some middle ∧
    property middle

theorem Passed.append {property : σ → Prop} (passed : Passed property step s left)
    (right : List ι) : Passed property step s (left ++ right) := by
  obtain ⟨before, after, middle, rfl, ran, holds⟩ := passed
  exact ⟨before, after ++ right, middle, List.append_assoc .., ran, holds⟩

theorem passed_here {property : σ → Prop} (ran : (run step s inputs).next = some s')
    (holds : property s') : Passed property step s inputs :=
  ⟨inputs, [], s', (List.append_nil inputs).symm, ran, holds⟩

/-- A property that may look back on the run so far, kept by every step, holds wherever
a run ends. -/
theorem run_recalling {start : σ} (inv : List ι → σ → Prop)
    (keeps : ∀ seen s input s', (run step start seen).next = some s → inv seen s →
      (step s input).next = some s' → inv (seen ++ [input]) s')
    (begun : inv [] start) (ran : (run step start inputs).next = some s') : inv inputs s' := by
  have both := @run_fed _ _ _ step start s' inputs
    (fun seen s => (run step start seen).next = some s ∧ inv seen s) (fun _ _ _ => True)
    (fun seen s input s' held _ stepped => ?_) ⟨rfl, begun⟩ (fun _ _ _ _ _ _ => trivial) ran
  · exact both.2
  · refine ⟨?_, keeps seen s input s' held.1 held.2 stepped⟩
    rw [run_append_next held.1, run_singleton]
    exact stepped

/-- Whatever such a run emits is emitted where the property holds. -/
theorem emitted_within (inv : List ι → List ο → σ → Prop) {condition : List ι → σ → ι → Prop}
    (keeps : ∀ seen out s input s', inv seen out s → condition seen s input →
      (step s input).next = some s' → inv (seen ++ [input]) (out ++ (step s input).out) s')
    (start : inv [] [] s) (all : Throughout condition step s inputs) {left right : List ο} {event : ο}
    (split : (run step s inputs).out = left ++ event :: right) :
    ∃ before input middle out pre post, inv before out middle ∧ condition before middle input ∧
      (step middle input).out = pre ++ event :: post ∧ left = out ++ pre := by
  obtain ⟨before, input, after, middle, pre, post, rfl, ran, emitted, rfl⟩ := emitted_at split
  have held := run_history inv keeps start (throughout_left all) ran
  exact ⟨before, input, middle, _, pre, post, held, all _ _ _ _ rfl ran, emitted, rfl⟩

/-! ### The last sign of a run -/

/-- The last sign given by the steps of a run, with what each of them finds. -/
def lastSign {α : Type*} (sign : σ → ι → Option α) (step : σ → ι → Outcome σ ο) :
    σ → List ι → Option α
  | _, [] => none
  | s, input :: rest =>
    ((step s input).next.bind fun s' => lastSign sign step s' rest).or (sign s input)

/-- One more step gives the last sign if it gives one. -/
theorem lastSign_append {α : Type*} {sign : σ → ι → Option α}
    (ran : (run step s inputs).next = some s') (input : ι) :
    lastSign sign step s (inputs ++ [input]) = (sign s' input).or (lastSign sign step s inputs) := by
  induction inputs generalizing s with
  | nil =>
    cases ran
    simp [lastSign]
  | cons first inputs ih =>
    obtain ⟨middle, stepped, later, _⟩ := ran_cons ran
    simp only [List.cons_append, lastSign, stepped, Option.bind_some, ih later, Option.or_assoc]

/-! ### Readings -/

/-- What is read off the steps of a run, in order. -/
def readings {α : Type*} (read : ι → Outcome σ ο → Option α) (step : σ → ι → Outcome σ ο) :
    σ → List ι → List α
  | _, [] => []
  | s, input :: rest => (read input (step s input)).toList ++
    match (step s input).next with
    | none => []
    | some s' => readings read step s' rest

/-- When the state records the latest reading and a new one is related to the one
recorded, consecutive readings are related. -/
theorem readings_chain {α : Type*} {read : ι → Outcome σ ο → Option α} {r : α → α → Prop}
    (recorded : σ → α → Prop)
    (kept : ∀ s input s' latest, (step s input).next = some s' →
      read input (step s input) = none → recorded s latest → recorded s' latest)
    (renewed : ∀ s input new, read input (step s input) = some new →
      (∀ latest, recorded s latest → r latest new) ∧
        ∀ s', (step s input).next = some s' → recorded s' new) :
    (readings read step s inputs).IsChain r ∧
      ∀ latest, recorded s latest → ∀ new ∈ (readings read step s inputs).head?, r latest new := by
  induction inputs generalizing s with
  | nil => exact ⟨.nil, by simp [readings]⟩
  | cons input inputs ih =>
    cases reading : read input (step s input) with
    | none =>
      cases stepped : (step s input).next with
      | none => simp [readings, reading, stepped]
      | some s' =>
        have rest : readings read step s (input :: inputs) = readings read step s' inputs := by
          simp [readings, reading, stepped]
        rw [rest]
        exact ⟨ih.1, fun latest before => ih.2 latest (kept s input s' latest stepped reading before)⟩
    | some new =>
      obtain ⟨related, after⟩ := renewed s input new reading
      cases stepped : (step s input).next with
      | none =>
        simp only [readings, reading, stepped, Option.toList_some, List.append_nil]
        exact ⟨.singleton new, by simpa using related⟩
      | some s' =>
        have rest : readings read step s (input :: inputs) = new :: readings read step s' inputs := by
          simp [readings, reading, stepped]
        rw [rest]
        refine ⟨List.isChain_cons.mpr ⟨ih.2 new (after s' stepped), ih.1⟩, ?_⟩
        simpa using related

/-! ### Observations kept apart -/

variable {first again between : ο → Prop} {trace later : List ο}

/-- `again` is not observed before `between` has been. -/
def Blocked (again between : ο → Prop) (trace : List ο) : Prop :=
  ∀ pre y post, trace = pre ++ y :: post → again y → ∃ z ∈ pre, between z

/-- After an observation of `first`, `again` is not observed before `between`
has been. -/
def Separated (first again between : ο → Prop) (trace : List ο) : Prop :=
  ∀ pre x rest, trace = pre ++ x :: rest → first x → Blocked again between rest

theorem blocked_nil : Blocked again between [] := by
  intro pre y post split
  simp at split

/-- A blocked trace stays blocked when what follows is blocked as well, or when
the separating observation has already been made. -/
theorem blocked_append (head : Blocked again between trace)
    (tail : (∃ z ∈ trace, between z) ∨ Blocked again between later) :
    Blocked again between (trace ++ later) := by
  intro pre y post split repeated
  rcases List.append_eq_append_iff.mp split with ⟨front, rfl, rest⟩ | ⟨back, rfl, rest⟩
  · rcases tail with ⟨z, member, separates⟩ | tail
    · exact ⟨z, List.mem_append_left _ member, separates⟩
    · obtain ⟨z, member, separates⟩ := tail front y post rest repeated
      exact ⟨z, List.mem_append_right _ member, separates⟩
  · cases back with
    | nil =>
      rcases tail with ⟨z, member, separates⟩ | tail
      · exact ⟨z, by simpa using member, separates⟩
      · obtain ⟨z, member, _⟩ := tail [] y post (by simpa using rest.symm) repeated
        cases member
    | cons head' back =>
      obtain ⟨rfl, rfl⟩ := List.cons.inj rest
      exact head pre y back rfl repeated

theorem separated_nil : Separated first again between [] := by
  intro pre x rest split
  simp at split

/-- Two separated traces join to a separated one when every `first` of the
earlier part has been answered there or still blocks the later part. -/
theorem separated_append (head : Separated first again between trace)
    (tail : Separated first again between later)
    (across : ∀ pre x rest, trace = pre ++ x :: rest → first x →
      (∃ z ∈ rest, between z) ∨ Blocked again between later) :
    Separated first again between (trace ++ later) := by
  intro pre x rest split begun
  rcases List.append_eq_append_iff.mp split with ⟨front, rfl, after⟩ | ⟨back, rfl, after⟩
  · exact tail front x rest after begun
  · cases back with
    | nil => exact tail [] x rest (by simpa using after.symm) begun
    | cons head' back =>
      obtain ⟨rfl, rfl⟩ := List.cons.inj after
      exact blocked_append (head pre x back rfl begun) (across pre x back rfl begun)

/-- Observations that are kept apart stay so when only part of each is looked at. -/
theorem separated_map (view : ο → ο') (first again between : ο' → Prop)
    (separated : Separated (fun x => first (view x)) (fun x => again (view x))
      (fun x => between (view x)) trace) : Separated first again between (trace.map view) := by
  intro pre x rest split begun mid y post later repeated
  obtain ⟨pre, tail, rfl, rfl, here⟩ := List.map_eq_append_iff.mp split
  obtain ⟨x, rest, rfl, rfl, rfl⟩ := List.map_eq_cons_iff.mp here
  obtain ⟨mid, tail, rfl, rfl, there⟩ := List.map_eq_append_iff.mp later
  obtain ⟨y, post, rfl, rfl, rfl⟩ := List.map_eq_cons_iff.mp there
  obtain ⟨z, member, separates⟩ := separated pre x _ rfl begun mid y post rfl repeated
  exact ⟨view z, List.mem_map_of_mem member, separates⟩

/-- How a machine keeps two observations apart: `first` makes `held` true,
`held` stays true and forbids `again` until `between` is observed. -/
structure Guards (step : σ → ι → Outcome σ ο) (inv held : σ → Prop)
    (first again between : ο → Prop) : Prop where
  invariant : ∀ s input s', inv s → (step s input).next = some s' → inv s'
  within : ∀ s input, inv s → Separated first again between (step s input).out
  begins : ∀ s input s' pre x rest, inv s → (step s input).next = some s' →
    (step s input).out = pre ++ x :: rest → first x → (∀ z ∈ rest, ¬ between z) → held s'
  keeps : ∀ s input s', inv s → held s → (step s input).next = some s' →
    (∀ z ∈ (step s input).out, ¬ between z) → held s'
  blocks : ∀ s input, inv s → held s → Blocked again between (step s input).out

variable {inv held : σ → Prop}

/-- From a state that holds the guard, a run does not repeat before the
separating observation. -/
theorem Guards.blocked (guards : Guards step inv held first again between) (start : inv s)
    (holds : held s) (inputs : List ι) : Blocked again between (run step s inputs).out := by
  induction inputs generalizing s with
  | nil => exact blocked_nil
  | cons input inputs ih =>
    have now := guards.blocks s input start holds
    cases stepped : (step s input).next with
    | none =>
      rw [run_cons_ended stepped]
      exact now
    | some middle =>
      rw [run_cons_next stepped]
      refine blocked_append now ?_
      by_cases answered : ∃ z ∈ (step s input).out, between z
      · exact Or.inl answered
      · have silent : ∀ z ∈ (step s input).out, ¬ between z :=
          fun z member separates => answered ⟨z, member, separates⟩
        exact Or.inr (ih (guards.invariant s input middle start stepped)
          (guards.keeps s input middle start holds stepped silent))

/-- Along every run, `first` and `again` are kept apart by `between`. -/
theorem Guards.separated (guards : Guards step inv held first again between) (start : inv s)
    (inputs : List ι) : Separated first again between (run step s inputs).out := by
  induction inputs generalizing s with
  | nil => exact separated_nil
  | cons input inputs ih =>
    have now := guards.within s input start
    cases stepped : (step s input).next with
    | none =>
      rw [run_cons_ended stepped]
      exact now
    | some middle =>
      have next := guards.invariant s input middle start stepped
      rw [run_cons_next stepped]
      refine separated_append now (ih next) ?_
      intro pre x rest split begun
      by_cases answered : ∃ z ∈ rest, between z
      · exact Or.inl answered
      · have silent : ∀ z ∈ rest, ¬ between z :=
          fun z member separates => answered ⟨z, member, separates⟩
        exact Or.inr (guards.blocked next
          (guards.begins s input middle pre x rest start stepped split begun silent) inputs)

private theorem Guards.held_after (guards : Guards step inv held first again between)
    (start : inv s) (holds : held s) (ran : (run step s inputs).next = some s')
    (silent : ∀ z ∈ (run step s inputs).out, ¬ between z) : held s' := by
  have keeps : ∀ s input s', inv s ∧ held s → True → (step s input).next = some s' →
      (∀ z ∈ (step s input).out, ¬ between z) → inv s' ∧ held s' := by
    intro s input s' both _ stepped silent
    exact ⟨guards.invariant s input s' both.1 stepped,
      guards.keeps s input s' both.1 both.2 stepped silent⟩
  exact (run_quiet (fun s => inv s ∧ held s) keeps ⟨start, holds⟩ (along_of_all fun _ _ _ => trivial) ran silent).2

/-- As long as the separating observation has not followed `first`, the machine
still holds the guard. -/
theorem Guards.outstanding (guards : Guards step inv held first again between)
    (start : inv s) {pre rest : List ο} {x : ο} (ran : (run step s inputs).next = some s')
    (split : (run step s inputs).out = pre ++ x :: rest) (begun : first x)
    (silent : ∀ z ∈ rest, ¬ between z) : held s' := by
  induction inputs generalizing s pre with
  | nil => simp at split
  | cons input inputs ih =>
    cases stepped : (step s input).next with
    | none =>
      rw [run_cons_ended stepped, stepped] at ran
      cases ran
    | some middle =>
      have next := guards.invariant s input middle start stepped
      rw [run_cons_next stepped] at ran split
      rcases List.append_eq_append_iff.mp split with ⟨front, rfl, after⟩ | ⟨back, here, after⟩
      · exact ih next ran after
      · cases back with
        | nil =>
          have later : (run step middle inputs).out = [] ++ x :: rest := by
            simpa using after.symm
          exact ih next ran later
        | cons head back =>
          obtain ⟨rfl, rfl⟩ := List.cons.inj after
          have held' := guards.begins s input middle pre x back start stepped here begun
            fun z member => silent z (List.mem_append_left _ member)
          exact guards.held_after next held' ran
            fun z member => silent z (List.mem_append_right _ member)

end QuobyteMesos.Machine
