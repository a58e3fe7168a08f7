import Mathlib.Data.List.Forall2
import Mathlib.Data.List.Induction

/-! A value in memory, kept in a versioned variable by writing it back.

Every write is a call of three steps, which the calls of other threads may
interleave with: change the memory and print it, fetch the variable, store the
text under the version fetched. A store whose version has passed changes
nothing, and nobody hears of it. Since the text is older than the version, an
outdated text can be stored under a current one. `settled_recovers_iff` says
which interleavings leave the variable behind the memory, and `similar_run` that
looking at part of the data commutes with all of it. The module knows nothing of
what is stored. -/
namespace QuobyteMesos.WriteBack

variable {δ τ γ : Type}

/-- A text form that can be read back. -/
structure TextFormat (δ τ : Type) where
  print : δ → τ
  parse : τ → Option δ
  round_trip : ∀ data, parse (print data) = some data

/-- How far a call has come. -/
inductive Call (τ : Type) where
  | serialized (text : τ)
  | fetched (text : τ) (version : ℕ)
  | returned

/-- The memory, the variable with its version, and the calls in the order in which
they began. -/
structure State (δ τ : Type) where
  memory : δ
  value : τ
  version : ℕ
  calls : List (Call τ)

/-- One step of some call: a new one changes the memory, an earlier one goes on. -/
inductive Step (γ : Type) where
  | update (change : γ)
  | fetch (call : ℕ)
  | store (call : ℕ)

variable (format : TextFormat δ τ) (apply : γ → δ → δ)

/-- A call that is not ready for the step is left as it is. -/
def step (s : State δ τ) : Step γ → State δ τ
  | .update change =>
    { s with
      memory := apply change s.memory
      calls := s.calls ++ [.serialized (format.print (apply change s.memory))] }
  | .fetch call =>
    match s.calls[call]? with
    | some (.serialized text) => { s with calls := s.calls.set call (.fetched text s.version) }
    | some (.fetched ..) | some .returned | none => s
  | .store call =>
    match s.calls[call]? with
    | some (.fetched text version) =>
      if version = s.version then
        { s with value := text, version := s.version + 1, calls := s.calls.set call .returned }
      else
        { s with calls := s.calls.set call .returned }
    | some (.serialized _) | some .returned | none => s

def run (s : State δ τ) (steps : List (Step γ)) : State δ τ := steps.foldl (step format apply) s

/-- The text holds what is in memory. -/
def Current (s : State δ τ) (text : τ) : Prop := format.parse text = some s.memory

/-- A call that has printed what is in memory has yet to fetch. -/
def Waiting (s : State δ τ) : Prop := ∃ text, .serialized text ∈ s.calls ∧ Current format s text

/-- The store takes effect and puts an outdated text into the variable, with no call
left that would fetch the new version for a current one. -/
def Spoils (s : State δ τ) (call : ℕ) : Prop :=
  ∃ text, s.calls[call]? = some (.fetched text s.version) ∧ ¬ Current format s text ∧
    ¬ Waiting format s

/-- Every call has returned. -/
def Settled (s : State δ τ) : Prop := ∀ call ∈ s.calls, call = .returned

/-- What is in memory is stored or will be, unless something gets in between. -/
def Secured (s : State δ τ) : Prop :=
  Current format s s.value ∨ Waiting format s ∨
    ∃ text, .fetched text s.version ∈ s.calls ∧ Current format s text

/-- No call has fetched a version that is yet to come. -/
def Bounded (s : State δ τ) : Prop := ∀ text version, .fetched text version ∈ s.calls → version ≤ s.version

variable {format apply} {s : State δ τ} {call : ℕ} {change : γ} {steps : List (Step γ)}

/-! ### Calls that go on -/

private theorem mem_set_of_ne {calls : List (Call τ)} {old new other : Call τ}
    (here : calls[call]? = some old) (differs : other ≠ old) (member : other ∈ calls) :
    other ∈ calls.set call new := by
  obtain ⟨position, bound, found⟩ := List.mem_iff_getElem.mp member
  have apart : call ≠ position := by
    rintro rfl
    rw [List.getElem?_eq_getElem bound, found] at here
    exact differs (Option.some.inj here)
  refine List.mem_iff_getElem.mpr ⟨position, by simpa using bound, ?_⟩
  rw [List.getElem_set_ne apart]
  exact found

/-- A call that takes a step is replaced, and all others are as they were. -/
private theorem mem_set_iff {calls : List (Call τ)} {old new other : Call τ}
    (here : calls[call]? = some old) (fresh : other ≠ new) (differs : other ≠ old) :
    other ∈ calls.set call new ↔ other ∈ calls := by
  constructor
  · intro member
    rcases List.mem_or_eq_of_mem_set member with earlier | same
    · exact earlier
    · exact absurd same fresh
  · exact mem_set_of_ne here differs

/-! ### One step -/

variable (format apply) in
/-- A fetch has no effect, or a printed call takes the version that is there. -/
theorem fetch_cases (s : State δ τ) (call : ℕ) :
    step format apply s (.fetch call) = s ∨
    ∃ text, s.calls[call]? = some (.serialized text) ∧ step format apply s (.fetch call) =
      { s with calls := s.calls.set call (.fetched text s.version) } := by
  cases here : s.calls[call]? with
  | none => exact .inl (by simp only [step, here])
  | some found =>
    cases found with
    | fetched | returned => exact .inl (by simp only [step, here])
    | serialized text => exact .inr ⟨text, rfl, by simp only [step, here]⟩

variable (format apply) in
/-- A store is not due, comes too late, or takes effect. -/
theorem store_cases (s : State δ τ) (call : ℕ) :
    (step format apply s (.store call) = s ∧
      ∀ text version, s.calls[call]? ≠ some (.fetched text version)) ∨
    (∃ text version, s.calls[call]? = some (.fetched text version) ∧ version ≠ s.version ∧
      step format apply s (.store call) = { s with calls := s.calls.set call .returned }) ∨
    ∃ text, s.calls[call]? = some (.fetched text s.version) ∧
      step format apply s (.store call) = { s with
        value := text, version := s.version + 1, calls := s.calls.set call .returned } := by
  cases here : s.calls[call]? with
  | none => exact .inl ⟨by simp only [step, here], by simp⟩
  | some found =>
    cases found with
    | serialized | returned => exact .inl ⟨by simp only [step, here], by simp⟩
    | fetched text version =>
      by_cases same : version = s.version
      · subst same
        exact .inr (.inr ⟨text, rfl, by simp only [step, here, if_true]⟩)
      · exact .inr (.inl ⟨text, version, rfl, same, by simp only [step, here, same, if_false]⟩)

theorem secured_update : Secured format (step format apply s (.update change)) := by
  refine .inr (.inl ⟨format.print (apply change s.memory), ?_, format.round_trip _⟩)
  exact List.mem_append_right _ (List.mem_singleton_self _)

/-- A fetch changes no text and takes the version that is there. -/
theorem secured_fetch :
    Secured format (step format apply s (.fetch call)) ↔ Secured format s := by
  rcases fetch_cases format apply s call with idle | ⟨text, here, fetched⟩
  · rw [idle]
  · rw [fetched]
    constructor
    · rintro (stored | ⟨other, member, current⟩ | ⟨other, member, current⟩)
      · exact .inl stored
      · refine .inr (.inl ⟨other, ?_, current⟩)
        exact (List.mem_or_eq_of_mem_set member).resolve_right (by simp)
      · rcases List.mem_or_eq_of_mem_set member with earlier | same
        · exact .inr (.inr ⟨other, earlier, current⟩)
        · cases same
          exact .inr (.inl ⟨text, List.mem_of_getElem? here, current⟩)
    · rintro (stored | ⟨other, member, current⟩ | ⟨other, member, current⟩)
      · exact .inl stored
      · by_cases same : Call.serialized other = .serialized text
        · cases same
          have bound : call < s.calls.length := (List.getElem?_eq_some_iff.mp here).1
          exact .inr (.inr ⟨text, List.mem_set bound _, current⟩)
        · exact .inr (.inl ⟨other, mem_set_of_ne here same member, current⟩)
      · exact .inr (.inr ⟨other, mem_set_of_ne here (by simp) member, current⟩)

/-- A store whose version has passed changes nothing that counts. -/
private theorem secured_rejected {text : τ} {version : ℕ}
    (here : s.calls[call]? = some (.fetched text version)) (passed : version ≠ s.version) :
    Secured format { s with calls := s.calls.set call .returned } ↔ Secured format s := by
  have waiting (other : τ) : Call.serialized other ∈ s.calls.set call .returned ↔
      .serialized other ∈ s.calls := mem_set_iff here (by simp) (by simp)
  have holding (other : τ) : Call.fetched other s.version ∈ s.calls.set call .returned ↔
      .fetched other s.version ∈ s.calls := by
    apply mem_set_iff here (by simp)
    rintro ⟨⟩
    exact passed rfl
  simp only [Secured, Waiting, Current, waiting, holding]

/-- A store that takes effect leaves the memory secured exactly when it stored it
or some call still will. -/
private theorem secured_accepted (bounded : Bounded s) {text : τ}
    (here : s.calls[call]? = some (.fetched text s.version)) :
    Secured format { s with
      value := text, version := s.version + 1, calls := s.calls.set call .returned } ↔
      Current format s text ∨ Waiting format s := by
  have waiting (other : τ) : Call.serialized other ∈ s.calls.set call .returned ↔
      .serialized other ∈ s.calls := mem_set_iff here (by simp) (by simp)
  have ahead (other : τ) : Call.fetched other (s.version + 1) ∉ s.calls.set call .returned := by
    intro member
    rcases List.mem_or_eq_of_mem_set member with earlier | same
    · have passed := bounded other (s.version + 1) earlier
      omega
    · cases same
  simp only [Secured, Waiting, Current, waiting, ahead, false_and, exists_false, or_false]

theorem secured_store (bounded : Bounded s) :
    Secured format (step format apply s (.store call)) ↔
      Secured format s ∧ ¬ Spoils format s call := by
  rcases store_cases format apply s call with ⟨idle, undue⟩ | ⟨text, version, here, passed, late⟩ |
    ⟨text, here, taken⟩
  · have harmless : ¬ Spoils format s call := by
      rintro ⟨text, due, _⟩
      exact undue text s.version due
    rw [idle, and_iff_left harmless]
  · have harmless : ¬ Spoils format s call := by
      rintro ⟨other, same, _⟩
      rw [here] at same
      cases same
      exact passed rfl
    rw [late, secured_rejected here passed, and_iff_left harmless]
  · have holds : Current format s text → Secured format s := fun current =>
      .inr (.inr ⟨text, List.mem_of_getElem? here, current⟩)
    have waits : Waiting format s → Secured format s := fun waiting => .inr (.inl waiting)
    have spoils : Spoils format s call ↔ ¬ (Current format s text ∨ Waiting format s) := by
      simp [Spoils, here, not_or]
    rw [taken, secured_accepted bounded here, spoils, not_not]
    exact ⟨fun either => ⟨either.elim holds waits, either⟩, And.right⟩

theorem bounded_step (bounded : Bounded s) (next : Step γ) : Bounded (step format apply s next) := by
  intro text version member
  cases next with
  | update change =>
    rcases List.mem_append.mp member with earlier | last
    · exact bounded text version earlier
    · simp at last
  | fetch call =>
    rcases fetch_cases format apply s call with idle | ⟨other, here, fetched⟩
    · rw [idle] at member ⊢
      exact bounded text version member
    · rw [fetched] at member ⊢
      rcases List.mem_or_eq_of_mem_set member with earlier | same
      · exact bounded text version earlier
      · cases same
        exact Nat.le_refl _
  | store call =>
    have kept : ∀ other ∈ s.calls.set call .returned, other ∈ s.calls ∨ other = .returned :=
      fun _ => List.mem_or_eq_of_mem_set
    rcases store_cases format apply s call with ⟨idle, _⟩ | ⟨_, _, _, _, late⟩ | ⟨_, _, taken⟩
    · rw [idle] at member ⊢
      exact bounded text version member
    · rw [late] at member ⊢
      exact bounded text version ((kept _ member).resolve_right (by simp))
    · rw [taken] at member ⊢
      have passed := bounded text version ((kept _ member).resolve_right (by simp))
      show version ≤ s.version + 1
      omega

/-! ### All interleavings -/

@[simp] theorem run_append_singleton (next : Step γ) :
    run format apply s (steps ++ [next]) = step format apply (run format apply s steps) next := by
  simp [run]

theorem bounded_run (bounded : Bounded s) (steps : List (Step γ)) :
    Bounded (run format apply s steps) := by
  induction steps using List.reverseRecOn with
  | nil => exact bounded
  | append_singleton steps next ih =>
    rw [run_append_singleton]
    exact bounded_step ih next

/-- Whatever a store spoils, a later call prints anew. -/
def Repaired (format : TextFormat δ τ) (apply : γ → δ → δ) (s : State δ τ) (steps : List (Step γ)) :
    Prop :=
  ∀ before call after, steps = before ++ .store call :: after →
    Spoils format (run format apply s before) call → ∃ change, .update change ∈ after

/-- A step of a longer run is its last one or belongs to the shorter run. -/
private theorem split_snoc {before after : List (Step γ)} {next here : Step γ}
    (split : steps ++ [next] = before ++ here :: after) :
    (after = [] ∧ before = steps ∧ next = here) ∨
      ∃ rest, after = rest ++ [next] ∧ steps = before ++ here :: rest := by
  rcases List.eq_nil_or_concat after with rfl | ⟨rest, last, rfl⟩
  · obtain ⟨same, ends⟩ := List.append_inj' split rfl
    exact .inl ⟨rfl, same.symm, List.singleton_inj.mp ends⟩
  · have longer : steps ++ [next] = (before ++ here :: rest) ++ [last] := by
      simpa using split
    obtain ⟨same, ends⟩ := List.append_inj' longer rfl
    rw [List.singleton_inj.mp ends]
    exact .inr ⟨rest, List.concat_eq_append, same⟩

private theorem repaired_snoc (next : Step γ) :
    Repaired format apply s (steps ++ [next]) ↔ (∃ change, next = .update change) ∨
      Repaired format apply s steps ∧
        ∀ call, next = .store call → ¬ Spoils format (run format apply s steps) call := by
  constructor
  · intro repaired
    by_cases updates : ∃ change, next = .update change
    · exact .inl updates
    refine .inr ⟨?_, ?_⟩
    · intro before call after split spoils
      obtain ⟨change, member⟩ := repaired before call (after ++ [next]) (by rw [split]; simp) spoils
      rcases List.mem_append.mp member with earlier | last
      · exact ⟨change, earlier⟩
      · exact absurd ⟨change, (List.mem_singleton.mp last).symm⟩ updates
    · rintro call rfl spoils
      obtain ⟨change, member⟩ := repaired steps call [] rfl spoils
      cases member
  · rintro (⟨change, rfl⟩ | ⟨repaired, harmless⟩) before call after split spoils
    · rcases split_snoc split with ⟨_, _, other⟩ | ⟨rest, rfl, _⟩
      · cases other
      · exact ⟨change, by simp⟩
    · rcases split_snoc split with ⟨_, rfl, last⟩ | ⟨rest, rfl, earlier⟩
      · exact absurd spoils (harmless call last)
      · obtain ⟨change, member⟩ := repaired before call rest earlier spoils
        exact ⟨change, List.mem_append_left _ member⟩

/-- Along every interleaving the memory is secured as long as what a store spoils is
printed anew. -/
theorem secured_run_iff (bounded : Bounded s) (secured : Secured format s) (steps : List (Step γ)) :
    Secured format (run format apply s steps) ↔ Repaired format apply s steps := by
  induction steps using List.reverseRecOn with
  | nil =>
    have unspoiled : Repaired format apply s ([] : List (Step γ)) := by
      intro before call after split
      simp at split
    exact iff_of_true secured unspoiled
  | append_singleton steps next ih =>
    rw [run_append_singleton, repaired_snoc, ← ih]
    cases next with
    | update change => simp [secured_update]
    | fetch call => simp [secured_fetch]
    | store call => simp [secured_store (bounded_run bounded steps)]

/-- Once every call has returned, the variable holds what is in memory if and only
if whatever a store spoiled has been printed anew. -/
theorem settled_recovers_iff (bounded : Bounded s) (loaded : Current format s s.value)
    (settled : Settled (run format apply s steps)) :
    Current format (run format apply s steps) (run format apply s steps).value ↔
      Repaired format apply s steps := by
  rw [← secured_run_iff bounded (.inl loaded)]
  constructor
  · exact .inl
  · rintro (stored | ⟨text, member, _⟩ | ⟨text, member, _⟩)
    · exact stored
    · cases settled _ member
    · cases settled _ member

/-! ### A view of the data -/

variable {δ' τ' : Type} {format' : TextFormat δ' τ'} {apply' : γ → δ' → δ'} {view : δ → δ'}

/-- The texts are read as data and as what is seen of it. -/
def SameText (format : TextFormat δ τ) (format' : TextFormat δ' τ') (view : δ → δ') (text : τ)
    (text' : τ') : Prop :=
  (format.parse text).map view = format'.parse text'

inductive SameCall (format : TextFormat δ τ) (format' : TextFormat δ' τ') (view : δ → δ') :
    Call τ → Call τ' → Prop where
  | serialized {text : τ} {text' : τ'} (same : SameText format format' view text text') :
      SameCall format format' view (.serialized text) (.serialized text')
  | fetched {text : τ} {text' : τ'} (version : ℕ) (same : SameText format format' view text text') :
      SameCall format format' view (.fetched text version) (.fetched text' version)
  | returned : SameCall format format' view .returned .returned

/-- The same calls have come as far, on data and on what is seen of it. -/
structure Similar (format : TextFormat δ τ) (format' : TextFormat δ' τ') (view : δ → δ')
    (s : State δ τ) (s' : State δ' τ') : Prop where
  memory : view s.memory = s'.memory
  value : SameText format format' view s.value s'.value
  version : s.version = s'.version
  calls : List.Forall₂ (SameCall format format' view) s.calls s'.calls

private theorem forall₂_getElem? {α β : Type} {r : α → β → Prop} {xs : List α} {ys : List β}
    (related : List.Forall₂ r xs ys) (position : ℕ) :
    (xs[position]? = none ∧ ys[position]? = none) ∨
      ∃ x y, xs[position]? = some x ∧ ys[position]? = some y ∧ r x y := by
  induction related generalizing position with
  | nil => exact .inl ⟨rfl, rfl⟩
  | @cons x y _ _ here _ ih =>
    cases position with
    | zero => exact .inr ⟨x, y, rfl, rfl, here⟩
    | succ position => simpa using ih position

private theorem forall₂_set {α β : Type} {r : α → β → Prop} {xs : List α} {ys : List β} {x : α} {y : β}
    (related : List.Forall₂ r xs ys) (new : r x y) (position : ℕ) :
    List.Forall₂ r (xs.set position x) (ys.set position y) := by
  induction related generalizing position with
  | nil => exact .nil
  | cons here later ih =>
    cases position with
    | zero => exact .cons new later
    | succ position => exact .cons here (ih position)

theorem similar_step {s' : State δ' τ'}
    (viewed : ∀ change data, view (apply change data) = apply' change (view data))
    (similar : Similar format format' view s s') (next : Step γ) :
    Similar format format' view (step format apply s next) (step format' apply' s' next) := by
  obtain ⟨memory, value, version, calls⟩ := similar
  have printed {data : δ} {data' : δ'} (same : view data = data') :
      SameText format format' view (format.print data) (format'.print data') := by
    rw [SameText, format.round_trip, format'.round_trip, Option.map_some, same]
  cases next with
  | update change =>
    have changed : view (apply change s.memory) = apply' change s'.memory := by rw [viewed, memory]
    exact ⟨changed, value, version, List.rel_append calls (.cons (.serialized (printed changed)) .nil)⟩
  | fetch call =>
    rcases forall₂_getElem? calls call with ⟨here, here'⟩ | ⟨_, _, here, here', same⟩
    · simp only [step, here, here']
      exact ⟨memory, value, version, calls⟩
    · cases same with
      | serialized same =>
        simp only [step, here, here', ← version]
        exact ⟨memory, value, rfl, forall₂_set calls (.fetched s.version same) call⟩
      | fetched | returned =>
        simp only [step, here, here']
        exact ⟨memory, value, version, calls⟩
  | store call =>
    rcases forall₂_getElem? calls call with ⟨here, here'⟩ | ⟨_, _, here, here', same⟩
    · simp only [step, here, here']
      exact ⟨memory, value, version, calls⟩
    · have gone := forall₂_set calls (.returned : SameCall format format' view .returned .returned) call
      cases same with
      | fetched taken same =>
        simp only [step, here, here', ← version]
        split
        · exact ⟨memory, same, rfl, gone⟩
        · exact ⟨memory, value, rfl, gone⟩
      | serialized | returned =>
        simp only [step, here, here']
        exact ⟨memory, value, version, calls⟩

/-- Every interleaving does to what is seen of the data what it does to the data. -/
theorem similar_run {s' : State δ' τ'}
    (viewed : ∀ change data, view (apply change data) = apply' change (view data))
    (similar : Similar format format' view s s') (steps : List (Step γ)) :
    Similar format format' view (run format apply s steps) (run format' apply' s' steps) := by
  induction steps using List.reverseRecOn with
  | nil => exact similar
  | append_singleton steps next ih =>
    rw [run_append_singleton, run_append_singleton]
    exact similar_step viewed ih next

end QuobyteMesos.WriteBack
