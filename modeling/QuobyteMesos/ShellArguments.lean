import QuobyteMesos.Shell

/-! What can reach a command of a shell, whatever text it runs.

The characters that mean something to the scanner do not pass it, so an argument
holds one only if an expansion or a file name brought it in. In surroundings that
bring in none, every argument of every command is free of them (`run_sound`). -/
namespace QuobyteMesos.Shell

variable {surroundings : Surroundings} {nested : Nested} {s s' : State}

/-! ### What reaches a command -/

/-- An argument without a character that means something to the scanner. -/
structure Sound (argument : Text) : Prop where
  some : argument ≠ []
  plain : ∀ c ∈ argument, wordChar c

/-- Nothing but such characters comes from the surroundings. -/
structure Tame (surroundings : Surroundings) : Prop where
  environment : ∀ name, ∀ c ∈ surroundings.environment name, wordChar c
  output : ∀ arguments, ∀ c ∈ surroundings.output arguments, wordChar c
  paths : ∀ field, ∀ path ∈ surroundings.paths field, Sound path
  home : ∀ login directory, surroundings.home login = some directory → ∀ c ∈ directory, wordChar c

structure Sane (s : State) : Prop where
  values : ∀ name, ∀ c ∈ s.values name, wordChar c
  written : ∀ c ∈ s.written, wordChar c
  log : ∀ arguments ∈ s.log, ∀ argument ∈ arguments, Sound argument

def TamePiece : Piece → Prop
  | .lit c => wordChar c
  | .orElse _ alternative => ∀ c ∈ alternative, wordChar c
  | .param _ | .subst _ => True

def TameToken : Token → Prop
  | .word pieces => ∀ piece ∈ pieces, TamePiece piece
  | .op _ => True

/-- The pieces of the word the scanner is in. -/
def Mode.pieces : Mode → List Piece
  | .word pieces | .dollar pieces | .name pieces _ | .brace pieces _ | .paren pieces _ _ => pieces
  | .amp | .pipe => []

private theorem tame_close {pieces : List Piece} (tame : ∀ piece ∈ pieces, TamePiece piece) :
    ∀ token ∈ close pieces, TameToken token := by
  intro token member
  unfold close at member
  split at member
  · cases member
  · obtain rfl := List.mem_singleton.mp member
    exact tame

private theorem tame_snoc {pieces : List Piece} (tame : ∀ piece ∈ pieces, TamePiece piece)
    (piece : Piece) (last : TamePiece piece) : ∀ other ∈ pieces ++ [piece], TamePiece other := by
  intro other member
  rcases List.mem_append.mp member with inside | here
  · exact tame other inside
  · obtain rfl := List.mem_singleton.mp here
    exact last

/-- What a step of the scanner hands on. -/
private def TameStep (result : List Token × Mode) : Prop :=
  (∀ token ∈ result.1, TameToken token) ∧ ∀ piece ∈ result.2.pieces, TamePiece piece

private theorem tame_wordStep {pieces : List Piece} {c : Char} {result : List Token × Mode}
    (tame : ∀ piece ∈ pieces, TamePiece piece) (stepped : wordStep pieces c = some result) :
    TameStep result := by
  have closed := tame_close tame
  have behind (operator : Operator) : ∀ token ∈ close pieces ++ [.op operator], TameToken token := by
    intro token member
    rcases List.mem_append.mp member with inside | here
    · exact closed token inside
    · rw [List.mem_singleton.mp here]
      trivial
  unfold wordStep at stepped
  split_ifs at stepped with blank newline semi amp pipe dollar plain
  · cases stepped
    exact ⟨closed, by simp [Mode.pieces]⟩
  · cases stepped
    exact ⟨behind _, by simp [Mode.pieces]⟩
  · cases stepped
    exact ⟨behind _, by simp [Mode.pieces]⟩
  · cases stepped
    exact ⟨closed, by simp [Mode.pieces]⟩
  · cases stepped
    exact ⟨closed, by simp [Mode.pieces]⟩
  · cases stepped
    exact ⟨by simp, tame⟩
  · cases stepped
    exact ⟨by simp, tame_snoc tame (.lit c) plain.1⟩

private theorem tame_parameter {inside : Text} {piece : Piece} (named : parameter inside = some piece) :
    TamePiece piece := by
  unfold parameter at named
  dsimp only at named
  split at named
  · split at named
    · cases named
      trivial
    · cases named
  · split at named
    · rename_i valid
      cases named
      simpa [TamePiece] using valid.2
    · cases named
  · cases named

private theorem tame_step {mode : Mode} {c : Char} {result : List Token × Mode}
    (tame : ∀ piece ∈ mode.pieces, TamePiece piece) (stepped : step mode c = some result) :
    TameStep result := by
  cases mode with
  | word pieces => exact tame_wordStep tame stepped
  | dollar pieces =>
    simp only [step] at stepped
    split_ifs at stepped <;> cases stepped <;> exact ⟨by simp, tame⟩
  | name pieces name =>
    simp only [step] at stepped
    split at stepped
    · cases stepped
      exact ⟨by simp, tame⟩
    · exact tame_wordStep (tame_snoc tame (.param name) trivial) stepped
  | brace pieces inside =>
    simp only [step] at stepped
    split at stepped
    · obtain ⟨piece, named, rfl⟩ := Option.map_eq_some_iff.mp stepped
      exact ⟨by simp, tame_snoc tame piece (tame_parameter named)⟩
    · cases stepped
      exact ⟨by simp, tame⟩
  | paren pieces inside depth =>
    simp only [step] at stepped
    split_ifs at stepped
    · cases stepped
      exact ⟨by simp, tame⟩
    · cases depth with
      | zero =>
        cases stepped
        exact ⟨by simp, tame_snoc tame (.subst inside) trivial⟩
      | succ outer =>
        cases stepped
        exact ⟨by simp, tame⟩
    · cases stepped
      exact ⟨by simp, tame⟩
  | amp =>
    simp only [step] at stepped
    split at stepped
    · cases stepped
      exact ⟨by simp [TameToken], by simp [Mode.pieces]⟩
    · obtain ⟨inner, word, rfl⟩ := Option.map_eq_some_iff.mp stepped
      obtain ⟨scanned, pieces⟩ := tame_wordStep (by simp) word
      exact ⟨by simpa [TameToken] using scanned, pieces⟩
  | pipe =>
    simp only [step] at stepped
    split at stepped
    · cases stepped
      exact ⟨by simp [TameToken], by simp [Mode.pieces]⟩
    · obtain ⟨inner, word, rfl⟩ := Option.map_eq_some_iff.mp stepped
      obtain ⟨scanned, pieces⟩ := tame_wordStep (by simp) word
      exact ⟨by simpa [TameToken] using scanned, pieces⟩

private theorem tame_feed {mode : Mode} {text : Text} {result : List Token × Mode}
    (tame : ∀ piece ∈ mode.pieces, TamePiece piece) (fed : feed mode text = some result) :
    TameStep result := by
  induction text generalizing mode result with
  | nil =>
    cases fed
    exact ⟨by simp, tame⟩
  | cons c text ih =>
    simp only [feed, Option.bind_eq_bind, Option.bind_eq_some_iff, Option.pure_def] at fed
    obtain ⟨⟨first, next⟩, stepped, ⟨later, last⟩, rest, same⟩ := fed
    cases same
    obtain ⟨here, pieces⟩ := tame_step tame stepped
    obtain ⟨there, remaining⟩ := ih pieces rest
    refine ⟨fun token member => ?_, remaining⟩
    exact (List.mem_append.mp member).elim (here token) (there token)

private theorem tame_tokens {text : Text} {scanned : List Token} (read : tokens text = some scanned) :
    ∀ token ∈ scanned, TameToken token := by
  simp only [tokens, Option.bind_eq_bind, Option.bind_eq_some_iff, Option.pure_def] at read
  obtain ⟨⟨first, mode⟩, fed, last, ended, same⟩ := read
  cases same
  have begun : ∀ piece ∈ (Mode.word []).pieces, TamePiece piece := by simp [Mode.pieces]
  obtain ⟨here, pieces⟩ := tame_feed begun fed
  have rest : ∀ token ∈ last, TameToken token := by
    cases mode with
    | word pieces' =>
      cases ended
      exact tame_close pieces
    | name pieces' name =>
      cases ended
      intro token member
      obtain rfl := List.mem_singleton.mp member
      exact tame_snoc pieces (.param name) trivial
    | amp =>
      cases ended
      simp [TameToken]
    | pipe =>
      cases ended
      simp [TameToken]
    | dollar | brace | paren => cases ended
  intro token member
  exact (List.mem_append.mp member).elim (here token) (rest token)

/-- A subshell leaves a sane state behind. -/
private def Safe (nested : Nested) : Prop :=
  ∀ s text s', nested s text = some s' → Sane s → Sane s'

private theorem tame_stripped {written : Text} (plain : ∀ c ∈ written, wordChar c) :
    ∀ c ∈ stripped written, wordChar c := by
  intro c member
  have inside : c ∈ written.reverse.dropWhile (· = '\n') := by simpa [stripped] using member
  exact plain c (by simpa using List.dropWhile_subset _ inside)

private theorem tame_splittable {text : Text} (plain : ∀ c ∈ text, wordChar c) :
    ∀ pair ∈ splittable text, wordChar pair.1 := by
  intro pair member
  obtain ⟨c, inside, rfl⟩ := List.mem_map.mp member
  exact plain c inside

private theorem sane_piece {piece : Piece} {expanded : Expanded} (safe : Safe nested) (sane : Sane s)
    (tame : TamePiece piece) (expands : expandPiece nested s piece = some (s', expanded)) :
    Sane s' ∧ ∀ pair ∈ expanded, wordChar pair.1 := by
  cases piece with
  | lit c =>
    cases expands
    exact ⟨sane, by simpa [literal, TamePiece] using tame⟩
  | param name =>
    cases expands
    exact ⟨sane, tame_splittable (sane.values name)⟩
  | orElse name alternative =>
    cases expands
    refine ⟨sane, tame_splittable ?_⟩
    split
    · exact tame
    · exact sane.values name
  | subst text =>
    simp only [expandPiece, Option.bind_eq_bind, Option.bind_eq_some_iff, Option.pure_def] at expands
    obtain ⟨sub, ran, same⟩ := expands
    cases same
    have inner := safe _ _ _ ran ⟨sane.values, by simp, sane.log⟩
    exact ⟨⟨sane.values, sane.written, inner.log⟩, tame_splittable (tame_stripped inner.written)⟩

private theorem sane_word {pieces : List Piece} {expanded : Expanded} (safe : Safe nested)
    (sane : Sane s) (tame : ∀ piece ∈ pieces, TamePiece piece)
    (expands : expandWord nested s pieces = some (s', expanded)) :
    Sane s' ∧ ∀ pair ∈ expanded, wordChar pair.1 := by
  induction pieces generalizing s expanded with
  | nil =>
    cases expands
    exact ⟨sane, by simp⟩
  | cons piece pieces ih =>
    simp only [expandWord, Option.bind_eq_bind, Option.bind_eq_some_iff, Option.pure_def] at expands
    obtain ⟨⟨inner, first⟩, here, ⟨last, later⟩, rest, same⟩ := expands
    cases same
    obtain ⟨between, plain⟩ := sane_piece safe sane (tame piece (by simp)) here
    obtain ⟨after, remaining⟩ := ih between (fun piece member => tame piece (by simp [member])) rest
    refine ⟨after, fun pair member => ?_⟩
    exact (List.mem_append.mp member).elim (plain pair) (remaining pair)

private theorem sound_arguments {expanded : Expanded} (tame : Tame surroundings)
    (plain : ∀ pair ∈ expanded, wordChar pair.1) :
    ∀ argument ∈ arguments surroundings expanded, Sound argument := by
  intro argument member
  obtain ⟨field, split, globbed⟩ := List.mem_flatMap.mp member
  obtain ⟨part, between, rfl⟩ := List.mem_map.mp split
  obtain ⟨inside, some⟩ := List.mem_filter.mp between
  unfold glob at globbed
  split at globbed
  · exact tame.paths _ argument globbed
  · obtain rfl := List.mem_singleton.mp globbed
    refine ⟨by simpa using some, fun c member => ?_⟩
    obtain ⟨pair, held, rfl⟩ := List.mem_map.mp member
    exact plain pair ((part_of_splitOnP inside).1.subset held)

private theorem tame_textTildes {home : Text → Option Text} {text : Text}
    (homes : ∀ login directory, home login = some directory → ∀ c ∈ directory, wordChar c)
    (plain : ∀ c ∈ text, wordChar c) : ∀ c ∈ textTildes home text, wordChar c := by
  intro c member
  rcases mem_textTildes member with ⟨login, directory, known, inside⟩ | rfl | own
  · exact homes login directory known c inside
  · decide
  · exact plain c own

private theorem tame_tildes {home : Text → Option Text} {pieces : List Piece}
    (homes : ∀ login directory, home login = some directory → ∀ c ∈ directory, wordChar c)
    (plain : ∀ piece ∈ pieces, TamePiece piece) : ∀ piece ∈ valueTildes home pieces, TamePiece piece := by
  intro piece member
  rcases mem_valueTildes member with ⟨login, directory, c, known, inside, rfl⟩ | rfl | ⟨other, listed, rfl⟩
  · exact homes login directory known c inside
  · show wordChar ':'
    decide
  · have tame := plain other listed
    cases other with
    | lit | param | subst => exact tame
    | orElse name alternative => exact tame_textTildes homes tame

/-- An assignment spells its equals sign. -/
private theorem assignment_some {home : Text → Option Text} {word : List Piece} {expanded : Expanded}
    (expands : expandWord nested s (assignmentTildes home word) = some (s', expanded)) :
    expanded.map Prod.fst ≠ [] := by
  obtain ⟨between, first, later, _, value, rfl⟩ := expandWord_parts expands
  simp only [expandWord, expandPiece, Option.bind_eq_bind, Option.bind_some, Option.pure_def,
    Option.bind_eq_some_iff] at value
  obtain ⟨_, _, same⟩ := value
  cases same
  simp [literal]

private theorem sane_argument {declares : Bool} {word : List Piece} {spelled : List Text}
    (tame : Tame surroundings) (safe : Safe nested) (sane : Sane s)
    (plain : ∀ piece ∈ word, TamePiece piece)
    (expands : expandArgument surroundings nested declares s word = some (s', spelled)) :
    Sane s' ∧ ∀ argument ∈ spelled, Sound argument := by
  unfold expandArgument at expands
  split at expands
  · simp only [Option.bind_eq_bind, Option.bind_eq_some_iff, Option.pure_def] at expands
    obtain ⟨⟨inner, expanded⟩, here, same⟩ := expands
    cases same
    have tildes : ∀ piece ∈ assignmentTildes surroundings.home word, TamePiece piece := by
      intro piece member
      rcases List.mem_append.mp member with front | behind
      · exact plain piece (List.takeWhile_subset _ front)
      · rcases List.mem_cons.mp behind with rfl | value
        · show wordChar '='
          decide
        · exact tame_tildes tame.home (fun piece member => plain piece (List.drop_subset _ _ member))
            piece value
    obtain ⟨after, chars⟩ := sane_word safe sane tildes here
    refine ⟨after, fun argument member => ?_⟩
    rw [List.mem_singleton.mp member]
    refine ⟨assignment_some here, fun c inside => ?_⟩
    obtain ⟨pair, held, rfl⟩ := List.mem_map.mp inside
    exact chars pair held
  · split at expands
    · cases expands
    · simp only [Option.bind_eq_bind, Option.bind_eq_some_iff, Option.pure_def] at expands
      obtain ⟨⟨inner, expanded⟩, here, same⟩ := expands
      cases same
      obtain ⟨after, chars⟩ := sane_word safe sane plain here
      exact ⟨after, sound_arguments tame chars⟩

private theorem sane_words {declares : Bool} {words : List (List Piece)} {spelled : List Text}
    (tame : Tame surroundings) (safe : Safe nested) (sane : Sane s)
    (plain : ∀ word ∈ words, ∀ piece ∈ word, TamePiece piece)
    (expands : expandWords surroundings nested declares s words = some (s', spelled)) :
    Sane s' ∧ ∀ argument ∈ spelled, Sound argument := by
  induction words generalizing s spelled with
  | nil =>
    cases expands
    exact ⟨sane, by simp⟩
  | cons word words ih =>
    simp only [expandWords, Option.bind_eq_bind, Option.bind_eq_some_iff, Option.pure_def] at expands
    obtain ⟨⟨inner, first⟩, here, ⟨last, later⟩, rest, same⟩ := expands
    cases same
    obtain ⟨between, sound⟩ := sane_argument tame safe sane (plain word (by simp)) here
    obtain ⟨after, remaining⟩ := ih between (fun word member => plain word (by simp [member])) rest
    refine ⟨after, fun argument member => ?_⟩
    exact (List.mem_append.mp member).elim (sound argument) (remaining argument)

private theorem sane_expandCommand {words : List (List Piece)} {spelled : List Text}
    (tame : Tame surroundings) (safe : Safe nested) (sane : Sane s)
    (plain : ∀ word ∈ words, ∀ piece ∈ word, TamePiece piece)
    (expands : expandCommand surroundings nested s words = some (s', spelled)) :
    Sane s' ∧ ∀ argument ∈ spelled, Sound argument := by
  induction words generalizing s spelled with
  | nil =>
    cases expands
    exact ⟨sane, by simp⟩
  | cons word words ih =>
    simp only [expandCommand, Option.bind_eq_bind, Option.bind_eq_some_iff] at expands
    obtain ⟨⟨inner, first⟩, here, rest⟩ := expands
    obtain ⟨between, sound⟩ := sane_argument tame safe sane (plain word (by simp)) here
    have others : ∀ word ∈ words, ∀ piece ∈ word, TamePiece piece :=
      fun word member => plain word (by simp [member])
    cases first with
    | nil => exact ih between others rest
    | cons name fields =>
      simp only [Option.bind_eq_some_iff, Option.pure_def] at rest
      obtain ⟨⟨last, later⟩, behind, same⟩ := rest
      cases same
      obtain ⟨after, remaining⟩ := sane_words tame safe between others behind
      refine ⟨after, fun argument member => ?_⟩
      exact (List.mem_append.mp member).elim (sound argument) (remaining argument)

private theorem sane_exportArgument {argument : Text} (sane : Sane s) (sound : Sound argument) :
    Sane (exportArgument s argument) := by
  simp only [exportArgument]
  split_ifs
  · exact sane
  · refine ⟨fun other c member => ?_, sane.written, sane.log⟩
    simp only [State.assign] at member
    split at member
    · exact sound.plain c (List.drop_subset _ _ member)
    · exact sane.values other c member
  · exact sane
  · exact ⟨sane.values, sane.written, sane.log⟩

private theorem sane_command {words : List (List Piece)} (tame : Tame surroundings)
    (safe : Safe nested) (sane : Sane s) (plain : ∀ word ∈ words, ∀ piece ∈ word, TamePiece piece)
    (ran : command surroundings nested s words = some s') : Sane s' := by
  unfold command at ran
  split at ran
  · cases ran
  · simp only [Option.bind_eq_bind, Option.bind_eq_some_iff, Option.pure_def] at ran
    obtain ⟨⟨inner, spelled⟩, expands, ran⟩ := ran
    obtain ⟨between, sound⟩ := sane_expandCommand tame safe sane plain expands
    cases spelled with
    | nil =>
      cases ran
      exact ⟨between.values, between.written, between.log⟩
    | cons name rest =>
      have logged : ∀ arguments ∈ inner.log ++ [name :: rest], ∀ argument ∈ arguments, Sound argument := by
        intro arguments member
        rcases List.mem_append.mp member with before | here
        · exact between.log arguments before
        · rw [List.mem_singleton.mp here]
          exact sound
      dsimp only at ran
      split at ran
      · cases ran
        have exported (arguments : List Text) (s : State) (sane : Sane s)
            (sound : ∀ argument ∈ arguments, Sound argument) :
            Sane (arguments.foldl exportArgument s) := by
          induction arguments generalizing s with
          | nil => exact sane
          | cons argument arguments ih =>
            exact ih _ (sane_exportArgument sane (sound argument (by simp)))
              fun argument member => sound argument (by simp [member])
        exact exported rest _ ⟨between.values, between.written, logged⟩
          fun argument member => sound argument (by simp [member])
      · cases ran
        refine ⟨between.values, fun c member => ?_, logged⟩
        exact (List.mem_append.mp member).elim (between.written c) (tame.output _ c)

/-- The states a list keeps are sane, and so are the words it has read. -/
private structure SaneProgress (p : Progress) : Prop where
  state : Sane p.state
  began : Sane p.began
  words : ∀ word ∈ p.words, ∀ piece ∈ word, TamePiece piece

private theorem sane_execute {p : Progress} {piping : Bool} (tame : Tame surroundings)
    (safe : Safe nested) (sane : SaneProgress p)
    (ran : execute surroundings nested p piping = some s') : Sane s' := by
  unfold execute at ran
  split at ran
  · cases ran
  · split at ran
    · cases ran
      exact sane.state
    · simp only [Option.bind_eq_bind, Option.bind_eq_some_iff, Option.pure_def] at ran
      obtain ⟨after, commanded, ran⟩ := ran
      have result := sane_command tame safe sane.state sane.words commanded
      split at ran
      · cases ran
        refine ⟨sane.state.values, fun c member => ?_, result.log⟩
        dsimp only at member
        split at member
        · exact sane.state.written c member
        · exact result.written c member
      · cases ran
        exact result

private theorem sane_consume {p p' : Progress} {token : Token} (tame : Tame surroundings)
    (safe : Safe nested) (sane : SaneProgress p) (plain : TameToken token)
    (consumed : consume surroundings nested p token = some p') : SaneProgress p' := by
  have started {s : State} (sane : Sane s) : SaneProgress (.start s) := ⟨sane, sane, by simp [Progress.start]⟩
  cases token with
  | word word =>
    cases consumed
    refine ⟨sane.state, sane.began, fun other member => ?_⟩
    rcases List.mem_append.mp member with before | here
    · exact sane.words other before
    · rw [List.mem_singleton.mp here]
      exact plain
  | op operator =>
    cases operator with
    | semi =>
      obtain ⟨after, ran, rfl⟩ := Option.map_eq_some_iff.mp consumed
      exact started (sane_execute tame safe sane ran)
    | newline =>
      simp only [consume, operate] at consumed
      split at consumed
      · cases consumed
        exact sane
      · obtain ⟨after, ran, rfl⟩ := Option.map_eq_some_iff.mp consumed
        exact started (sane_execute tame safe sane ran)
    | amp =>
      obtain ⟨after, ran, rfl⟩ := Option.map_eq_some_iff.mp consumed
      have result := sane_execute tame safe sane ran
      exact started ⟨sane.began.values, result.written, result.log⟩
    | and | or =>
      obtain ⟨after, ran, rfl⟩ := Option.map_eq_some_iff.mp consumed
      exact ⟨sane_execute tame safe sane ran, sane.began, by simp⟩
    | pipe =>
      obtain ⟨after, ran, rfl⟩ := Option.map_eq_some_iff.mp consumed
      exact ⟨sane_execute tame safe sane ran, sane.began, by simp⟩

/-- In tame surroundings every argument of every command is sound, whatever the text. -/
theorem run_sound (tame : Tame surroundings) (fuel : ℕ) : ∀ s text s',
    run surroundings fuel s text = some s' → Sane s → Sane s' := by
  induction fuel with
  | zero =>
    intro s text s' ran
    cases ran
  | succ fuel safe =>
    intro s text s' ran sane
    simp only [run, Option.bind_eq_bind, Option.bind_eq_some_iff] at ran
    obtain ⟨scanned, read, p, consumed, concluded⟩ := ran
    have plain := tame_tokens read
    have kept (scanned : List Token) (p p' : Progress) (sane : SaneProgress p)
        (plain : ∀ token ∈ scanned, TameToken token)
        (consumed : scanned.foldlM (consume surroundings (run surroundings fuel)) p = some p') :
        SaneProgress p' := by
      induction scanned generalizing p with
      | nil =>
        cases consumed
        exact sane
      | cons token scanned ih =>
        simp only [List.foldlM_cons, Option.bind_eq_bind, Option.bind_eq_some_iff] at consumed
        obtain ⟨between, first, rest⟩ := consumed
        exact ih between (sane_consume tame safe sane (plain token (by simp)) first)
          (fun token member => plain token (by simp [member])) rest
    have progress := kept scanned _ p ⟨sane, sane, by simp [Progress.start]⟩ plain consumed
    unfold conclude at concluded
    split at concluded
    · split at concluded
      · cases concluded
      · cases concluded
        exact progress.state
    · exact sane_execute tame safe progress concluded

end QuobyteMesos.Shell
