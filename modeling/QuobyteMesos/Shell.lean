import QuobyteMesos.StdString

/-! A POSIX command list, scanned and run.

A text is scanned character by character into words and operators; a word keeps
its expansions, and a command substitution its text, for the time it runs. `run`
expands words into fields, splits and globs them, and keeps every command it
carries out in `log`, those of a substitution included. What a program prints,
whether it succeeds, which files there are and where users are at home is left to
the surroundings.

`export` is a declaration utility: an argument written as an assignment is neither
split nor globbed, but tilde prefixes begin its value and follow its colons.

Quoting, redirections, grouping, comments, tilde prefixes of other words, reserved
words and assignments in front of a command are not evaluated: such a text has no
result. `run_exports` and `run_words` run the texts that hold nothing of the kind. -/
namespace QuobyteMesos.Shell

abbrev Text := List Char

/-! ### Characters -/

/-- The characters at which fields are split. -/
def isBlank (c : Char) : Bool := [' ', '\t', '\n'].contains c

/-- The characters that mean something to the scanner wherever they stand. -/
def special : Text :=
  [' ', '\t', '\n', ';', '&', '|', '$', '<', '>', '(', ')', '\x60', '\\', '\x22', '\x27']

def wordChar (c : Char) : Bool := !special.contains c

def nameStart (c : Char) : Bool := c.isAlpha || c = '_'

def nameChar (c : Char) : Bool := c.isAlphanum || c = '_'

def validName : Text → Bool
  | [] => false
  | c :: rest => nameStart c && rest.all nameChar

/-- A bracket is closed behind the first character of its set, and in the same name. -/
def bracketed (behind : Text) : Bool :=
  let name := behind.takeWhile (· ≠ '/')
  let set := if name.head? = some '!' then name.drop 1 else name
  (set.drop 1).contains ']'

/-- What pathname expansion takes for a pattern. -/
def isPattern : Text → Bool
  | [] => false
  | c :: rest => c = '*' || c = '?' || (c = '[' && bracketed rest) || isPattern rest

/-! ### Scanning -/

/-- A part of a word: a character, `$name`, `${name:-alternative}` or `$(command)`. -/
inductive Piece where
  | lit (c : Char)
  | param (name : Text)
  | orElse (name alternative : Text)
  | subst (command : Text)
  deriving DecidableEq, Repr

inductive Operator where
  | and | or | semi | newline | amp | pipe
  deriving DecidableEq, Repr

inductive Token where
  | word (pieces : List Piece)
  | op (operator : Operator)
  deriving DecidableEq, Repr

/-- What the scanner is in the middle of, with the pieces of the word so far. -/
inductive Mode where
  | word (pieces : List Piece)
  | dollar (pieces : List Piece)
  | name (pieces : List Piece) (name : Text)
  | brace (pieces : List Piece) (inside : Text)
  | paren (pieces : List Piece) (inside : Text) (depth : ℕ)
  | amp
  | pipe
  deriving DecidableEq, Repr

/-- The end of a word, if there is one. -/
def close (pieces : List Piece) : List Token :=
  if pieces = [] then [] else [.word pieces]

def wordStep (pieces : List Piece) (c : Char) : Option (List Token × Mode) :=
  if c = ' ' ∨ c = '\t' then some (close pieces, .word [])
  else if c = '\n' then some (close pieces ++ [.op .newline], .word [])
  else if c = ';' then some (close pieces ++ [.op .semi], .word [])
  else if c = '&' then some (close pieces, .amp)
  else if c = '|' then some (close pieces, .pipe)
  else if c = '$' then some ([], .dollar pieces)
  -- a comment or a tilde prefix begins a word
  else if wordChar c ∧ (pieces ≠ [] ∨ (c ≠ '#' ∧ c ≠ '~')) then
    some ([], .word (pieces ++ [.lit c]))
  else none

/-- What stands between the braces of a parameter. -/
def parameter (inside : Text) : Option Piece :=
  let name := inside.takeWhile nameChar
  match inside.dropWhile nameChar with
  | [] => if validName name then some (.param name) else none
  | ':' :: '-' :: alternative =>
    if validName name ∧ alternative.all wordChar then some (.orElse name alternative) else none
  | _ => none

def step : Mode → Char → Option (List Token × Mode)
  | .word pieces, c => wordStep pieces c
  | .dollar pieces, c =>
    if c = '(' then some ([], .paren pieces [] 0)
    else if c = '\x7b' then some ([], .brace pieces [])
    else if nameStart c then some ([], .name pieces [c])
    else none
  | .name pieces name, c =>
    if nameChar c then some ([], .name pieces (name ++ [c]))
    else wordStep (pieces ++ [.param name]) c
  | .brace pieces inside, c =>
    if c = '\x7d' then (parameter inside).map fun piece => ([], .word (pieces ++ [piece]))
    else some ([], .brace pieces (inside ++ [c]))
  | .paren pieces inside depth, c =>
    if c = '(' then some ([], .paren pieces (inside ++ [c]) (depth + 1))
    else if c = ')' then
      match depth with
      | 0 => some ([], .word (pieces ++ [.subst inside]))
      | outer + 1 => some ([], .paren pieces (inside ++ [c]) outer)
    else some ([], .paren pieces (inside ++ [c]) depth)
  | .amp, c =>
    if c = '&' then some ([.op .and], .word [])
    else (wordStep [] c).map fun (tokens, mode) => (.op .amp :: tokens, mode)
  | .pipe, c =>
    if c = '|' then some ([.op .or], .word [])
    else (wordStep [] c).map fun (tokens, mode) => (.op .pipe :: tokens, mode)

/-- The tokens completed on the way through a text, and the mode behind it. -/
def feed : Mode → Text → Option (List Token × Mode)
  | mode, [] => some ([], mode)
  | mode, c :: rest => do
    let (first, next) ← step mode c
    let (later, last) ← feed next rest
    return (first ++ later, last)

/-- The end of the text. -/
def finish : Mode → Option (List Token)
  | .word pieces => some (close pieces)
  | .name pieces name => some [.word (pieces ++ [.param name])]
  | .amp => some [.op .amp]
  | .pipe => some [.op .pipe]
  | .dollar _ | .brace .. | .paren .. => none

def tokens (text : Text) : Option (List Token) := do
  let (scanned, mode) ← feed (.word []) text
  let last ← finish mode
  return scanned ++ last

/-! ### Expansion -/

/-- What a shell meets: its environment, what programs print and whether they
succeed, the files a pattern matches, and the home directories of the login names,
the empty one for that of its own user. -/
structure Surroundings where
  environment : Text → Text
  output : List Text → Text
  succeeds : List Text → Bool
  paths : Text → List Text
  home : Text → Option Text

/-- The variables of a shell, one that is not set being empty, and what it has done. -/
structure State where
  values : Text → Text
  log : List (List Text) := []
  written : Text := []
  succeeded : Bool := true
  ended : Bool := false

/-- The result of an expansion is split at blanks, a literal is not. -/
abbrev Expanded := List (Char × Bool)

def literal (text : Text) : Expanded := text.map (·, false)

def splittable (text : Text) : Expanded := text.map (·, true)

/-- A substitution takes what its commands wrote, less the line feeds at the end. -/
def stripped (written : Text) : Text := (written.reverse.dropWhile (· = '\n')).reverse

/-- A subshell runs a text of its own in a copy of the state. -/
abbrev Nested := State → Text → Option State

def expandPiece (nested : Nested) (s : State) : Piece → Option (State × Expanded)
  | .lit c => some (s, literal [c])
  | .param name => some (s, splittable (s.values name))
  | .orElse name alternative =>
    some (s, splittable (if s.values name = [] then alternative else s.values name))
  | .subst command => do
    let sub ← nested { s with written := [], succeeded := true, ended := false } command
    return ({ s with log := sub.log }, splittable (stripped sub.written))

def expandWord (nested : Nested) (s : State) : List Piece → Option (State × Expanded)
  | [] => some (s, [])
  | piece :: pieces => do
    let (s, first) ← expandPiece nested s piece
    let (s, later) ← expandWord nested s pieces
    return (s, first ++ later)

/-- Field splitting. Without quotes no field is empty. -/
def fields (expanded : Expanded) : List Text :=
  ((expanded.splitOnP fun (c, split) => split && isBlank c).filter (· ≠ [])).map (·.map Prod.fst)

/-- Pathname expansion: a pattern without a match stands. -/
def glob (surroundings : Surroundings) (field : Text) : List Text :=
  if isPattern field ∧ surroundings.paths field ≠ [] then surroundings.paths field else [field]

/-- The arguments a word becomes. -/
def arguments (surroundings : Surroundings) (expanded : Expanded) : List Text :=
  (fields expanded).flatMap (glob surroundings)

/-! ### Tilde prefixes of an assignment -/

/-- The characters as they are. -/
def characters (text : Text) : List Piece := text.map .lit

def literalText (word : List Piece) : Option Text :=
  word.mapM fun
    | .lit c => some c
    | _ => none

/-- The characters a word begins with, and what follows them. -/
def literalRun : List Piece → Text × List Piece
  | .lit c :: rest => (c :: (literalRun rest).1, (literalRun rest).2)
  | pieces => ([], pieces)

/-- A tilde prefix goes as far as the first slash; an unknown name stands. -/
def homed (home : Text → Option Text) : Text → Text
  | '~' :: rest =>
    match home (rest.takeWhile (· ≠ '/')) with
    | some directory => directory ++ rest.dropWhile (· ≠ '/')
    | none => '~' :: rest
  | text => text

/-- Tilde prefixes in front of a text and behind its colons. -/
def textTildes (home : Text → Option Text) (text : Text) : Text :=
  [':'].intercalate ((text.splitOn ':').map (homed home))

/-- A tilde prefix that an expansion stands in is none. -/
def partTilde (home : Text → Option Text) (part : List Piece) : List Piece :=
  let (front, rest) := literalRun part
  if '/' ∈ front ∨ rest = [] then characters (homed home front) ++ rest else part

/-- The alternative is a text of its own. -/
def Piece.tildes (home : Text → Option Text) : Piece → Piece
  | .orElse name alternative => .orElse name (textTildes home alternative)
  | piece => piece

/-- Tilde prefixes in front of a value and behind its colons. -/
def valueTildes (home : Text → Option Text) (value : List Piece) : List Piece :=
  ([.lit ':'].intercalate ((value.splitOn (.lit ':')).map (partTilde home))).map (Piece.tildes home)

/-! ### The words of a command -/

/-- A name, an equals sign and a value. -/
def isAssignment (word : List Piece) : Bool :=
  let front := word.takeWhile (· ≠ .lit '=')
  front.length < word.length && (literalText front).any validName

def assignmentTildes (home : Text → Option Text) (word : List Piece) : List Piece :=
  let front := word.takeWhile (· ≠ .lit '=')
  front ++ .lit '=' :: valueTildes home (word.drop (front.length + 1))

/-- An alternative with a tilde prefix is evaluated in an assignment only. -/
def tildeAlternative : Piece → Bool
  | .orElse _ ('~' :: _) => true
  | _ => false

def expandArgument (surroundings : Surroundings) (nested : Nested) (declares : Bool) (s : State)
    (word : List Piece) : Option (State × List Text) :=
  if declares && isAssignment word then do
    let (s, expanded) ← expandWord nested s (assignmentTildes surroundings.home word)
    return (s, [expanded.map Prod.fst])
  else if word.any tildeAlternative then none
  else do
    let (s, expanded) ← expandWord nested s word
    return (s, arguments surroundings expanded)

def expandWords (surroundings : Surroundings) (nested : Nested) (declares : Bool) (s : State) :
    List (List Piece) → Option (State × List Text)
  | [] => some (s, [])
  | word :: words => do
    let (s, first) ← expandArgument surroundings nested declares s word
    let (s, later) ← expandWords surroundings nested declares s words
    return (s, first ++ later)

def exportName : Text := "export".toList

/-- The first field names the command, which says how the words behind it expand. -/
def expandCommand (surroundings : Surroundings) (nested : Nested) (s : State) :
    List (List Piece) → Option (State × List Text)
  | [] => some (s, [])
  | word :: words => do
    let (s, first) ← expandArgument surroundings nested false s word
    match first with
    | [] => expandCommand surroundings nested s words
    | name :: rest =>
      let (s, later) ← expandWords surroundings nested (name = exportName) s words
      return (s, name :: rest ++ later)

/-! ### Commands -/

def State.assign (s : State) (name value : Text) : State :=
  { s with values := fun other => if other = name then value else s.values other }

/-- One argument of `export`; a name that is not valid ends the shell. -/
def exportArgument (s : State) (argument : Text) : State :=
  let name := argument.takeWhile (· ≠ '=')
  if s.ended then s
  else if ¬ validName name then { s with ended := true }
  else if '=' ∈ argument then s.assign name (argument.drop (name.length + 1))
  else s

def reserved : List Text :=
  ["!", "\x7b", "\x7d", "case", "do", "done", "elif", "else", "esac", "fi", "for", "if", "in",
    "then", "until", "while"].map String.toList

/-- A word that does not name a command: a reserved word, or an assignment. -/
def unevaluated (word : List Piece) : Bool :=
  isAssignment word || (literalText word).any reserved.contains

/-- A simple command. Programs and builtins other than `export` do what the
surroundings say. -/
def command (surroundings : Surroundings) (nested : Nested) (s : State) (words : List (List Piece)) :
    Option State :=
  if words.head?.any unevaluated then none
  else do
    let (s, arguments) ← expandCommand surroundings nested s words
    match arguments with
    | [] => return { s with succeeded := true }
    | name :: rest =>
      let logged := { s with log := s.log ++ [name :: rest] }
      if name = exportName then
        return rest.foldl exportArgument { logged with succeeded := true }
      else
        return { logged with
          written := s.written ++ surroundings.output (name :: rest)
          succeeded := surroundings.succeeds (name :: rest) }

/-! ### Lists of commands -/

/-- Where the shell is in a list: the words of the command being read, the state
its and-or list began in, and what the operators so far ask for. -/
structure Progress where
  state : State
  began : State
  words : List (List Piece) := []
  skip : Bool := false
  piped : Bool := false
  expecting : Bool := false

def Progress.start (s : State) : Progress := { state := s, began := s }

/-- Carries out the command read. In a pipeline it runs in a subshell, and in front
of a pipe what it writes goes to the next command. -/
def execute (surroundings : Surroundings) (nested : Nested) (p : Progress) (piping : Bool) :
    Option State :=
  if p.words = [] then none
  else if p.skip ∨ p.state.ended then some p.state
  else do
    let after ← command surroundings nested p.state p.words
    if p.piped ∨ piping then
      return { after with
        values := p.state.values
        ended := p.state.ended
        written := if piping then p.state.written else after.written }
    else
      return after

def operate (surroundings : Surroundings) (nested : Nested) (p : Progress) :
    Operator → Option Progress
  | .semi => (execute surroundings nested p false).map .start
  | .newline =>
    if p.words = [] then some p else (execute surroundings nested p false).map .start
  | .amp => (execute surroundings nested p false).map fun s => .start
      { s with values := p.began.values, ended := p.began.ended, succeeded := true }
  | .and => (execute surroundings nested p false).map fun s =>
      { state := s, began := p.began, skip := !s.succeeded, expecting := true }
  | .or => (execute surroundings nested p false).map fun s =>
      { state := s, began := p.began, skip := s.succeeded, expecting := true }
  | .pipe => (execute surroundings nested p true).map fun s =>
      { p with state := s, words := [], piped := true, expecting := true }

def consume (surroundings : Surroundings) (nested : Nested) (p : Progress) : Token → Option Progress
  | .word word => some { p with words := p.words ++ [word] }
  | .op operator => operate surroundings nested p operator

/-- The end of a list; an operator that wants a command must have got one. -/
def conclude (surroundings : Surroundings) (nested : Nested) (p : Progress) : Option State :=
  if p.words = [] then
    if p.expecting then none else some p.state
  else execute surroundings nested p false

/-- Runs a text; the fuel bounds how deep substitutions are nested. -/
def run (surroundings : Surroundings) : ℕ → Nested
  | 0, _, _ => none
  | fuel + 1, s, text => do
    let scanned ← tokens text
    let p ← scanned.foldlM (consume surroundings (run surroundings fuel)) (.start s)
    conclude surroundings (run surroundings fuel) p

/-- The state in which a shell begins a text of its own. -/
def initial (surroundings : Surroundings) : State := { values := surroundings.environment }

/-- The text runs to its end, and that is the state in which it ends. -/
def Evaluates (surroundings : Surroundings) (text : Text) (s : State) : Prop :=
  ∃ fuel, run surroundings fuel (initial surroundings) text = some s

/-! ### What the scanner reads -/

private theorem wordChar_plain {c : Char} (plain : wordChar c) : c ∉ special := by
  simpa [wordChar] using plain

theorem wordStep_lit (pieces : List Piece) {c : Char} (plain : wordChar c)
    (inside : pieces ≠ [] ∨ (c ≠ '#' ∧ c ≠ '~')) :
    wordStep pieces c = some ([], .word (pieces ++ [.lit c])) := by
  have other := wordChar_plain plain
  simp only [special, List.mem_cons, List.not_mem_nil, or_false, not_or] at other
  simp [wordStep, other, plain, inside]

theorem feed_append {mode next : Mode} {front : Text} {first : List Token}
    (read : feed mode front = some (first, next)) (back : Text) :
    feed mode (front ++ back) = (feed next back).map fun (later, last) => (first ++ later, last) := by
  induction front generalizing mode first with
  | nil =>
    cases read
    simp
  | cons c front ih =>
    simp only [feed, Option.bind_eq_bind, Option.bind_eq_some_iff, Option.pure_def] at read
    obtain ⟨⟨here, inner⟩, stepped, ⟨later, last⟩, fed, same⟩ := read
    cases same
    simp only [List.cons_append, feed, stepped, ih fed, Option.bind_eq_bind, Option.bind_some,
      Option.pure_def]
    cases feed last back <;> simp [List.append_assoc]

theorem feed_characters (pieces : List Piece) {text : Text} (begun : pieces ≠ [])
    (plain : ∀ c ∈ text, wordChar c) :
    feed (.word pieces) text = some ([], .word (pieces ++ characters text)) := by
  induction text generalizing pieces with
  | nil => simp [feed, characters]
  | cons c text ih =>
    have stepped := wordStep_lit pieces (plain c (by simp)) (.inl begun)
    have later := ih (pieces ++ [.lit c]) (by simp) fun d member => plain d (by simp [member])
    simp [feed, step, stepped, later, characters]

/-- A word that is read character by character: it begins neither a comment nor a
tilde prefix. -/
structure OrdinaryWord (text : Text) : Prop where
  some : text ≠ []
  plain : ∀ c ∈ text, wordChar c
  begins : ∀ c ∈ text.head?, c ≠ '#' ∧ c ≠ '~'

theorem feed_word {text : Text} (ordinary : OrdinaryWord text) :
    feed (.word []) text = some ([], .word (characters text)) := by
  obtain ⟨some, plain, begins⟩ := ordinary
  cases text with
  | nil => exact absurd rfl some
  | cons c text =>
    have stepped := wordStep_lit [] (plain c (by simp)) (.inr (begins c rfl))
    have later := feed_characters [.lit c] (by simp) fun d (member : d ∈ text) =>
      plain d (by simp [member])
    rw [List.nil_append] at stepped
    simp [feed, step, stepped, later, characters]

/-- A comment or a tilde prefix is not read. -/
theorem feed_unread {c : Char} (other : c = '#' ∨ c = '~') (text : Text) :
    feed (.word []) (c :: text) = none := by
  rcases other with rfl | rfl <;> simp [feed, step, wordStep, wordChar, special]

private theorem feed_name (pieces : List Piece) (name : Text) {text : Text}
    (inside : ∀ c ∈ text, nameChar c) :
    feed (.name pieces name) text = some ([], .name pieces (name ++ text)) := by
  induction text generalizing name with
  | nil => simp [feed]
  | cons c text ih =>
    have later := ih (name ++ [c]) fun d member => inside d (by simp [member])
    simp [feed, step, inside c (by simp), later]

private theorem feed_brace (pieces : List Piece) (inside : Text) {text : Text} (unclosed : '\x7d' ∉ text) :
    feed (.brace pieces inside) text = some ([], .brace pieces (inside ++ text)) := by
  induction text generalizing inside with
  | nil => simp [feed]
  | cons c text ih =>
    obtain ⟨other, unclosed⟩ := not_or.mp (mt List.mem_cons.mpr unclosed)
    have later := ih (inside ++ [c]) unclosed
    simp [feed, step, Ne.symm other, later]

private theorem feed_paren (pieces : List Piece) (inside : Text) {text : Text}
    (flat : '(' ∉ text ∧ ')' ∉ text) :
    feed (.paren pieces inside 0) text = some ([], .paren pieces (inside ++ text) 0) := by
  induction text generalizing inside with
  | nil => simp [feed]
  | cons c text ih =>
    simp only [List.mem_cons, not_or] at flat
    have later := ih (inside ++ [c]) ⟨flat.1.2, flat.2.2⟩
    simp [feed, step, Ne.symm flat.1.1, Ne.symm flat.2.1, later]

theorem nameChar_of_valid {name : Text} (valid : validName name) : ∀ c ∈ name, nameChar c := by
  cases name with
  | nil => simp
  | cons first name =>
    simp only [validName, Bool.and_eq_true, List.all_eq_true] at valid
    intro c member
    rcases List.mem_cons.mp member with rfl | later
    · have begins := valid.1
      simp only [nameStart, nameChar, Char.isAlphanum, Bool.or_eq_true] at begins ⊢
      exact begins.imp .inl id
    · exact valid.2 c later

/-- In the middle of a word the text is read as these pieces. -/
def Reads (text : Text) (read : List Piece) : Prop :=
  ∀ pieces ≠ [], feed (.word pieces) text = some ([], .word (pieces ++ read))

/-- In the middle of a word the text is read as these pieces if a space follows. -/
def ReadsWord (text : Text) (read : List Piece) : Prop :=
  ∀ pieces ≠ [], feed (.word pieces) (text ++ [' ']) = some ([.word (pieces ++ read)], .word [])

theorem reads_characters {text : Text} (plain : ∀ c ∈ text, wordChar c) :
    Reads text (characters text) :=
  fun _ begun => feed_characters _ begun plain

theorem Reads.append {front back : Text} {first later : List Piece} (left : Reads front first)
    (right : Reads back later) : Reads (front ++ back) (first ++ later) := by
  intro pieces begun
  rw [feed_append (left pieces begun), right _ (by simp [begun])]
  simp

theorem Reads.word {text : Text} {read : List Piece} (reads : Reads text read) :
    ReadsWord text read := by
  intro pieces begun
  rw [feed_append (reads pieces begun)]
  simp [feed, step, wordStep, close, begun]

theorem reads_subst {command : Text} (flat : '(' ∉ command ∧ ')' ∉ command) :
    Reads ('$' :: '(' :: (command ++ [')'])) [.subst command] := by
  intro pieces begun
  have inside := feed_append (feed_paren pieces [] flat) [')']
  simp only [List.nil_append] at inside
  simp [feed, step, wordStep, inside]

theorem reads_parameter {inside : Text} {piece : Piece} (unclosed : '\x7d' ∉ inside)
    (named : parameter inside = some piece) :
    Reads ('$' :: '\x7b' :: (inside ++ ['\x7d'])) [piece] := by
  intro pieces begun
  have within := feed_append (feed_brace pieces [] unclosed) ['\x7d']
  simp only [List.nil_append] at within
  simp [feed, step, wordStep, within, named]

theorem parameter_orElse {name alternative : Text} (valid : validName name)
    (plain : ∀ c ∈ alternative, wordChar c) :
    parameter (name ++ ':' :: '-' :: alternative) = some (.orElse name alternative) := by
  have letters := nameChar_of_valid valid
  have stop : nameChar ':' = false := by decide
  have front : (name ++ ':' :: '-' :: alternative).takeWhile nameChar = name := by
    rw [List.takeWhile_append_of_pos letters]
    simp [stop]
  have rest : (name ++ ':' :: '-' :: alternative).dropWhile nameChar = ':' :: '-' :: alternative := by
    rw [List.dropWhile_append_of_pos letters]
    simp [stop]
  simp [parameter, front, rest, valid, List.all_eq_true.mpr plain]

theorem readsWord_param {name : Text} (valid : validName name) : ReadsWord ('$' :: name) [.param name] := by
  intro pieces begun
  cases name with
  | nil => cases valid
  | cons c name =>
    simp only [validName, Bool.and_eq_true, List.all_eq_true] at valid
    have later := feed_append (feed_name pieces [c] valid.2) [' ']
    have paren : c ≠ '(' := fun same => by rw [same] at valid; exact absurd valid.1 (by decide)
    have brace : c ≠ '\x7b' := fun same => by rw [same] at valid; exact absurd valid.1 (by decide)
    have blank : nameChar ' ' = false := by decide
    simp [feed, step, wordStep, later, paren, brace, valid.1, blank, close]

/-! ### What a command list does -/

variable {surroundings : Surroundings} {nested : Nested} {s s' : State}

theorem expandWord_append {front : List Piece} {first : Expanded}
    (expands : expandWord nested s front = some (s', first)) (back : List Piece) :
    expandWord nested s (front ++ back) =
      (expandWord nested s' back).map fun (last, later) => (last, first ++ later) := by
  induction front generalizing s first with
  | nil =>
    cases expands
    simp
  | cons piece front ih =>
    simp only [expandWord, Option.bind_eq_bind, Option.bind_eq_some_iff, Option.pure_def] at expands
    obtain ⟨⟨inner, here⟩, expanded, ⟨last, later⟩, rest, same⟩ := expands
    cases same
    simp only [List.cons_append, expandWord, expanded, ih rest, Option.bind_eq_bind, Option.bind_some,
      Option.pure_def]
    cases expandWord nested last back <;> simp [List.append_assoc]

/-- A word that expands does so part by part. -/
theorem expandWord_parts {front back : List Piece} {expanded : Expanded}
    (expands : expandWord nested s (front ++ back) = some (s', expanded)) :
    ∃ between first later, expandWord nested s front = some (between, first) ∧
      expandWord nested between back = some (s', later) ∧ expanded = first ++ later := by
  induction front generalizing s expanded with
  | nil => exact ⟨s, [], expanded, rfl, expands, rfl⟩
  | cons piece front ih =>
    simp only [List.cons_append, expandWord, Option.bind_eq_bind, Option.bind_eq_some_iff,
      Option.pure_def] at expands
    obtain ⟨⟨inner, here⟩, opened, ⟨last, rest⟩, behind, same⟩ := expands
    cases same
    obtain ⟨between, first, later, front, back, rfl⟩ := ih behind
    exact ⟨between, here ++ first, later, by simp [expandWord, opened, front], back, by simp⟩

theorem expandWord_characters (nested : Nested) (s : State) (text : Text) :
    expandWord nested s (characters text) = some (s, literal text) := by
  induction text with
  | nil => rfl
  | cons c text ih =>
    simp only [characters, List.map_cons, expandWord, expandPiece] at ih ⊢
    simp [ih, literal]

theorem literal_fst (text : Text) : (literal text).map Prod.fst = text := by
  simp [literal, Function.comp_def]

theorem splittable_fst (text : Text) : (splittable text).map Prod.fst = text := by
  simp [splittable, Function.comp_def]

/-- What a piece without a command in it expands to. -/
def Piece.value (values : Text → Text) : Piece → Text
  | .lit c => [c]
  | .param name => values name
  | .orElse name alternative => if values name = [] then alternative else values name
  | .subst _ => []

/-- A word without a command in it spells the values of its pieces. -/
theorem expandWord_values {pieces : List Piece} (nested : Nested) (s : State)
    (bare : ∀ text, Piece.subst text ∉ pieces) : ∃ expanded, expandWord nested s pieces = some (s, expanded) ∧
      expanded.map Prod.fst = pieces.flatMap (Piece.value s.values) := by
  induction pieces with
  | nil => exact ⟨[], rfl, rfl⟩
  | cons piece pieces ih =>
    obtain ⟨later, rest, spelled⟩ := ih fun text member => bare text (List.mem_cons_of_mem _ member)
    cases piece with
    | subst text => exact absurd List.mem_cons_self (bare text)
    | lit c =>
      exact ⟨literal [c] ++ later, by simp [expandWord, expandPiece, rest],
        by simp [literal, Piece.value, spelled]⟩
    | param name =>
      exact ⟨splittable (s.values name) ++ later, by simp [expandWord, expandPiece, rest],
        by simp [splittable_fst, Piece.value, spelled]⟩
    | orElse name alternative =>
      refine ⟨splittable (if s.values name = [] then alternative else s.values name) ++ later,
        by simp [expandWord, expandPiece, rest], ?_⟩
      rw [List.map_append, splittable_fst, spelled, List.flatMap_cons, Piece.value]

theorem expandWord_single (nested : Nested) (s : State) (piece : Piece) :
    expandWord nested s [piece] = expandPiece nested s piece := by
  simp only [expandWord]
  cases expandPiece nested s piece <;> simp

/-- A word with nothing to split is one field. -/
theorem arguments_single {expanded : Expanded} (some : expanded ≠ [])
    (unsplit : ∀ pair ∈ expanded, pair.2 → isBlank pair.1 = false) :
    arguments surroundings expanded = glob surroundings (expanded.map Prod.fst) := by
  have single : (expanded.splitOnP fun (c, split) => split && isBlank c) = [expanded] := by
    refine List.splitOnP_eq_singleton fun pair member => ?_
    cases marked : pair.2 with
    | false => simp [marked]
    | true => simp [marked, unsplit pair member marked]
  simp [arguments, fields, single, some]

theorem arguments_literal {text : Text} (some : text ≠ []) :
    arguments surroundings (literal text) = glob surroundings text := by
  have single : arguments surroundings (literal text) = glob surroundings ((literal text).map Prod.fst) :=
    arguments_single (by simpa [literal] using some) (by simp [literal])
  rwa [literal_fst] at single

theorem glob_ordinary {field : Text} (ordinary : ¬ isPattern field) : glob surroundings field = [field] :=
  if_neg fun pattern => ordinary pattern.1

/-- A part between two separators holds nothing new, and no separator. -/
theorem part_of_splitOnP {α : Type} {p : α → Bool} {xs part : List α} (member : part ∈ xs.splitOnP p) :
    part.Sublist xs ∧ ∀ x ∈ part, p x = false := by
  induction xs generalizing part with
  | nil =>
    rw [List.splitOnP_nil, List.mem_singleton] at member
    subst member
    simp
  | cons y xs ih =>
    rw [List.splitOnP_cons_eq_if_modifyHead] at member
    split at member
    · rcases List.mem_cons.mp member with rfl | later
      · simp
      · exact ⟨(ih later).1.cons y, (ih later).2⟩
    · rename_i inside
      obtain ⟨first, rest, parts⟩ := List.exists_cons_of_ne_nil (List.splitOnP_ne_nil p xs)
      rw [parts] at ih member
      rcases List.mem_cons.mp member with rfl | later
      · obtain ⟨sublist, plain⟩ := ih List.mem_cons_self
        exact ⟨sublist.cons_cons y, by simpa [inside] using plain⟩
      · obtain ⟨sublist, plain⟩ := ih (List.mem_cons_of_mem _ later)
        exact ⟨sublist.cons y, plain⟩

/-! ### Tilde prefixes -/

private theorem part_of_splitOn {α : Type} [BEq α] [LawfulBEq α] {separator : α} {xs part : List α}
    (member : part ∈ xs.splitOn separator) : part.Sublist xs ∧ separator ∉ part := by
  rw [List.splitOn_eq_splitOnP] at member
  obtain ⟨sublist, plain⟩ := part_of_splitOnP member
  exact ⟨sublist, fun inside => by simpa using plain separator inside⟩

private theorem characters_intercalate (parts : List Text) :
    [Piece.lit ':'].intercalate (parts.map characters) = characters ([':'].intercalate parts) := by
  induction parts with
  | nil => rfl
  | cons part parts ih =>
    by_cases last : parts = []
    · simp [last]
    · rw [List.map_cons, List.intercalate_cons_of_ne_nil (by simpa using last),
        List.intercalate_cons_of_ne_nil last, ih]
      simp [characters]

private theorem splitOn_characters (text : Text) :
    (characters text).splitOn (.lit ':') = (text.splitOn ':').map characters := by
  have plain : ∀ part ∈ (text.splitOn ':').map characters, Piece.lit ':' ∉ part := by
    intro part member inside
    obtain ⟨between, listed, rfl⟩ := List.mem_map.mp member
    obtain ⟨c, here, same⟩ := List.mem_map.mp inside
    obtain rfl := Piece.lit.inj same
    exact (part_of_splitOn listed).2 here
  have some : (text.splitOn ':').map characters ≠ [] := by simp [List.splitOn_ne_nil]
  have joined := List.splitOn_intercalate (Piece.lit ':') plain some
  rwa [characters_intercalate, List.intercalate_splitOn] at joined

theorem literalText_characters (text : Text) : literalText (characters text) = some text := by
  induction text with
  | nil => rfl
  | cons c text ih =>
    simp only [literalText, characters] at ih
    simp [literalText, characters, List.mapM_cons, ih]

private theorem literalRun_characters (text : Text) : literalRun (characters text) = (text, []) := by
  induction text with
  | nil => rfl
  | cons c text ih =>
    simp only [characters] at ih
    simp [literalRun, characters, ih]

private theorem literalRun_spec (part : List Piece) :
    characters (literalRun part).1 ++ (literalRun part).2 = part := by
  induction part with
  | nil => rfl
  | cons piece part ih =>
    cases piece with
    | lit c => simpa [literalRun, characters] using ih
    | param | orElse | subst => rfl

/-- In a text without expansions the prefixes are those of the text. -/
theorem valueTildes_characters (home : Text → Option Text) (text : Text) :
    valueTildes home (characters text) = characters (textTildes home text) := by
  have part : partTilde home ∘ characters = characters ∘ homed home := by
    funext text
    simp [partTilde, literalRun_characters]
  have kept (text : Text) : (characters text).map (Piece.tildes home) = characters text := by
    simp [characters, Piece.tildes, Function.comp_def]
  rw [valueTildes, splitOn_characters, List.map_map, part, ← List.map_map, characters_intercalate, kept,
    textTildes]

/-- An expansion is not changed but for the text of its alternative. -/
theorem valueTildes_single (home : Text → Option Text) {piece : Piece}
    (expansion : literalRun [piece] = ([], [piece])) :
    valueTildes home [piece] = [piece.tildes home] := by
  have other : Piece.lit ':' ∉ [piece] := by
    intro member
    obtain rfl := List.mem_singleton.mp member
    cases expansion
  rw [valueTildes, List.splitOn_eq_singleton other]
  simp [partTilde, expansion, List.intercalate]

private theorem homed_homeless {home : Text → Option Text} (homeless : ∀ login, home login = none)
    (text : Text) : homed home text = text := by
  unfold homed
  split <;> simp [homeless]

private theorem textTildes_homeless {home : Text → Option Text} (homeless : ∀ login, home login = none)
    (text : Text) : textTildes home text = text := by
  have same : homed home = id := funext (homed_homeless homeless)
  rw [textTildes, same, List.map_id, List.intercalate_splitOn]

/-- Where no login name is known every prefix stands. -/
theorem valueTildes_homeless {home : Text → Option Text} (homeless : ∀ login, home login = none)
    (value : List Piece) : valueTildes home value = value := by
  have part : partTilde home = id := by
    funext part
    simp [partTilde, homed_homeless homeless, literalRun_spec]
  have piece : Piece.tildes home = id := by
    funext piece
    cases piece <;> simp [Piece.tildes, textTildes_homeless homeless]
  rw [valueTildes, part, piece, List.map_id, List.map_id, List.intercalate_splitOn]

/-- No tilde prefix stands in front of the text or behind one of its colons. -/
def TildeFree (text : Text) : Prop := ∀ part ∈ text.splitOn ':', part.head? ≠ some '~'

instance (text : Text) : Decidable (TildeFree text) :=
  inferInstanceAs (Decidable (∀ part ∈ text.splitOn ':', part.head? ≠ some '~'))

theorem tildeFree_of_absent {text : Text} (absent : '~' ∉ text) : TildeFree text := by
  intro part member begins
  exact absent ((part_of_splitOn member).1.subset (List.mem_of_head? begins))

theorem textTildes_free {text : Text} (free : TildeFree text) (home : Text → Option Text) :
    textTildes home text = text := by
  have same : (text.splitOn ':').map (homed home) = (text.splitOn ':').map id := by
    refine List.map_congr_left fun part member => ?_
    have other := free part member
    unfold homed
    split
    · exact absurd rfl other
    · rfl
  rw [textTildes, same, List.map_id, List.intercalate_splitOn]

/-- A character that no home directory has brought in was there before. -/
private theorem mem_homed {home : Text → Option Text} {text : Text} {c : Char}
    (member : c ∈ homed home text) :
    (∃ login directory, home login = some directory ∧ c ∈ directory) ∨ c ∈ text := by
  unfold homed at member
  split at member
  · rename_i rest
    split at member
    · rename_i directory known
      rcases List.mem_append.mp member with front | behind
      · exact .inl ⟨_, directory, known, front⟩
      · exact .inr (List.mem_cons_of_mem _ (List.dropWhile_subset _ behind))
    · exact .inr member
  · exact .inr member

/-- Where every login name is known and nobody's home begins with a tilde, only a text
free of prefixes stands. -/
theorem free_of_textTildes {home : Text → Option Text} {directory text : Text}
    (known : ∀ login, home login = some directory) (path : directory.head? = some '/')
    (plain : ':' ∉ directory) (stands : textTildes home text = text) : TildeFree text := by
  have split : (text.splitOn ':').map (homed home) = text.splitOn ':' := by
    have apart : ∀ part ∈ (text.splitOn ':').map (homed home), ':' ∉ part := by
      intro part member inside
      obtain ⟨original, listed, rfl⟩ := List.mem_map.mp member
      rcases mem_homed inside with ⟨login, _, at_home, held⟩ | own
      · obtain rfl := Option.some.inj ((known login).symm.trans at_home)
        exact plain held
      · exact (part_of_splitOn listed).2 own
    have some : (text.splitOn ':').map (homed home) ≠ [] := by simp [List.splitOn_ne_nil]
    have parts := List.splitOn_intercalate ':' apart some
    rw [textTildes] at stands
    rw [stands] at parts
    exact parts.symm
  intro part member begins
  have same : homed home part = part := by
    have both : (text.splitOn ':').map (homed home) = (text.splitOn ':').map id := by
      rw [split, List.map_id]
    exact List.map_inj_left.mp both part member
  obtain ⟨rest, rfl⟩ := List.head?_eq_some_iff.mp begins
  have first := congrArg List.head? same
  have more : directory ≠ [] := by
    rintro rfl
    cases path
  simp only [homed, known] at first
  rw [List.head?_append_of_ne_nil _ more, path] at first
  cases first

private theorem mem_partTilde {home : Text → Option Text} {part : List Piece} {piece : Piece}
    (member : piece ∈ partTilde home part) :
    (∃ login directory c, home login = some directory ∧ c ∈ directory ∧ piece = .lit c) ∨ piece ∈ part := by
  unfold partTilde at member
  dsimp only at member
  split at member
  · have spelled := literalRun_spec part
    rcases List.mem_append.mp member with front | behind
    · obtain ⟨c, inside, rfl⟩ := List.mem_map.mp front
      rcases mem_homed inside with ⟨login, directory, known, held⟩ | own
      · exact .inl ⟨login, directory, c, known, held, rfl⟩
      · refine .inr ?_
        rw [← spelled]
        exact List.mem_append_left _ (List.mem_map_of_mem own)
    · refine .inr ?_
      rw [← spelled]
      exact List.mem_append_right _ behind
  · exact .inr member

theorem mem_textTildes {home : Text → Option Text} {text : Text} {c : Char}
    (member : c ∈ textTildes home text) :
    (∃ login directory, home login = some directory ∧ c ∈ directory) ∨ c = ':' ∨ c ∈ text := by
  rcases StdString.mem_intercalate member with colon | ⟨part, listed, inside⟩
  · exact .inr (.inl (List.mem_singleton.mp colon))
  · obtain ⟨original, split, rfl⟩ := List.mem_map.mp listed
    exact (mem_homed inside).imp_right fun own => .inr ((part_of_splitOn split).1.subset own)

/-- Behind its tilde prefixes a value has its own pieces, its colons, and what home
directories have brought in. -/
theorem mem_valueTildes {home : Text → Option Text} {value : List Piece} {piece : Piece}
    (member : piece ∈ valueTildes home value) :
    (∃ login directory c, home login = some directory ∧ c ∈ directory ∧ piece = .lit c) ∨
      piece = .lit ':' ∨ ∃ original ∈ value, piece = original.tildes home := by
  obtain ⟨other, between, rfl⟩ := List.mem_map.mp member
  rcases StdString.mem_intercalate between with colon | ⟨part, listed, inside⟩
  · rw [List.mem_singleton.mp colon]
    exact .inr (.inl rfl)
  · obtain ⟨original, split, rfl⟩ := List.mem_map.mp listed
    rcases mem_partTilde inside with ⟨login, directory, c, known, held, rfl⟩ | own
    · exact .inl ⟨login, directory, c, known, held, rfl⟩
    · exact .inr (.inr ⟨other, (part_of_splitOn split).1.subset own, rfl⟩)

/-- The word of an assignment. -/
def assignmentWord (name : Text) (pieces : List Piece) : List Piece :=
  characters (name ++ ['=']) ++ pieces

theorem takeWhile_name {name : Text} (valid : validName name) (rest : List Piece) :
    (characters name ++ .lit '=' :: rest).takeWhile (· ≠ .lit '=') = characters name := by
  have plain : ∀ piece ∈ characters name, decide (piece ≠ .lit '=') = true := by
    intro piece member
    obtain ⟨c, inside, rfl⟩ := List.mem_map.mp member
    have letter := nameChar_of_valid valid c inside
    refine decide_eq_true fun same => ?_
    rw [Piece.lit.inj same] at letter
    exact absurd letter (by decide)
  rw [List.takeWhile_append_of_pos plain]
  simp

private theorem assignmentWord_eq (name : Text) (pieces : List Piece) :
    assignmentWord name pieces = characters name ++ .lit '=' :: pieces := by
  simp [assignmentWord, characters]

private theorem word_assignment {name : Text} (valid : validName name) (pieces : List Piece) :
    isAssignment (assignmentWord name pieces) = true := by
  rw [isAssignment, assignmentWord_eq, takeWhile_name valid, literalText_characters]
  simp [valid]

private theorem word_tildes {name : Text} (valid : validName name) (home : Text → Option Text)
    (pieces : List Piece) : assignmentTildes home (assignmentWord name pieces) =
      assignmentWord name (valueTildes home pieces) := by
  have behind : (characters name ++ .lit '=' :: pieces).drop ((characters name).length + 1) = pieces := by
    simp
  rw [assignmentTildes, assignmentWord_eq, takeWhile_name valid, behind, assignmentWord_eq]

theorem exportArgument_assign {name : Text} (valid : validName name) (running : s.ended = false)
    (value : Text) : exportArgument s (name ++ '=' :: value) = s.assign name value := by
  have plain : ∀ c ∈ name, decide (c ≠ '=') = true := by
    intro c member
    have inside := nameChar_of_valid valid c member
    refine decide_eq_true fun same => ?_
    rw [same] at inside
    exact absurd inside (by decide)
  have cut : (name ++ '=' :: value).takeWhile (· ≠ '=') = name := by
    rw [List.takeWhile_append_of_pos plain]
    simp
  simp only [exportArgument, running, cut]
  simp [valid]

/-- A word of its own, for a program or as the name of a command. -/
theorem expandArgument_characters {text : Text} (some : text ≠ []) :
    expandArgument surroundings nested false s (characters text) =
      Option.some (s, glob surroundings text) := by
  have plain : (characters text).any tildeAlternative = false := by
    simp [characters, tildeAlternative]
  simp [expandArgument, plain, expandWord_characters, arguments_literal some]

/-- Behind the name of the command an assignment stays one argument. -/
private theorem command_declares {name : Text} (valid : validName name) (pieces : List Piece) :
    command surroundings nested s [characters exportName, assignmentWord name pieces] =
      (expandWord nested s (assignmentWord name (valueTildes surroundings.home pieces))).map
        fun (s, expanded) => exportArgument
          { s with
            log := s.log ++ [[exportName, expanded.map Prod.fst]]
            succeeded := true } (expanded.map Prod.fst) := by
  have evaluated : unevaluated (characters exportName) = false := by decide
  have first : expandArgument surroundings nested false s (characters exportName) =
      some (s, [exportName]) := by
    rw [expandArgument_characters (by decide), glob_ordinary (by decide)]
  have declared : expandArgument surroundings nested true s (assignmentWord name pieces) =
      (expandWord nested s (assignmentWord name (valueTildes surroundings.home pieces))).map
        fun (s, expanded) => (s, [expanded.map Prod.fst]) := by
    rw [expandArgument, word_assignment valid, word_tildes valid]
    cases expandWord nested s (assignmentWord name (valueTildes surroundings.home pieces)) <;> rfl
  cases expands : expandWord nested s (assignmentWord name (valueTildes surroundings.home pieces)) with
  | none => simp [command, evaluated, expandCommand, first, expandWords, declared, expands]
  | some result => simp [command, evaluated, expandCommand, first, expandWords, declared, expands]

/-- An assignment that can be expanded is carried out. -/
theorem command_export {name : Text} {pieces : List Piece} {expanded : Expanded}
    (valid : validName name) (running : s'.ended = false)
    (expands : expandWord nested s (valueTildes surroundings.home pieces) = some (s', expanded)) :
    command surroundings nested s [characters exportName, assignmentWord name pieces] =
      some { s'.assign name (expanded.map Prod.fst) with
        log := s'.log ++ [[exportName, name ++ '=' :: expanded.map Prod.fst]]
        succeeded := true } := by
  have word : expandWord nested s (assignmentWord name (valueTildes surroundings.home pieces)) =
      some (s', literal (name ++ ['=']) ++ expanded) := by
    rw [assignmentWord, expandWord_append (expandWord_characters nested s _), expands]
    rfl
  have spelled : (literal (name ++ ['=']) ++ expanded).map Prod.fst =
      name ++ '=' :: expanded.map Prod.fst := by
    simp [literal_fst]
  rw [command_declares valid, word, Option.map_some]
  simp only [spelled]
  rw [exportArgument_assign valid (by exact running)]
  rfl

/-- An export whose word cannot be expanded is not carried out. -/
theorem command_unexpanded {name : Text} {pieces : List Piece} (valid : validName name)
    (fails : expandWord nested s (valueTildes surroundings.home pieces) = none) :
    command surroundings nested s [characters exportName, assignmentWord name pieces] = none := by
  have word : expandWord nested s (assignmentWord name (valueTildes surroundings.home pieces)) = none := by
    rw [assignmentWord, expandWord_append (expandWord_characters nested s _), fails]
    rfl
  rw [command_declares valid, word]
  rfl

/-- Expanding a word changes nothing but the log. -/
theorem expandWord_frame {pieces : List Piece} {expanded : Expanded}
    (expands : expandWord nested s pieces = some (s', expanded)) : s' = { s with log := s'.log } := by
  induction pieces generalizing s expanded with
  | nil =>
    cases expands
    rfl
  | cons piece pieces ih =>
    simp only [expandWord, Option.bind_eq_bind, Option.bind_eq_some_iff, Option.pure_def] at expands
    obtain ⟨⟨inner, first⟩, here, ⟨last, later⟩, rest, same⟩ := expands
    cases same
    have between : inner = { s with log := inner.log } := by
      cases piece with
      | lit | param | orElse =>
        cases here
        rfl
      | subst text =>
        simp only [expandPiece, Option.bind_eq_bind, Option.bind_eq_some_iff, Option.pure_def] at here
        obtain ⟨sub, _, same⟩ := here
        cases same
        rfl
    rw [ih rest, between]

/-- An export that was carried out goes on with the next. -/
theorem command_exported {name : Text} {pieces : List Piece} (valid : validName name)
    (running : s.ended = false)
    (ran : command surroundings nested s [characters exportName, assignmentWord name pieces] = some s') :
    ∃ between expanded,
      expandWord nested s (valueTildes surroundings.home pieces) = some (between, expanded) ∧
      s' = { s.assign name (expanded.map Prod.fst) with
        log := between.log ++ [[exportName, name ++ '=' :: expanded.map Prod.fst]]
        succeeded := true } := by
  cases expands : expandWord nested s (valueTildes surroundings.home pieces) with
  | none =>
    rw [command_unexpanded valid expands] at ran
    cases ran
  | some result =>
    obtain ⟨between, expanded⟩ := result
    have frame := expandWord_frame expands
    have carried := command_export valid (by rw [frame]; exact running) expands
    rw [carried] at ran
    refine ⟨between, expanded, rfl, ?_⟩
    rw [← Option.some.inj ran, frame]
    rfl

/-! ### A command of ordinary words -/

private theorem close_characters {text : Text} (some : text ≠ []) :
    close (characters text) = [.word (characters text)] := by
  simp [close, characters, some]

private theorem tokens_words {words : List Text} (ordinary : ∀ word ∈ words, OrdinaryWord word)
    (some : words ≠ []) :
    tokens ([' '].intercalate words) = Option.some (words.map fun word => .word (characters word)) := by
  induction words with
  | nil => exact absurd rfl some
  | cons word words ih =>
    have first := ordinary word (by simp)
    cases words with
    | nil => simp [tokens, feed_word first, finish, close_characters first.some]
    | cons next words =>
      have later := ih (fun w member => ordinary w (by simp [member])) (by simp)
      have split := feed_append (feed_word first) (' ' :: [' '].intercalate (next :: words))
      rw [List.intercalate_cons_of_ne_nil (by simp), List.append_assoc, List.singleton_append]
      simp only [tokens, split, feed, step, wordStep, close_characters first.some] at later ⊢
      cases fed : feed (.word []) ([' '].intercalate (next :: words)) with
      | none => simp [fed] at later
      | some parts =>
        cases ended : finish parts.2 with
        | none => simp [fed, ended] at later
        | some last => simpa [fed, ended] using later

private theorem consume_words (surroundings : Surroundings) (nested : Nested)
    (words : List (List Piece)) (p : Progress) :
    (words.map Token.word).foldlM (consume surroundings nested) p =
      some { p with words := p.words ++ words } := by
  induction words generalizing p with
  | nil => simp
  | cons word words ih => simp [consume, ih]

/-- A text of ordinary words is one command. -/
theorem run_words {fuel : ℕ} {words : List Text} (ordinary : ∀ word ∈ words, OrdinaryWord word)
    (some : words ≠ []) (running : s.ended = false) :
    run surroundings (fuel + 1) s ([' '].intercalate words) =
      command surroundings (run surroundings fuel) s (words.map characters) := by
  have read := tokens_words ordinary some
  have consumed := consume_words surroundings (run surroundings fuel) (words.map characters) (.start s)
  simp only [List.map_map, Function.comp_def] at consumed
  simp only [run, read, consumed, Option.bind_eq_bind, Option.bind_some]
  simp [conclude, execute, Progress.start, some, running]

/-- A program gets its words as they are, but for those that are patterns. -/
theorem command_program {name : Text} {rest : List Text}
    (evaluated : unevaluated (characters name) = false) (program : name ≠ exportName)
    (ordinary : ¬ isPattern name) (some : ∀ word ∈ name :: rest, word ≠ []) :
    command surroundings nested s ((name :: rest).map characters) =
      Option.some { s with
        log := s.log ++ [name :: rest.flatMap (glob surroundings)]
        written := s.written ++ surroundings.output (name :: rest.flatMap (glob surroundings))
        succeeded := surroundings.succeeds (name :: rest.flatMap (glob surroundings)) } := by
  have spelled (words : List Text) (some : ∀ word ∈ words, word ≠ []) :
      expandWords surroundings nested false s (words.map characters) =
        Option.some (s, words.flatMap (glob surroundings)) := by
    induction words with
    | nil => rfl
    | cons word words ih =>
      have later := ih fun w member => some w (by simp [member])
      simp [expandWords, later, expandArgument_characters (some word (by simp))]
  have first : expandArgument surroundings nested false s (characters name) = _ :=
    expandArgument_characters (some name (by simp))
  rw [glob_ordinary ordinary] at first
  have later := spelled rest fun word member => some word (by simp [member])
  simp [command, evaluated, expandCommand, first, program, later]

/-! ### A list of exports -/

/-- An export in front of an `&&`: what it is written as, and the pieces that reads as. -/
structure Export where
  name : Text
  written : Text
  pieces : List Piece

def Export.text (e : Export) : Text :=
  exportName ++ ' ' :: (e.name ++ '=' :: (e.written ++ " && ".toList))

structure Export.Read (e : Export) : Prop where
  named : validName e.name
  reads : ReadsWord e.written e.pieces

def Export.tokens (e : Export) : List Token :=
  [.word (characters exportName), .word (assignmentWord e.name e.pieces), .op .and]

/-- What a list of exports does. -/
def exportAll (surroundings : Surroundings) (nested : Nested) : State → List Export → Option State
  | s, [] => some s
  | s, e :: exports =>
    (command surroundings nested s [characters exportName, assignmentWord e.name e.pieces]).bind
      fun s => exportAll surroundings nested s exports

/-- In a list that was carried out every word could be expanded. -/
theorem expanded_of_exportAll {exports : List Export} (named : ∀ e ∈ exports, validName e.name)
    (running : s.ended = false) (ran : exportAll surroundings nested s exports = some s') :
    ∀ e ∈ exports, ∃ between result,
      expandWord nested between (valueTildes surroundings.home e.pieces) = some result := by
  induction exports generalizing s with
  | nil => simp
  | cons e exports ih =>
    obtain ⟨between, first, rest⟩ := Option.bind_eq_some_iff.mp ran
    obtain ⟨_, _, expands, same⟩ := command_exported (named e (by simp)) running first
    intro other member
    rcases List.mem_cons.mp member with rfl | later
    · exact ⟨s, _, expands⟩
    · exact ih (fun e member => named e (by simp [member])) (by rw [same]; exact running) rest other later

/-- A text that begins with a name is an ordinary word. -/
theorem name_ordinary {name rest : Text} (valid : validName name) (plain : ∀ c ∈ rest, wordChar c) :
    OrdinaryWord (name ++ rest) := by
  have letter : ∀ c, nameChar c → wordChar c ∧ c ≠ '#' ∧ c ≠ '~' := by
    intro c inside
    have outside : ∀ d ∈ '#' :: '~' :: special, nameChar d = false := by decide
    have absent : c ∉ '#' :: '~' :: special := fun member => by simp [outside c member] at inside
    simp only [List.mem_cons, not_or] at absent
    exact ⟨by simpa [wordChar] using absent.2.2, absent.1, absent.2.1⟩
  have letters := nameChar_of_valid valid
  cases name with
  | nil => cases valid
  | cons first name =>
    refine ⟨by simp, fun c member => ?_, fun c member => ?_⟩
    · rcases List.mem_append.mp member with inside | last
      · exact (letter c (letters c inside)).1
      · exact plain c last
    · obtain rfl := Option.some.inj member
      exact (letter first (letters first (by simp))).2

theorem ordinary_of_name {name : Text} (valid : validName name) : OrdinaryWord name := by
  have word := name_ordinary valid (List.forall_mem_nil fun c => wordChar c)
  rwa [List.append_nil] at word

theorem feed_export {e : Export} (read : e.Read) :
    feed (.word []) e.text = some (e.tokens, .word []) := by
  have command : feed (.word []) (exportName ++ [' ']) =
      some ([.word (characters exportName)], .word []) := by decide
  have name := feed_word (name_ordinary read.named (by decide : ∀ c ∈ ['='], wordChar c))
  have value := read.reads (characters (e.name ++ ['='])) (by simp [characters])
  have operator : feed (.word []) "&& ".toList = some ([.op .and], .word []) := by decide
  have text : e.text = (exportName ++ [' ']) ++ ((e.name ++ ['=']) ++ ((e.written ++ [' ']) ++
      "&& ".toList)) := by
    simp [Export.text]
  rw [text, feed_append command, feed_append name, feed_append value, operator]
  rfl

private theorem feed_exports {exports : List Export} (read : ∀ e ∈ exports, e.Read) :
    feed (.word []) (exports.flatMap Export.text) = some (exports.flatMap Export.tokens, .word []) := by
  induction exports with
  | nil => rfl
  | cons e exports ih =>
    have later := ih fun e member => read e (by simp [member])
    rw [List.flatMap_cons, feed_append (feed_export (read e (by simp))), later]
    rfl

private theorem consume_export {e : Export} (s began : State) (expecting : Bool) (running : s.ended = false) :
    e.tokens.foldlM (consume surroundings nested) { state := s, began := began, expecting := expecting } =
      (command surroundings nested s [characters exportName, assignmentWord e.name e.pieces]).map
        fun s => { state := s, began := began, skip := !s.succeeded, expecting := true } := by
  simp [Export.tokens, consume, operate, execute, running]

private theorem consume_exports {exports : List Export} (s began : State) (expecting : Bool)
    (named : ∀ e ∈ exports, validName e.name) (running : s.ended = false) (program : List Piece) :
    ((exports.flatMap Export.tokens ++ [Token.word program]).foldlM (consume surroundings nested)
        { state := s, began := began, expecting := expecting }).bind (conclude surroundings nested) =
      (exportAll surroundings nested s exports).bind fun s => command surroundings nested s [program] := by
  induction exports generalizing s expecting with
  | nil => simp [consume, conclude, execute, exportAll, running]
  | cons e exports ih =>
    rw [List.flatMap_cons, List.append_assoc, List.foldlM_append, consume_export s began expecting running,
      exportAll]
    cases ran : command surroundings nested s [characters exportName, assignmentWord e.name e.pieces] with
    | none => rfl
    | some after =>
      obtain ⟨_, _, _, same⟩ := command_exported (named e (by simp)) running ran
      have succeeded : after.succeeded = true := by rw [same]
      have later := ih after true (fun e member => named e (by simp [member])) (by rw [same]; exact running)
      simpa [succeeded] using later

/-- A list of exports in front of a program. -/
theorem run_exports {fuel : ℕ} {exports : List Export} {program : Text}
    (read : ∀ e ∈ exports, e.Read) (ordinary : OrdinaryWord program) (running : s.ended = false) :
    run surroundings (fuel + 1) s (exports.flatMap Export.text ++ program) =
      (exportAll surroundings (run surroundings fuel) s exports).bind fun s =>
        command surroundings (run surroundings fuel) s [characters program] := by
  have scanned : tokens (exports.flatMap Export.text ++ program) =
      some (exports.flatMap Export.tokens ++ [.word (characters program)]) := by
    rw [tokens, feed_append (feed_exports read), feed_word ordinary]
    simp [finish, close_characters ordinary.some]
  rw [run, scanned]
  exact consume_exports s s false (fun e member => (read e member).named) running (characters program)

end QuobyteMesos.Shell
