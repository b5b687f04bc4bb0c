import NavFactory.CommandLine.Switch
import NavFactory.Text.Word

/-!
# Arguments

Reading a command line.  Each argument is first taken by itself: as a plain word, as a switch under its name or an
unambiguous beginning of it, or as a switch that the part does not know.  Then values are given to the switches that
take them, and words to the places that are open.
-/

namespace NavFactory.CommandLine

/-- What a command line asks for. -/
structure Invocation where
  command : Command := .generate
  verbose : Bool := false
  logFile : Option String := none
  path : String := "."
  output : Option String := none
  strict : Bool := false
  dryRun : Bool := false
deriving DecidableEq

/-- Takes over a switch; the last value of a switch counts. -/
def Invocation.set (i : Invocation) (value : String) : Switch → Invocation
  | .help => i
  | .verbose => { i with verbose := true }
  | .logFile => { i with logFile := some value }
  | .output => { i with output := some value }
  | .strict => { i with strict := true }
  | .dryRun => { i with dryRun := true }

/-- Why nothing is done: help is asked for, or a part cannot be understood. -/
inductive Stop
  | help (p : Part)
  | misuse (p : Part) (f : UsageFault)
deriving DecidableEq

/-! ### Single arguments -/

/-- How a switch is written. -/
inductive Spelling
  | alone (s : Switch)
  /-- With a value behind an equals sign. -/
  | withValue (s : Switch) (value : String)
  /-- With further characters behind a short name: a value, or other short names. -/
  | withMore (s : Switch) (rest : List Char)
deriving DecidableEq

/-- An argument taken by itself. -/
inductive Piece
  | word
  /-- Two dashes, behind which all arguments are words. -/
  | separator
  | switch (spelling : Spelling)
  | unknown
deriving DecidableEq

/-- A text cut at the first equals sign, if it has one. -/
def cutValue (text : String) : String × Option String :=
  let cs := text.toList
  match cs.dropWhile (· != '=') with
  | _ :: value => (String.ofList (cs.takeWhile (· != '=')), some (String.ofList value))
  | [] => (text, none)

/-- A name and how it is written, from a name and a value behind an equals sign. -/
def spellingOf (s : Switch) : Option String → Spelling
  | some value => .withValue s value
  | none => .alone s

/-- The switches of a part that a text may abbreviate or combine, with their names. -/
def candidates (p : Part) (text : String) : List (String × Spelling) :=
  match text.toList with
  | '-' :: '-' :: _ =>
    let (name, value) := cutValue text
    (p.switchNames.filter fun (n, _) => n.startsWith name).map fun (n, s) => (n, spellingOf s value)
  | '-' :: c :: rest =>
    p.switchNames.filterMap fun (n, s) =>
      if n == String.ofList ['-', c] then some (n, .withMore s rest)
      else if n.startsWith text then some (n, .alone s)
      else none
  | _ => []

/-- Whether a text spells a negative number. -/
def isNegativeNumber (text : String) : Bool :=
  match text.toList with
  | '-' :: cs =>
    let whole := cs.takeWhile Text.isDigitChar
    match cs.dropWhile Text.isDigitChar with
    | [] => !whole.isEmpty
    | '.' :: fraction => !fraction.isEmpty && fraction.all Text.isDigitChar
    | _ => false
  | _ => false

/-- Takes an argument by itself. -/
def readPiece (p : Part) (text : String) : Except UsageFault Piece :=
  if !text.startsWith "-" then .ok .word
  else match p.switch? text with
    | some s => .ok (.switch (.alone s))
    | none =>
      if text == "-" then .ok .word
      else
        let (name, value) := cutValue text
        match value, p.switch? name with
        | some value, some s => .ok (.switch (.withValue s value))
        | _, _ => match candidates p text with
          | [(_, spelling)] => .ok (.switch spelling)
          | [] => .ok (if isNegativeNumber text || text.toList.contains ' ' then .word else .unknown)
          | several => .error (.ambiguous text (several.map (·.1)))

/-- Takes each argument by itself. -/
def readPieces (p : Part) : List String → Except UsageFault (List (String × Piece))
  | [] => .ok []
  | text :: rest =>
    if text == "--" then .ok ((text, .separator) :: rest.map (·, .word))
    else do
      let piece ← readPiece p text
      .ok ((text, piece) :: (← readPieces p rest))

/-! ### Switches -/

/-- The switches that one argument holds. -/
structure Spelled where
  /-- Those without a value, in order. -/
  flags : List Switch := []
  /-- One with a value, which may still have to come. -/
  valued : Option (Switch × Option String) := none
  /-- What is left when a name is not known. -/
  unknown : Option String := none
deriving DecidableEq

/-- A switch alone. -/
def Spelled.ofSwitch (s : Switch) : Spelled := if s.takesValue then { valued := some (s, none) } else { flags := [s] }

/-- A switch with the value that is written behind it. -/
def spellValue (s : Switch) (value : String) : Except UsageFault Spelled :=
  if s.takesValue then .ok { valued := some (s, some value) } else .error (.unwantedValue s value)

/-- A switch with further characters behind its short name. -/
def spellCluster (p : Part) (s : Switch) : List Char → Except UsageFault Spelled
  | [] => .ok (.ofSwitch s)
  | c :: rest =>
    if s.takesValue then spellValue s (String.ofList (c :: rest))
    else if c == '-' then .error (.unwantedValue s (String.ofList (c :: rest)))
    else match p.switch? (String.ofList ['-', c]) with
      | none => .ok { flags := [s], unknown := some (String.ofList ('-' :: c :: rest)) }
      | some next => do
        let spelled ← match rest with
          | '=' :: value => spellValue next (String.ofList value)
          | rest => spellCluster p next rest
        .ok { spelled with flags := s :: spelled.flags }

/-- The switches that one argument holds. -/
def Spelling.spell (p : Part) : Spelling → Except UsageFault Spelled
  | alone s => .ok (.ofSwitch s)
  | withValue s value => spellValue s value
  | withMore s rest => spellCluster p s rest

/-- Takes over switches without values; help ends it. -/
def setFlags (p : Part) (i : Invocation) : List Switch → Except Stop Invocation
  | [] => .ok i
  | s :: rest => if s = .help then .error (.help p) else setFlags p (i.set "" s) rest

/-- Takes over the switches of one argument, with the word that follows it if a value has to come. -/
def setSpelled (p : Part) (i : Invocation) (spelled : Spelled) (word : Option String) : Except Stop Invocation := do
  match spelled.valued with
  | none => setFlags p i spelled.flags
  | some (s, value) => match value.or word with
    | some value => return (← setFlags p i spelled.flags).set value s
    | none => .error (.misuse p (.missingValue s))

/-- Whether the value of a switch has to come with the next argument. -/
def Spelled.isOpen (s : Spelled) : Bool :=
  match s.valued with
  | some (_, none) => true
  | _ => false

/-- A result that a part may not understand. -/
def within {α : Type} (p : Part) (r : Except UsageFault α) : Except Stop α := r.mapError (.misuse p)

/-! ### Parts -/

/-- The arguments as they were written. -/
def written (pieces : List (String × Piece)) : List String := pieces.map (·.1)

/-- Reads what follows a command.  The first word is the path; `extra` collects what has no place. -/
def readCommand (c : Command) (i : Invocation) (hasPath : Bool) (extra : List String) :
    List (String × Piece) → Except Stop (Invocation × List String)
  | [] => .ok (i, extra)
  | (text, .unknown) :: rest => readCommand c i hasPath (extra ++ [text]) rest
  | (text, .separator) :: rest =>
    if hasPath then .ok (i, extra ++ text :: written rest)
    else match rest with
      | [] => .ok (i, extra)
      | (path, _) :: rest => .ok ({ i with path := path }, extra ++ written rest)
  | (text, .word) :: rest =>
    if hasPath then readCommand c i hasPath (extra ++ [text]) rest
    else match rest with
      | (_, .separator) :: rest => .ok ({ i with path := text }, extra ++ written rest)
      | rest => readCommand c { i with path := text } true extra rest
  | (_, .switch spelling) :: rest => do
    let spelled ← within (.command c) (spelling.spell (.command c))
    let extra := extra ++ spelled.unknown.toList
    match spelled.isOpen, rest with
    | true, (word, .word) :: rest =>
      let i ← setSpelled (.command c) i spelled (some word)
      readCommand c i hasPath extra rest
    | _, rest =>
      let i ← setSpelled (.command c) i spelled none
      readCommand c i hasPath extra rest

/-- Reads what stands in front of the command, and with the command all that follows it. -/
def readTop (i : Invocation) (extra : List String) : List (String × Piece) → Except Stop (Invocation × List String)
  | [] => .error (.misuse .top .noCommand)
  | (text, .unknown) :: rest => readTop i (extra ++ [text]) rest
  | (text, .separator) :: rest => .error (.misuse .top (if rest.isEmpty then .noCommand else .unknownCommand text))
  | (text, .word) :: rest =>
    match Command.ofName? text with
    | none => .error (.misuse .top (.unknownCommand text))
    | some c => do
      let pieces ← within (.command c) (readPieces (.command c) (written rest))
      readCommand c { i with command := c } false extra pieces
  | (_, .switch spelling) :: rest => do
    let spelled ← within .top (spelling.spell .top)
    let extra := extra ++ spelled.unknown.toList
    match spelled.isOpen, rest with
    | true, (word, .word) :: rest =>
      let i ← setSpelled .top i spelled (some word)
      readTop i extra rest
    | _, rest =>
      let i ← setSpelled .top i spelled none
      readTop i extra rest

/-- What the arguments of a command line ask for. -/
def readArguments (arguments : List String) : Except Stop Invocation := do
  let pieces ← within .top (readPieces .top arguments)
  let (i, extra) ← readTop {} [] pieces
  if extra.isEmpty then .ok i else .error (.misuse .top (.unrecognized extra))

end NavFactory.CommandLine
