import NavFactory.Template.Chunk

/-!
# Nodes of templates

The tree of a template: text, outputs, loops over lists and choices between branches.
-/

namespace NavFactory.Template

/-- An expression of a template. -/
inductive Term
  | text (s : String)
  | number (n : Nat)
  | lookup (name : String)
  | field (of : Term) (name : String)
  | filter (of : Term) (name : String) (arguments : List Term)
  | not (of : Term)
deriving Inhabited

/-- A part of a template. -/
inductive Node
  | text (s : String)
  | output (t : Term)
  | loop (item : String) (source : Term) (body orElse : List Node)
  | choice (test : Term) (body orElse : List Node)

/-! ### Expressions -/

/-- A word of the code inside a mark. -/
inductive Word
  | name (s : String)
  | number (n : Nat)
  | text (s : String)
  | sign (c : Char)
deriving DecidableEq

private def isNameChar (c : Char) : Bool := c.isAlphanum || c == '_'

/-- The words of a code; `none` if a text is not closed.  `fuel` bounds the number of words. -/
def words : Nat → List Char → Option (List Word)
  | 0, _ => none
  | _ + 1, [] => some []
  | fuel + 1, c :: rest =>
    if Text.isBlank c then words fuel rest
    else if c.isDigit then
      let digits := (c :: rest).takeWhile Char.isDigit
      (words fuel ((c :: rest).dropWhile Char.isDigit)).map
        (.number (digits.foldl (fun n d => n * 10 + (d.toNat - 48)) 0) :: ·)
    else if isNameChar c then
      let name := (c :: rest).takeWhile isNameChar
      (words fuel ((c :: rest).dropWhile isNameChar)).map (.name (String.ofList name) :: ·)
    else if c == '"' || c == '\'' then
      let text := rest.takeWhile (· != c)
      match rest.dropWhile (· != c) with
      | _ :: after => (words fuel after).map (.text (String.ofList text) :: ·)
      | [] => none
    else (words fuel rest).map (.sign c :: ·)

/-- The arguments of a filter behind its parenthesis: texts and numbers only. -/
def filterArguments : List Word → Option (List Term × List Word)
  | .sign ')' :: rest => some ([], rest)
  | .text s :: .sign ',' :: rest => (filterArguments rest).map fun (ts, rest) => (.text s :: ts, rest)
  | .number n :: .sign ',' :: rest => (filterArguments rest).map fun (ts, rest) => (.number n :: ts, rest)
  | .text s :: .sign ')' :: rest => some ([.text s], rest)
  | .number n :: .sign ')' :: rest => some ([.number n], rest)
  | _ => none

/-- What follows a term: fields, calls without arguments, which stand for fields, and filters. -/
def termTail : Nat → Term → List Word → Option (Term × List Word)
  | 0, _, _ => none
  | fuel + 1, t, .sign '.' :: .name f :: rest => termTail fuel (.field t f) rest
  | fuel + 1, t, .sign '(' :: .sign ')' :: rest => termTail fuel t rest
  | fuel + 1, t, .sign '|' :: .name f :: .sign '(' :: rest => do
    let (arguments, rest) ← filterArguments rest
    termTail fuel (.filter t f arguments) rest
  | fuel + 1, t, .sign '|' :: .name f :: rest => termTail fuel (.filter t f []) rest
  | _ + 1, t, rest => some (t, rest)

/-- A term and what follows it. -/
def takeTerm (ws : List Word) : Option (Term × List Word) :=
  let fuel := ws.length + 1
  match ws with
  | .name "not" :: .name s :: rest => (termTail fuel (.lookup s) rest).map fun (t, rest) => (.not t, rest)
  | .name s :: rest => termTail fuel (.lookup s) rest
  | .number n :: rest => termTail fuel (.number n) rest
  | .text s :: rest => termTail fuel (.text s) rest
  | _ => none

/-- A term that takes up all words. -/
def wholeTerm (ws : List Word) : Option Term :=
  match takeTerm ws with
  | some (t, []) => some t
  | _ => none

/-- The words of a code. -/
def wordsOf (code : List Char) : Option (List Word) := words (code.length + 1) code

/-! ### The tree -/

mutual

/-- Nodes up to a tag that ends them, the words of that tag, and the chunks behind it; no words stand for the end of
the template. -/
def nodes : Nat → List Chunk → Option (List Node × List Word × List Chunk)
  | 0, _ => none
  | _ + 1, [] => some ([], [], [])
  | fuel + 1, .text s :: rest => do
    let (more, finish, rest) ← nodes fuel rest
    some (.text (String.ofList s) :: more, finish, rest)
  | fuel + 1, .output code :: rest => do
    let t ← wholeTerm (← wordsOf code)
    let (more, finish, rest) ← nodes fuel rest
    some (.output t :: more, finish, rest)
  | fuel + 1, .tag code :: rest => do
    match ← wordsOf code with
    | .name "for" :: .name id :: .name "in" :: source => do
      let t ← wholeTerm source
      let (body, finish, rest) ← nodes fuel rest
      let (orElse, finish, rest) ← if finish == [.name "else"] then nodes fuel rest else some ([], finish, rest)
      if finish == [.name "endfor"] then do
        let (more, finish, rest) ← nodes fuel rest
        some (.loop id t body orElse :: more, finish, rest)
      else none
    | .name "if" :: test => do
      let (node, rest) ← branches fuel test rest
      let (more, finish, rest) ← nodes fuel rest
      some (node :: more, finish, rest)
    | finish => if finish.isEmpty then none else some ([], finish, rest)

/-- The branches of a choice from the test of one on, up to its end. -/
def branches : Nat → List Word → List Chunk → Option (Node × List Chunk)
  | 0, _, _ => none
  | fuel + 1, test, rest => do
    let t ← wholeTerm test
    let (body, finish, rest) ← nodes fuel rest
    match finish with
    | [.name "endif"] => some (.choice t body [], rest)
    | [.name "else"] => do
      let (orElse, finish, rest) ← nodes fuel rest
      if finish == [.name "endif"] then some (.choice t body orElse, rest) else none
    | .name "elif" :: test => do
      let (other, rest) ← branches fuel test rest
      some (.choice t body [other], rest)
    | _ => none

end

/-- The nodes of a template; `none` if it is malformed. -/
def parse (source : String) : Option (List Node) := do
  let cs ← chunksOf source
  match ← nodes (2 * cs.length + 2) cs with
  | (body, [], _) => some body
  | _ => none

end NavFactory.Template
