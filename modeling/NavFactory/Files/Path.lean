import NavFactory.Text.Parts

/-!
# Paths

A path is a list of names behind an optional root.  Single dots and repeated slashes vanish when a path is read;
double dots stay until the path is resolved.
-/

namespace NavFactory

/-- A path; `root` is empty for a relative one. -/
structure Path where
  root : String
  parts : List String
deriving DecidableEq

namespace Path

/-- The parts of a text between its slashes, without those that name no step. -/
def steps (text : String) : List String :=
  (Text.parts '/' text).filter fun part => !part.isEmpty && part != "."

/-- The path that a text spells.  Exactly two slashes in front are a root of their own. -/
def ofText (text : String) : Path :=
  let root :=
    match text.toList with
    | '/' :: '/' :: '/' :: _ => "/"
    | '/' :: '/' :: _ => "//"
    | '/' :: _ => "/"
    | _ => ""
  ⟨root, steps text⟩

/-- The absolute path of several names. -/
def absolute (names : List String) : Path := ⟨"/", names⟩

def isAbsolute (p : Path) : Bool := !p.root.isEmpty

/-- The text of a path. -/
def text (p : Path) : String :=
  let text := p.root ++ "/".intercalate p.parts
  if text.isEmpty then "." else text

/-- Whether a path holds a null character. -/
def hasNull (p : Path) : Bool := p.parts.any (·.toList.contains '\x00')

/-- A path below another; an absolute path stands for itself. -/
def join (p q : Path) : Path := if q.isAbsolute then q else ⟨p.root, p.parts ++ q.parts⟩

instance : Div Path := ⟨join⟩

/-- The path that a text spells below another. -/
def child (p : Path) (text : String) : Path := p / ofText text

/-- The last name of a path. -/
def name (p : Path) : String := p.parts.getLastD ""

/-- The path without its last name. -/
def parent (p : Path) : Path := ⟨p.root, p.parts.dropLast⟩

/-- The names that remain when every double dot takes back the name before it. -/
def collapse (done : List String) : List String → List String
  | [] => done
  | ".." :: rest => collapse done.dropLast rest
  | part :: rest => collapse (done ++ [part]) rest

/-- The names of a path from the top of the file tree; a relative path starts from `current`. -/
def resolve (current : List String) (p : Path) : List String :=
  collapse (if p.isAbsolute then [] else current) p.parts

/-- The absolute path without double dots. -/
def resolved (current : List String) (p : Path) : Path := absolute (p.resolve current)

/-- What is left of the parts of a path behind those of another, if they start it. -/
def partsBelow : List String → List String → Option (List String)
  | [], parts => some parts
  | _ :: _, [] => none
  | a :: above, b :: parts => if a == b then partsBelow above parts else none

/-- A path as seen from another that it starts with. -/
def relativeTo? (p above : Path) : Option Path :=
  if p.root == above.root then (partsBelow above.parts p.parts).map fun parts => ⟨"", parts⟩ else none

theorem join_relative (p q : Path) (h : q.root = "") : p / q = ⟨p.root, p.parts ++ q.parts⟩ := by
  show join p q = _
  simp [join, isAbsolute, h]

theorem partsBelow_append (above parts : List String) : partsBelow above (above ++ parts) = some parts := by
  induction above with
  | nil => rfl
  | cons a above ih => simp [partsBelow, ih]

end Path

end NavFactory
