import NavFactory.CommandLine.Switch
import NavFactory.Text.Parts

/-!
# Help

Usage lines and help of each part of a command line, laid out for a terminal of eighty columns.
-/

namespace NavFactory.CommandLine

/-- The columns that a line may take; the last two of a terminal stay free. -/
def lineWidth : Nat := 78

/-- The column at which the help of a row starts at the latest. -/
def maxHelpColumn : Nat := 24

def spaces (n : Nat) : String := String.ofList (List.replicate n ' ')

/-- Distributes words over lines.  The first line starts with `line`, the last word of which ends at column `used`;
the others may take up all of `width` behind `indent` columns. -/
def fillLines (width indent : Nat) (line : List String) (used : Nat) : List String → List (List String)
  | [] => if line.isEmpty then [] else [line]
  | word :: rest =>
    if line.isEmpty then fillLines width indent [word] (indent + word.length) rest
    else if width < used + 1 + word.length then
      line :: fillLines width indent [word] (indent + word.length) rest
    else fillLines width indent (line ++ [word]) (used + 1 + word.length) rest

/-- Words as lines of a given width. -/
def wrap (width : Nat) (text : String) : List String :=
  (fillLines width 0 [] 0 ((Text.parts ' ' text).filter (!·.isEmpty))).map (" ".intercalate ·)

namespace Part

/-- The places of a part for words, as a usage line shows them. -/
def places : Part → List String
  | top => ["\x7b" ++ ",".intercalate (Command.all.map (·.name)) ++ "\x7d", "..."]
  | command _ => ["[path]"]

/-- The switches of a part, as a usage line shows them. -/
def switchPlaces (p : Part) : List String :=
  p.switches.map fun s => "[" ++ s.spelled (s.names.headD "") ++ "]"

/-- The usage line of a part; one that is too long goes on below the first switch, the places for words on lines of
their own. -/
def usage (p : Part) : String :=
  let lead := "usage: " ++ p.program
  let line := " ".intercalate (lead :: p.switchPlaces ++ p.places)
  if line.length ≤ lineWidth then line ++ "\n"
  else
    let indent := lead.length + 1
    let below (words : List String) := spaces indent ++ " ".intercalate words
    match fillLines lineWidth indent [lead] lead.length p.switchPlaces with
    | [] => line ++ "\n"
    | first :: others =>
      "\n".intercalate (" ".intercalate first ::
        (others ++ fillLines lineWidth indent [] 0 p.places).map below) ++ "\n"

end Part

/-- A row of help: how far it is indented, what it is about, and the text. -/
structure HelpRow where
  indent : Nat
  label : String
  text : String

/-- The rows of the places for words. -/
def placeRows : Part → List HelpRow
  | .top => ⟨2, (Part.places .top).headD "", ""⟩ :: Command.all.map fun c => ⟨4, c.name, c.help⟩
  | .command _ => [⟨2, "path", "Project root holding .autotarget.yml (defaults to current directory)."⟩]

/-- The rows of the switches. -/
def switchRows (p : Part) : List HelpRow :=
  p.switches.map fun s => ⟨2, ", ".intercalate (s.names.map s.spelled), s.helpText⟩

/-- The column at which the texts of a part start. -/
def helpColumn (p : Part) : Nat :=
  min maxHelpColumn (((placeRows p ++ switchRows p).map fun r => r.label.length + 4).foldl max 0)

/-- A row whose texts start at a column; a long label takes a line of its own. -/
def HelpRow.render (column : Nat) (r : HelpRow) : String :=
  let head := spaces r.indent ++ r.label
  let texts := wrap (lineWidth - column) r.text
  let lines := match texts with
    | [] => [head]
    | first :: others =>
      if head.length + 2 ≤ column then
        (head ++ spaces (column - head.length) ++ first) :: others.map (spaces column ++ ·)
      else head :: texts.map (spaces column ++ ·)
  String.join (lines.map (· ++ "\n"))

/-- What the program is for. -/
def description : Part → String
  | .top => "Generate navigation target factories from marked classes.\n\n"
  | .command _ => ""

/-- The help of a part. -/
def Part.help (p : Part) : String :=
  let rows (rs : List HelpRow) := String.join (rs.map (·.render (helpColumn p)))
  p.usage ++ "\n" ++ description p ++ "positional arguments:\n" ++ rows (placeRows p) ++ "\noptions:\n" ++
    rows (switchRows p)

end NavFactory.CommandLine
