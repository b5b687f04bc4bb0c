import NavFactory.Ignore.Glob
import NavFactory.Text.Lines
import NavFactory.Text.Parts

/-!
# Ignore rules

A rule is a pattern with marks around it: a slash at the end limits it to directories, a slash in front binds it to
the root, and an exclamation mark takes back what an earlier rule ignored.  Of all rules that match, the last one
decides.
-/

namespace NavFactory

/-- A rule about paths that are not scanned. -/
structure IgnoreRule where
  pattern : String
  directoryOnly : Bool
  anchored : Bool
  negated : Bool
  hasSlash : Bool
deriving DecidableEq

namespace IgnoreRule

/-- The rule that a text spells, unless it is blank. -/
def ofPattern? (text : String) (negated : Bool := false) : Option IgnoreRule :=
  match Text.trimChars text.toList with
  | [] => none
  | cs =>
    let directoryOnly := cs.getLast? == some '/'
    let cs := if directoryOnly then cs.dropLast else cs
    let anchored := cs.head? == some '/'
    let cs := if anchored then cs.tail else cs
    some ⟨String.ofList cs, directoryOnly, anchored, negated, cs.contains '/'⟩

/-- The rules of a list of patterns. -/
def ofPatterns (patterns : List String) : List IgnoreRule := patterns.filterMap fun p => ofPattern? p

/-- The rules of an ignore file, one a line; blank lines and those that start with a number sign hold none. -/
def ofLines (text : String) : List IgnoreRule :=
  (Text.bareLines (Text.normalizeBreaks text.toList)).filterMap fun line =>
    match Text.trimChars line with
    | [] => none
    | '#' :: _ => none
    | '!' :: pattern => ofPattern? (String.ofList pattern) true
    | pattern => ofPattern? (String.ofList pattern)

/-- Whether a rule is about a path below the root.  A pattern with a slash is compared with the whole path, any
other with each of its parts. -/
def applies (rule : IgnoreRule) (path : String) (isDirectory : Bool) : Bool :=
  if rule.pattern.isEmpty then false
  else if rule.directoryOnly && !isDirectory then false
  else if rule.anchored || rule.hasSlash then
    Glob.matchesText rule.pattern path || (rule.directoryOnly && (rule.pattern ++ "/").toList.isPrefixOf path.toList)
  else (Text.parts '/' path).any (Glob.matchesText rule.pattern)

end IgnoreRule

/-- Whether a path is ignored: the last rule that applies decides. -/
def isIgnored (rules : List IgnoreRule) (path : String) (isDirectory : Bool) : Bool :=
  rules.foldl (fun ignored rule => if rule.applies path isDirectory then !rule.negated else ignored) false

end NavFactory
