import NavFactory.Document.Construct
import NavFactory.Files.Access
import NavFactory.Text.Case
import NavFactory.Text.Identifier

/-!
# Settings

What `.autotarget.yml` says about a project.  A setting that is missing or of the wrong kind has its default; only a
package or class name that is none is an error.
-/

namespace NavFactory

/-! ### Values as settings -/

namespace Value

/-- The text of a scalar. -/
def settingText : Value → Except DigitLimit (Option String)
  | .text s => .ok (some s)
  | .state m => .ok (some ("FragmentState." ++ m.name))
  | .bool b => .ok (some (if b then "True" else "False"))
  | .int i => (shownInt i).map some
  | .real x => .ok (some (Number.Double.write Number.Double.plain x))
  | _ => .ok Option.none

/-- The texts that count as a truth value, blanks around them and case apart. -/
def settingTruths : List (String × Bool) :=
  [("true", true), ("yes", true), ("1", true), ("false", false), ("no", false), ("0", false)]

/-- The truth value that a value stands for. -/
def settingBool : Value → Option Bool
  | .bool b => some b
  | v => v.asText?.bind fun s => settingTruths.lookup (Text.lower (Text.trim s))

/-- The texts of the scalars among several values. -/
def settingTextsOf : List Value → Except DigitLimit (List String)
  | [] => .ok []
  | v :: rest => do
    let text ← v.settingText
    .ok (text.toList ++ (← settingTextsOf rest))

/-- The texts of a sequence, or a text alone. -/
def settingTexts : Value → Except DigitLimit (List String)
  | .text s => .ok [s]
  | .state m => .ok ["FragmentState." ++ m.name]
  | .list items => settingTextsOf items
  | .tuple items => settingTextsOf items
  | .bytes bs => settingTextsOf (bs.map fun b => .int b.toNat)
  | _ => .ok []

/-- The entries of a mapping. -/
def settingEntries : Value → List (Value × Value)
  | .dict entries => entries
  | _ => []

/-- The value of a text key. -/
def entry (entries : List (Value × Value)) (key : String) : Value :=
  ((entries.find? fun (k, _) => k.equals (.text key)).map (·.2)).getD .none

/-- Whether a value counts as nothing. -/
def isEmptySetting : Value → Bool
  | .none => true
  | .bool b => !b
  | .int i => i == 0
  | .real x => x.isZero
  | .text s => s.isEmpty
  | .bytes bs => bs.isEmpty
  | .list items => items.isEmpty
  | .set items => items.isEmpty
  | .dict entries => entries.isEmpty
  | _ => false

end Value

/-! ### Settings -/

/-- The class names of the containers. -/
structure ContainerNames where
  activity : String := "ActivityTargets"
  fragment : String := "FragmentTargets"
  bundle : String := "Bundles"
deriving DecidableEq

/-- The class name of the container of a kind, if it can be set. -/
def ContainerNames.forKind? (names : ContainerNames) (kind : String) : Option String :=
  [("activity", names.activity), ("fragment", names.fragment), ("bundle", names.bundle)].lookup kind

/-- The settings of a project. -/
structure Settings where
  root : Path
  sourceRoots : List Path
  excludePaths : List String := []
  directory : Path
  package : String
  templates : Option Path := none
  containers : ContainerNames := {}
  enabled : List String := []
  strict : Bool := false
deriving DecidableEq

/-- The name of the file that holds settings. -/
def settingsFileName : String := ".autotarget.yml"

def defaultDirectory : String := "generated"

def defaultPackage : String := "autotarget_generated"

namespace Settings

/-- The settings of a project without a file for them. -/
def default (root : Path) : Settings where
  root := root
  sourceRoots := [root]
  directory := root.child defaultDirectory
  package := defaultPackage

/-- The directory of the generated package. -/
def packageDirectory (s : Settings) : Path :=
  s.directory / ⟨"", Text.parts '.' s.package⟩

end Settings

/-- Why settings cannot be used. -/
inductive SettingsFault
  | unreadable (f : ReadingFault)
  | document (f : Document.DocumentFault)
  | notMapping
  | packageName (name : String)
  | containerName (kind name : String)
  | digits (limit : Value.DigitLimit)
deriving DecidableEq

namespace SettingsFault

def message : SettingsFault → String
  | unreadable f => f.message
  | document .malformed => "Failed to parse " ++ settingsFileName ++ ": malformed document"
  | document f => f.message
  | notMapping => settingsFileName ++ " must contain a mapping at the root"
  | packageName name => "output.package is not a valid package name: " ++ Text.quote name
  | containerName kind name => "containers." ++ kind ++ " is not a valid class name: " ++ Text.quote name
  | digits limit => limit.message

/-- Whether a fault is one of the settings themselves, which a scan passes over. -/
def isOwn : SettingsFault → Bool
  | document .malformed => true
  | notMapping => true
  | packageName _ => true
  | containerName .. => true
  | _ => false

end SettingsFault

namespace Settings

/-- A value that may have too many digits. -/
def withinLimit {α : Type} : Except Value.DigitLimit α → Except SettingsFault α
  | .ok a => .ok a
  | .error limit => .error (.digits limit)

/-- A text that is not empty, or another one. -/
def textOr (text : Option String) (default : String) : String :=
  match text with
  | some s => if s.isEmpty then default else s
  | none => default

/-- Whether a text is a dotted path of identifiers. -/
def isPackageName (name : String) : Bool := (Text.parts '.' name).all Text.isIdentifier

/-- Takes over where the output goes. -/
def withOutput (s : Settings) (entries : List (Value × Value)) : Except SettingsFault Settings := do
  if entries.isEmpty then .ok s
  else
    let directory := textOr (← withinLimit (Value.entry entries "directory").settingText) defaultDirectory
    let package := textOr (← withinLimit (Value.entry entries "package").settingText) defaultPackage
    if !isPackageName package then .error (.packageName package)
    else
      let templates ← withinLimit (Value.entry entries "templates_dir").settingText
      .ok { s with
        directory := s.root.child directory
        package := package
        templates := (templates.filter (!·.isEmpty)).map s.root.child }

/-- The class name that a section gives to a kind of container, if it does. -/
def containerName (entries : List (Value × Value)) (kind default : String) : Except SettingsFault String := do
  match ← withinLimit (Value.entry entries kind).settingText with
  | none => .ok default
  | some name => if Text.isIdentifier name then .ok name else .error (.containerName kind name)

/-- Takes over the class names of containers. -/
def withContainers (s : Settings) (entries : List (Value × Value)) : Except SettingsFault Settings := do
  let activity ← containerName entries "activity" s.containers.activity
  let fragment ← containerName entries "fragment" s.containers.fragment
  let bundle ← containerName entries "bundle" s.containers.bundle
  .ok { s with containers := ⟨activity, fragment, bundle⟩ }

/-- The settings that the entries of a document give. -/
def ofEntries (root : Path) (entries : List (Value × Value)) : Except SettingsFault Settings := do
  let of (key : String) := Value.entry entries key
  let roots ← withinLimit (of "source_roots").settingTexts
  let s := Settings.default root
  let s := if roots.isEmpty then s else { s with sourceRoots := roots.map root.child }
  let s ← s.withOutput (of "output").settingEntries
  let s ← s.withContainers (of "containers").settingEntries
  let enabled ← withinLimit (Value.entry (of "processors").settingEntries "enabled").settingTexts
  let excludePaths ← withinLimit (of "exclude_paths").settingTexts
  .ok { s with enabled, excludePaths, strict := (of "strict").settingBool.getD false }

/-- The settings that a text gives. -/
def ofText (root : Path) (text : String) : Except SettingsFault Settings :=
  if Text.isBlankText text then ofEntries root []
  else match Document.valueOfText text with
    | .error f => .error (.document f)
    | .ok (.dict entries) => ofEntries root entries
    | .ok v => if v.isEmptySetting then ofEntries root [] else .error .notMapping

/-! ### Loading -/

/-- The path of the settings that a path stands for: in that directory, or beside it. -/
def pathFor (tree : Entry) (current : List String) (p : Path) : Except FileFault Path := do
  let p := if p.isAbsolute then p else ⟨"/", current ++ p.parts⟩
  if ← tree.hasDirectory p then Entry.resolvePath [] (p.child settingsFileName)
  else if p.name == settingsFileName then Entry.resolvePath [] p
  else Entry.resolvePath [] (p.parent.child settingsFileName)

/-- The settings that a path stands for; without a file for them, the defaults. -/
def load (tree : Entry) (current : List String) (p : Path) : Except SettingsFault Settings := do
  match pathFor tree current p with
  | .error f => .error (.unreadable (.file f))
  | .ok file =>
    match tree.hasEntry file with
    | .error f => .error (.unreadable (.file f))
    | .ok false => .ok (Settings.default file.parent)
    | .ok true => match tree.readText file with
      | .error f => .error (.unreadable f)
      | .ok text => ofText file.parent text

end Settings

end NavFactory
