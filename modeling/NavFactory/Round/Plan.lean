import NavFactory.Round.Trace

/-!
# Plans

What a round works out before it touches a file: the declarations of the project, the containers that the
processors make of them and the texts of the generated files.  A plan only reads the file tree.
-/

namespace NavFactory

/-- What a round is asked to do. -/
structure Request where
  /-- The project, as the user spells it. -/
  path : String
  /-- Where the generated package goes, if not where the settings say. -/
  output : Option Path := none
  /-- The processors to use, if not those that the settings enable. -/
  processors : Option (List Processor) := none
  entryPoints : List EntryPoint := []
  /-- The directory of templates, if not that of the settings. -/
  templates : Option Path := none
deriving DecidableEq

/-- A record of the round itself. -/
def roundRecord (level : Level) (message : String) : LogRecord := ⟨channel "orchestrator", level, message, none⟩

/-! ### Settings -/

/-- The directory of a project that exists. -/
def projectRoot (tree : Entry) (current : List String) (path : String) : Except RoundFault Path := do
  let root ← (Entry.resolvePath current (Path.ofText path)).mapError .unresolved
  if ← (tree.hasEntry root).mapError .unresolved then .ok root else .error (.noProject path)

/-- The settings of a project, with the output that a request asks for. -/
def requestedSettings (tree : Entry) (current : List String) (root : Path) (output : Option Path) :
    Except RoundFault Settings := do
  let settings ← (Settings.load tree current root).mapError .settings
  match output with
  | none => .ok settings
  | some directory => .ok { settings with directory := ← (Entry.resolvePath current directory).mapError .unresolved }

/-! ### Declarations -/

/-- The pattern that keeps a scan out of the output, if that lies below the source root.  Where the output is the
source root itself, only the generated package is left out. -/
def outputPattern? (settings : Settings) (sourceRoot : Path) : Option String :=
  let root := sourceRoot.resolved []
  let inside := ((settings.directory.resolved []).relativeTo? root).bind fun relative =>
    if relative.parts.isEmpty then (settings.packageDirectory.resolved []).relativeTo? root else some relative
  inside.map fun relative => "/" ++ relative.text ++ "/"

/-- The patterns that a scan of a source root leaves out. -/
def scanExcludes (settings : Settings) (sourceRoot : Path) : Except FileFault (List String) := do
  let _ ← Entry.resolvePath [] settings.directory
  match Entry.resolvePath [] sourceRoot with
  | .error _ => .ok settings.excludePaths
  | .ok _ => .ok (settings.excludePaths ++ (outputPattern? settings sourceRoot).toList)

/-- The error for a source file without text. -/
def unreadableSource (file : SourceFile) (fault : ReadingFault) : Diagnostic :=
  .against .error ("Cannot read source file: " ++ fault.message) none (some file.path)

/-- The declarations of a source file; a file that cannot be read or is malformed has none. -/
def readFile (tree : Entry) (root : Path) (file : SourceFile) : Trace (List Declaration) :=
  match tree.readText (root.child file.path) with
  | .error (.file ⟨.nullCharacter, path⟩) => Trace.lift .unresolved (.error ⟨.nullCharacter, path⟩)
  | .error fault => do
    Trace.tell [unreadableSource file fault]
    pure []
  | .ok text => do
    let (declarations, diagnostics) ← Trace.lift .source (readSource text ⟨file.path, file.module⟩)
    Trace.tell diagnostics
    pure declarations

/-- The declarations below a source root. -/
def readSourceRoot (tree : Entry) (current : List String) (settings : Settings) (sourceRoot : Path) :
    Trace (List Declaration) := do
  let excludes ← Trace.lift .unresolved (scanExcludes settings sourceRoot)
  let (manifest, records) ← Trace.lift .scan (scan tree current excludes sourceRoot.text)
  Trace.log records
  let count := toString manifest.files.length
  Trace.log [roundRecord .debug ("Scanner discovered " ++ count ++ " modules in " ++ sourceRoot.text)]
  let declarations ← Trace.forEach (readFile tree manifest.root) manifest.files
  let found := declarations.flatten
  Trace.log [⟨channel "declarations", .debug,
    "Read " ++ toString found.length ++ " marked declarations from " ++ count ++ " modules", none⟩]
  pure found

/-- The warning for parameters that nothing takes, if a declaration has such. -/
def idleParameters? (d : Declaration) : Option Diagnostic :=
  if !(d.usages parameterMarker).isEmpty &&
      !((d.firstUsage? activityMarker).isSome || (d.firstUsage? fragmentMarker).isSome) then
    some (.against .warning ("@" ++ parameterMarker ++ " on " ++ d.name ++ " has no effect without @" ++
      activityMarker ++ " or @" ++ fragmentMarker) (some d))
  else none

/-- The declarations of a project. -/
def readDeclarations (tree : Entry) (current : List String) (settings : Settings) : Trace (List Declaration) := do
  let found ← Trace.forEach (readSourceRoot tree current settings) settings.sourceRoots
  let declarations := found.flatten
  Trace.tell (declarations.filterMap idleParameters?)
  pure declarations

/-! ### Containers -/

/-- The processors of a round. -/
def chosenProcessors (request : Request) (settings : Settings) : Except DiscoveryFault (List Processor) :=
  match request.processors with
  | some processors => .ok processors
  | none => discover settings.enabled request.entryPoints

/-- The class name of the container of a processor. -/
def containerNameFor (settings : Settings) (p : Processor) : String :=
  (settings.containers.forKind? p.kind).getD (containerNameOf p.module)

/-- The container that a processor makes. -/
def buildContainer (settings : Settings) (declarations : List Declaration) (p : Processor) : Trace Container := do
  let name := containerNameFor settings p
  Trace.log [roundRecord .debug ("Running " ++ p.kind ++ " processor into " ++ name)]
  let container ← Trace.ofReport (p.container declarations name)
  Trace.log (p.emissionRecords container)
  pure container

/-- The containers that the processors of a round make. -/
def buildContainers (request : Request) (settings : Settings) (declarations : List Declaration) :
    Trace (List Container) := do
  let processors ← Trace.lift .discovery (chosenProcessors request settings)
  Trace.forEach (buildContainer settings declarations) processors

/-! ### Texts -/

/-- The template of a name in a directory of templates, if it is there. -/
def templateFile (tree : Entry) (directory : Option Path) (name : String) : Except RoundFault (Option String) :=
  match directory.map (·.child name) with
  | none => .ok none
  | some file => match tree.find file with
    | .ok (.file _) => ((tree.readText file).mapError .template).map some
    | _ => .ok none

/-- The file names of templates. -/
def containerTemplateName : String := "container.py.j2"

@[inherit_doc containerTemplateName] def packageTemplateName : String := "package_init.py.j2"

/-- Adds the text of each container to those before it.  The template is looked at only when there is a container
to write. -/
def renderContainers (template : Except RoundFault (Option String)) (done : Sources) :
    List Container → Except RoundFault Sources
  | [] => .ok done
  | c :: rest =>
    if done.any (·.1 == c.fileName) || c.fileName == packageFileName then .error (.sameFile c.fileName)
    else do
      let text ← (renderContainer ⟨← template, none⟩ c).mapError .render
      renderContainers template (done ++ [(c.fileName, text)]) rest

/-- The texts of all containers and of the package that exports them. -/
def renderSources (tree : Entry) (templates : Option Path) (containers : List Container) : Except RoundFault Sources := do
  let sources ← renderContainers (templateFile tree templates containerTemplateName) [] containers
  let template ← templateFile tree templates packageTemplateName
  let text ← (renderPackage ⟨none, template⟩ containers).mapError .render
  .ok (sources ++ [(packageFileName, text)])

/-! ### The plan -/

/-- What a round is about to write. -/
structure Plan where
  settings : Settings
  containers : List Container
  sources : Sources
deriving DecidableEq

/-- Works out what to write for a request; `current` is the directory that relative paths start from. -/
def plan (tree : Entry) (current : List String) (request : Request) : Trace Plan := do
  let root ← Trace.lift id (projectRoot tree current request.path)
  Trace.log [roundRecord .info ("Starting generation round for " ++ root.text)]
  let settings ← Trace.lift id (requestedSettings tree current root request.output)
  let declarations ← readDeclarations tree current settings
  let containers ← buildContainers request settings declarations
  let sources ← Trace.lift id (renderSources tree (request.templates.or settings.templates) containers)
  pure ⟨settings, containers, sources⟩

end NavFactory
