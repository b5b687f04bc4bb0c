import NavFactory.Declaration
import NavFactory.Log

/-!
# Diagnostics

A diagnostic is a message about a declaration or a file.  `Report` collects the diagnostics of a computation in the
order in which they arise; a computation that stops at a number too long to be written keeps those it had.
-/

namespace NavFactory

/-- How bad a diagnostic is. -/
inductive Severity
  | error
  | warning
  | note
deriving DecidableEq

namespace Severity

def name : Severity → String
  | error => "error"
  | warning => "warning"
  | note => "note"

def all : List Severity := [error, warning, note]

/-- The level at which a diagnostic is logged. -/
def level : Severity → Level
  | error => .error
  | warning => .warning
  | note => .debug

end Severity

/-- A message tied to the declaration or file that caused it. -/
structure Diagnostic where
  severity : Severity
  message : String
  declaration : Option String := none
  path : Option String := none
  line : Int := 0
deriving DecidableEq

namespace Diagnostic

/-- A path counts only if it is not empty. -/
def given (path : Option String) : Option String := path.filter (!·.isEmpty)

/-- A diagnostic against a declaration, whose path and line it takes unless others are given. -/
def against (severity : Severity) (message : String) (declaration : Option Declaration)
    (path : Option String := none) (line : Option Int := none) : Diagnostic where
  severity := severity
  message := message
  declaration := declaration.map (·.name)
  path := (given path).or (declaration.bind (·.path))
  line := line.getD ((declaration.map fun d => (d.line : Int)).getD 0)

/-- An error against a declaration. -/
def errorOn (d : Declaration) (message : String) : Diagnostic := against .error message (some d)

/-- The diagnostic as one line, after its place if that is known. -/
def format (d : Diagnostic) : String :=
  let location := match given d.path with
    | none => ""
    | some path => if d.line == 0 then path ++ ": " else path ++ ":" ++ toString d.line ++ ": "
  location ++ d.severity.name ++ ": " ++ d.message

def isError (d : Diagnostic) : Bool := d.severity == .error

def isWarning (d : Diagnostic) : Bool := d.severity == .warning

/-- The log record of a diagnostic. -/
def record (d : Diagnostic) : LogRecord := ⟨diagnosticsChannel, d.severity.level, d.format, none⟩

end Diagnostic

/-- A result together with the diagnostics reported on the way to it. -/
structure Report (α : Type) where
  diagnostics : List Diagnostic
  result : Except Value.DigitLimit α

namespace Report

variable {α β : Type}

/-- Goes on with a result; the diagnostics of the second part follow those of the first. -/
def andThen (r : Report α) (f : α → Report β) : Report β :=
  match r.result with
  | .ok a => ⟨r.diagnostics ++ (f a).diagnostics, (f a).result⟩
  | .error e => ⟨r.diagnostics, .error e⟩

instance : Monad Report where
  pure a := ⟨[], .ok a⟩
  bind := andThen

/-- Reports diagnostics. -/
def tell (diagnostics : List Diagnostic) : Report Unit := ⟨diagnostics, .ok ()⟩

/-- A result that may be out of reach. -/
def lift (result : Except Value.DigitLimit α) : Report α := ⟨[], result⟩

@[simp] theorem diagnostics_pure (a : α) : (pure a : Report α).diagnostics = [] := rfl

@[simp] theorem result_pure (a : α) : (pure a : Report α).result = .ok a := rfl

theorem bind_eq (r : Report α) (f : α → Report β) : r >>= f = r.andThen f := rfl

@[simp] theorem andThen_ok (diagnostics : List Diagnostic) (a : α) (f : α → Report β) :
    (⟨diagnostics, .ok a⟩ : Report α).andThen f = ⟨diagnostics ++ (f a).diagnostics, (f a).result⟩ := rfl

@[simp] theorem andThen_error (diagnostics : List Diagnostic) (limit : Value.DigitLimit) (f : α → Report β) :
    (⟨diagnostics, .error limit⟩ : Report α).andThen f = ⟨diagnostics, .error limit⟩ := rfl

@[simp] theorem pure_andThen (a : α) (f : α → Report β) : (pure a : Report α).andThen f = f a := rfl

@[simp] theorem result_andThen_pure (r : Report α) (f : α → β) :
    (r.andThen fun a => pure (f a)).result = r.result.map f := by
  obtain ⟨diagnostics, limit | a⟩ := r <;> rfl

@[simp] theorem diagnostics_andThen_pure (r : Report α) (f : α → β) :
    (r.andThen fun a => pure (f a)).diagnostics = r.diagnostics := by
  obtain ⟨diagnostics, limit | a⟩ := r <;> simp

end Report

end NavFactory
