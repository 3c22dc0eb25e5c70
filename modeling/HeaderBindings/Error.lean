import HeaderBindings.Diagnostic
import HeaderBindings.Text.Quoted

/-! Why a run fails. An error has a cause and the causes below it, and is reported from the root
cause up. -/

namespace HeaderBindings

/-- What is wrong with a configuration. -/
inductive ConfigProblem where
  | missing (key : String)
  | badNamespace (name : String)
  | badLibrary (name : String)
  | other (text : String)
  deriving DecidableEq, Repr

def ConfigProblem.message : ConfigProblem → String
  | .missing key => "missing required value: " ++ key
  | .badNamespace name => "invalid namespace: " ++ Text.quoted name
  | .badLibrary name => "invalid library name: " ++ Text.quoted name
  | .other text => text

/-- Paths are given as they are shown. -/
inductive Cause where
  | headerNotFound (path : String)
  /-- The front-end could not be started. -/
  | frontEndUnavailable (reason : String)
  /-- The front-end could not read the header at all. -/
  | frontEndFailed (path : String)
  /-- The front-end found errors in the header. -/
  | parseFailed (path : String) (diagnostics : List Diagnostic)
  | invalidConfig (problem : ConfigProblem)
  | stageFailed (stage : String)
  | notRead (path : String)
  | notWritten (path : String)
  | directoryNotCreated (path : String)
  | notToml (path : String)
  | pathNotUnicode (path : String)
  /-- A refusal of the operating system. -/
  | io (text : String)
  | note (text : String)
  deriving DecidableEq, Repr

def Cause.message : Cause → String
  | .headerNotFound path => "header file not found: " ++ path
  | .frontEndUnavailable reason => "clang init failed: " ++ reason
  | .frontEndFailed path => "clang parse failed: " ++ path
  | .parseFailed path diagnostics => s!"failed to parse {path} ({diagnostics.length} diagnostics)"
  | .invalidConfig problem => "invalid configuration: " ++ problem.message
  | .stageFailed stage => "generation stage failed: " ++ stage
  | .notRead path => "failed to read file: " ++ path
  | .notWritten path => "failed to write file: " ++ path
  | .directoryNotCreated path => "failed to create directory: " ++ path
  | .notToml path => "failed to parse TOML file: " ++ path
  | .pathNotUnicode path => "path is not valid unicode: " ++ path
  | .io text => text
  | .note text => text

/-- A cause and the causes below it, the nearest first. -/
structure Error where
  cause : Cause
  below : List Cause := []
  deriving DecidableEq, Repr

namespace Error

/-- The error as the cause of another one. -/
def within (e : Error) (cause : Cause) : Error :=
  ⟨cause, e.cause :: e.below⟩

def diagnostics? (e : Error) : Option (List Diagnostic) :=
  match e.cause with
  | .parseFailed _ diagnostics => some diagnostics
  | _ => none

/-- A number in at least four columns. -/
def position (i : Nat) : String :=
  let digits := toString i
  String.ofList (List.replicate (4 - digits.length) ' ') ++ digits

/-- The diagnostics behind an error, and then its causes, counted from the root. -/
def report (e : Error) : Log :=
  let record (text : String) : Log.Record := ⟨.error, .failure, text⟩
  let causes := (e.cause :: e.below).reverse.zipIdx
  ((e.diagnostics?.getD []).map fun d => record d.text).toArray ++ #[record "Error:"] ++
    (causes.map fun (cause, i) => record (position i ++ ": " ++ cause.message)).toArray

end Error

end HeaderBindings
