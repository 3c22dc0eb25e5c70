import HeaderBindings.CommandLine
import HeaderBindings.Run

/-! The program: from the arguments and the files to the exit status, what is printed and the files
afterwards. An error is reported in the log, which goes to standard error as far as the threshold
lets it. -/

namespace HeaderBindings

structure Outcome where
  status : Nat
  output : String := ""
  errors : String := ""
  files : FileSystem
  deriving Repr

namespace Program

def versionText : String := "beef_bindgen 0.1.0\n"

def usageText : String :=
  "Usage: beef_bindgen [OPTIONS]\n\nOptions:\n" ++
    String.join (Flag.all.map fun flag => "      --" ++ flag.longName ++ " <VALUE>\n") ++
    "  -h, --help\n  -V, --version\n"

/-- The run that the command line asks for. -/
def action (frontEnd : FrontEnd) (i : Invocation) : Action Unit := do
  let config ← i.config
  config.run frontEnd

/-- A run, its log with the report of the error it ends with, and its result. -/
def runReported (frontEnd : FrontEnd) (i : Invocation) (files : FileSystem) :
    Except Error Unit × Session :=
  match (action frontEnd i).run.run { files := files } with
  | (.ok (), session) => (.ok (), session)
  | (.error e, session) => (.error e, { session with log := session.log ++ e.report })

def run (frontEnd : FrontEnd) (arguments : List String) (files : FileSystem) : Outcome :=
  match Invocation.read arguments with
  | .error .version => { status := 0, output := versionText, files }
  | .error .help => { status := 0, output := usageText, files }
  | .error _ => { status := 2, errors := usageText, files }
  | .ok invocation =>
    match invocation.logLevel.elim (some Log.Threshold.default) Log.Threshold.ofName? with
    | none => { status := 1, files }
    | some threshold =>
      let (result, session) := runReported frontEnd invocation files
      { status := if result.isOk then 0 else 1
        errors := Log.shown threshold session.log
        files := session.files }

end Program

end HeaderBindings
