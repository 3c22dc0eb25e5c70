import HeaderBindings.Error
import HeaderBindings.FileSystem

/-! A run changes files and writes a log; it ends with a result or an error. -/

namespace HeaderBindings

structure Session where
  files : FileSystem := {}
  log : Log := #[]
  deriving Repr

/-- A step of a run. What it has done before it fails is not undone. -/
abbrev Action := ExceptT Error (StateM Session)

namespace Action

def record (r : Log.Record) : Action Unit :=
  modify fun s => { s with log := s.log.push r }

def records (rs : List Log.Record) : Action Unit :=
  modify fun s => { s with log := s.log ++ rs.toArray }

def fail {α : Type} (cause : Cause) (below : List Cause) : Action α :=
  throw ⟨cause, below⟩

/-- Text of the file at a path. -/
def readText (path : Path) : Action String := do
  let s ← get
  match s.files.read path with
  | .error refusal => fail (.notRead path.shown) [.io refusal.message]
  | .ok content =>
    match Text.decode? content with
    | none => fail (.notRead path.shown) [.io Refusal.notText.message]
    | some text => return text

/-- Makes a directory that is not there, and the ones above it. -/
def makeDirectory (path : Path) : Action Unit := do
  let s ← get
  if path.isEmpty || s.files.isThere path then pure ()
  else
    record ⟨.trace, .files, "creating directory: " ++ path.shown⟩
    let (result, files) := s.files.makeDirectories path
    modify fun s => { s with files := files }
    match result with
    | .ok () => pure ()
    | .error refusal => fail (.directoryNotCreated path.shown) [.io refusal.message]

/-- Writes a text to the file at a path, in a directory that is made if it is not there. -/
def saveText (path : Path) (text : String) : Action Unit := do
  match path.parent? with
  | some parent => makeDirectory parent
  | none => pure ()
  let s ← get
  match s.files.write path (Text.Bytes.ofString text) with
  | .ok files => set { s with files := files }
  | .error refusal => fail (.notWritten path.shown) [.io refusal.message]

end Action

end HeaderBindings
