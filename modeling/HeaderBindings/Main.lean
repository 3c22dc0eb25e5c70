import HeaderBindings.Program

/-! The command line. The files that a run can read are taken from the disk before it, and what it
has changed is put there after it. No front-end is built in, so a header that is there is answered
with the failure to start one. -/

namespace HeaderBindings.Program

def noFrontEnd : FrontEnd := fun _ _ => .unavailable "no front-end is built in"

/-- The path of a place as text. -/
def placeText? (place : Place) : Option String :=
  let front := if place.absolute then [Path.slash] else []
  Text.decode? (front ++ [Path.slash].intercalate place.names)

/-- Adds the file at a path, if the disk has one. -/
def takeFile (files : FileSystem) (path : Path) : IO FileSystem := do
  match path.text? with
  | none => return files
  | some name =>
    try
      let content ← IO.FS.readBinFile name
      return files.withFile path content.toList
    catch _ => return files

/-- The configuration file and the header that the arguments name. -/
def takeFiles (arguments : List String) : IO FileSystem := do
  match Invocation.read arguments with
  | .error _ => return {}
  | .ok invocation =>
    let files ← match invocation.configFile with
      | some path => takeFile {} path
      | none => pure {}
    match invocation.config.run.run { files := files } with
    | (.ok config, _) => takeFile files config.header
    | (.error _, _) => return files

/-- Puts a file on the disk, in a directory that is made if it is not there. -/
def putFile (place : Place) (content : Text.Bytes) : IO Unit := do
  match placeText? { place with names := place.names.dropLast }, placeText? place with
  | some directory, some name =>
    if !directory.isEmpty then IO.FS.createDirAll directory
    IO.FS.writeBinFile name ⟨content.toArray⟩
  | _, _ => return ()

/-- Puts the files on the disk that are not as they were before. -/
def putFiles (before after : FileSystem) : IO Unit :=
  after.files.forM fun (place, content) =>
    if before.file? place = some content then return () else putFile place content

end HeaderBindings.Program

open HeaderBindings in
def main (arguments : List String) : IO UInt32 := do
  let files ← Program.takeFiles arguments
  let outcome := Program.run Program.noFrontEnd arguments files
  Program.putFiles files outcome.files
  IO.print outcome.output
  IO.eprint outcome.errors
  return outcome.status.toUInt32
