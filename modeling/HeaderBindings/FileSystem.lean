import HeaderBindings.Path

/-! Files and directories. A place is where a path leads; it is the same for all paths that differ
only in empty segments, dots, and names that two dots take back. The working directory, the
directories above it and the root are always there. -/

namespace HeaderBindings

open Text

structure Place where
  absolute : Bool
  names : List Bytes
  deriving DecidableEq, Repr

namespace Place

/-- The root, the working directory, or a directory above it. -/
def isBase (place : Place) : Bool :=
  place.names.all (· == Path.twoDots)

/-- The directory above a place; above the root there is the root. -/
def up (place : Place) : Place :=
  if !place.isBase then { place with names := place.names.dropLast }
  else if place.absolute then place
  else { place with names := place.names ++ [Path.twoDots] }

/-- The place of a name in a directory. -/
def down (place : Place) (name : Bytes) : Place :=
  if name = Path.twoDots then place.up else { place with names := place.names ++ [name] }

end Place

/-- Why a path is refused. -/
inductive Refusal where
  | notFound
  | isDirectory
  | notDirectory
  | nameTooLong
  | holdsNul
  | notText
  deriving DecidableEq, Repr

def Refusal.message : Refusal → String
  | .notFound => "No such file or directory (os error 2)"
  | .isDirectory => "Is a directory (os error 21)"
  | .notDirectory => "Not a directory (os error 20)"
  | .nameTooLong => "File name too long (os error 36)"
  | .holdsNul => "file name contained an unexpected NUL byte"
  | .notText => "stream did not contain valid UTF-8"

namespace Path

/-- The root for an absolute path, and the working directory for a relative one. -/
def base (p : Path) : Place :=
  ⟨p.isAbsolute, []⟩

def place (p : Path) : Place :=
  p.names.foldl Place.down p.base

def maxName : Nat := 255
def maxPath : Nat := 4095

/-- What is wrong with a path, whatever files there are. -/
def refusal? (p : Path) : Option Refusal :=
  if p.bytes.contains 0 then some .holdsNul
  else if p.bytes.isEmpty then some .notFound
  else if maxPath < p.bytes.length then some .nameTooLong
  else none

end Path

structure FileSystem where
  files : List (Place × Bytes) := []
  directories : List Place := []
  deriving Repr

namespace FileSystem

def isDirectory (fs : FileSystem) (place : Place) : Bool :=
  place.isBase || fs.directories.contains place

def file? (fs : FileSystem) (place : Place) : Option Bytes :=
  fs.files.lookup place

def putFile (fs : FileSystem) (place : Place) (content : Bytes) : FileSystem :=
  { fs with files := (place, content) :: fs.files.filter (·.1 ≠ place) }

def putDirectory (fs : FileSystem) (place : Place) : FileSystem :=
  { fs with directories := place :: fs.directories }

/-- Follows the names of a path from a directory; all but the last have to be directories. -/
def follow (fs : FileSystem) (place : Place) : List Bytes → Except Refusal Place
  | [] => .ok place
  | [name] =>
    if Path.maxName < name.length then .error .nameTooLong
    else .ok (place.down name)
  | name :: rest =>
    let next := place.down name
    if Path.maxName < name.length then .error .nameTooLong
    else if fs.isDirectory next then fs.follow next rest
    else .error (if (fs.file? next).isSome then .notDirectory else .notFound)

/-- The place of a path. -/
def locate (fs : FileSystem) (p : Path) : Except Refusal Place :=
  match p.refusal? with
  | some refusal => .error refusal
  | none => fs.follow p.base p.names

/-- Content of the file at a path. -/
def read (fs : FileSystem) (p : Path) : Except Refusal Bytes := do
  let place ← fs.locate p
  if fs.isDirectory place then throw .isDirectory
  match fs.file? place with
  | none => throw .notFound
  | some content => if p.endsInName then return content else throw .notDirectory

def isFile (fs : FileSystem) (p : Path) : Bool :=
  match fs.read p with
  | .ok _ => true
  | .error _ => false

/-- There is a file or a directory at the path. -/
def isThere (fs : FileSystem) (p : Path) : Bool :=
  fs.isFile p ||
    match fs.locate p with
    | .ok place => fs.isDirectory place
    | .error _ => false

/-- Replaces the content of the file at a path, or makes the file. -/
def write (fs : FileSystem) (p : Path) (content : Bytes) : Except Refusal FileSystem := do
  let place ← fs.locate p
  if fs.isDirectory place then throw .isDirectory
  if p.endsInName then return fs.putFile place content
  else throw (if (fs.file? place).isSome then .notDirectory else .isDirectory)

/-- Makes the directories named one after the other below a directory. What has been made before a
refusal stays. -/
def makeBelow (fs : FileSystem) (place : Place) : List Bytes → Except Refusal Unit × FileSystem
  | [] => (.ok (), fs)
  | name :: rest =>
    let next := place.down name
    if fs.isDirectory next then fs.makeBelow next rest
    else if (fs.file? next).isSome then (.error .notDirectory, fs)
    else if Path.maxName < name.length then (.error .nameTooLong, fs)
    else (fs.putDirectory next).makeBelow next rest

/-- Makes a directory and the directories above it. -/
def makeDirectories (fs : FileSystem) (p : Path) : Except Refusal Unit × FileSystem :=
  match p.refusal? with
  | some refusal => (.error refusal, fs)
  | none => fs.makeBelow p.base p.names

/-- A file system that holds a file, and the directories it is in. -/
def withFile (fs : FileSystem) (p : Path) (content : Bytes) : FileSystem :=
  match p.parent? with
  | none => fs.putFile p.place content
  | some parent => (fs.makeDirectories parent).2.putFile p.place content

end FileSystem

end HeaderBindings
