import HeaderBindings.Text.Blank
import HeaderBindings.Text.Utf8

/-! Paths: bytes with slashes between the names. A name is anything but the empty text and `.`,
which stand for nothing, except for a `.` at the front of a relative path. -/

namespace HeaderBindings

open Text

structure Path where
  bytes : Bytes
  deriving DecidableEq, Repr

namespace Path

def slash : UInt8 := 0x2F
def dot : UInt8 := 0x2E

/-- The name that leads to the directory above. -/
def twoDots : Bytes := [dot, dot]

def ofString (s : String) : Path :=
  ⟨Bytes.ofString s⟩

def isEmpty (p : Path) : Bool :=
  p.bytes.isEmpty

/-- The path as text, if it is text. -/
def text? (p : Path) : Option String :=
  decode? p.bytes

/-- The path as it is shown in messages. -/
def shown (p : Path) : String :=
  decodeLossy p.bytes

def isAbsolute (p : Path) : Bool :=
  p.bytes.head? = some slash

/-- `other` seen from the directory `p`; an absolute path stays as it is. -/
def join (p other : Path) : Path :=
  if other.isAbsolute then other
  else if p.bytes.isEmpty || p.bytes.getLast? = some slash then ⟨p.bytes ++ other.bytes⟩
  else ⟨p.bytes ++ slash :: other.bytes⟩

def segments (p : Path) : List Bytes :=
  splitAt slash p.bytes

def isName (segment : Bytes) : Bool :=
  segment ≠ [] && segment ≠ [dot]

/-- The names of a path, from the front. -/
def names (p : Path) : List Bytes :=
  p.segments.filter isName

/-- The path ends with a name, not with a slash or a dot. -/
def endsInName (p : Path) : Bool :=
  match p.segments.getLast? with
  | some segment => isName segment
  | none => false

/-- What stands in front of the names: the slash of an absolute path or the dot of a relative one,
and the rest. -/
def splitFront (p : Path) : Bytes × Bytes :=
  match p.bytes with
  | b :: rest =>
    if b = slash then ([slash], rest)
    else if b = dot && (rest.isEmpty || rest.head? = some slash) then ([dot], rest)
    else ([], b :: rest)
  | [] => ([], [])

/-- Drops the segments at the end that are no names. -/
def dropNameless (segments : List Bytes) : List Bytes :=
  (segments.reverse.dropWhile fun s => !isName s).reverse

/-- The path without its last name. A path without names has no parent, unless it is a dot. -/
def parent? (p : Path) : Option Path :=
  let (front, rest) := p.splitFront
  match dropNameless (splitAt slash rest) with
  | [] => if front = [dot] then some ⟨[]⟩ else none
  | segments => some ⟨front ++ [slash].intercalate (dropNameless segments.dropLast)⟩

end Path

end HeaderBindings
