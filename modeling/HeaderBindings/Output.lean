/-! The text under construction: a list of lines, and the indentation that the next line gets. -/

namespace HeaderBindings

structure Output where
  lines : Array String := #[]
  indent : Nat := 0
  deriving Repr

namespace Output

/-- Adds a line behind one tab for each level. -/
def append (out : Output) (line : String) : Output :=
  { out with lines := out.lines.push (String.ofList (List.replicate out.indent '\t') ++ line) }

/-- Adds an empty line, which is not indented. -/
def blank (out : Output) : Output :=
  { out with lines := out.lines.push "" }

def deeper (out : Output) : Output :=
  { out with indent := out.indent + 1 }

/-- Goes back one level, if there is one. -/
def shallower (out : Output) : Output :=
  { out with indent := out.indent - 1 }

def leftmost (out : Output) : Output :=
  { out with indent := 0 }

/-- All lines, each with a line feed behind it. -/
def text (out : Output) : String :=
  out.lines.foldl (fun text line => text ++ line ++ "\n") ""

end Output

end HeaderBindings
