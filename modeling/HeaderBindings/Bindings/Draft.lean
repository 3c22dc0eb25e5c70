import HeaderBindings.AliasTable
import HeaderBindings.Bindings.Options
import HeaderBindings.Output
import HeaderBindings.TypeMap

/-! The bindings file while it is written. What it is made from does not change (`Job`); the draft
holds the registered names, the names already found for types, and the lines. -/

namespace HeaderBindings

structure Job where
  header : Header
  options : Options
  typeMap : TypeMap
  deriving Repr

def Job.types (job : Job) : TypeGraph :=
  job.header.types

structure Draft where
  aliases : AliasTable := {}
  /-- Names found for types so far, by id. -/
  cache : List (TypeId × String) := []
  output : Output := {}
  log : Log := #[]
  deriving Repr

/-- A step that writes to the draft. -/
abbrev Emit := StateM Draft

namespace Emit

def modifyOutput (f : Output → Output) : Emit Unit :=
  modify fun d => { d with output := f d.output }

def line (text : String) : Emit Unit :=
  modifyOutput (·.append text)

def blank : Emit Unit :=
  modifyOutput (·.blank)

def record (r : Log.Record) : Emit Unit :=
  modify fun d => { d with log := d.log.push r }

def deeper : Emit Unit :=
  modifyOutput (·.deeper)

def shallower : Emit Unit :=
  modifyOutput (·.shallower)

def lines (texts : List String) : Emit Unit :=
  texts.forM line

/-- A comment, line by line and without the blanks around each line. -/
def comment (text : Option String) : Emit Unit :=
  lines ((Text.lines (text.getD "").toList).map fun l => String.ofList (Text.trim l))

/-- Fills the table of names from the header, in place of the one before. -/
def collectAliases (job : Job) : Emit Unit :=
  modify fun d =>
    { d with
      aliases := AliasTable.collect job.header
      log := d.log ++ (AliasTable.recordsOfAll {} job.header.aliases).toArray }

end Emit

end HeaderBindings
