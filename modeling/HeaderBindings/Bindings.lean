import HeaderBindings.Bindings.Aliases
import HeaderBindings.Bindings.Enums
import HeaderBindings.Bindings.Structs
import HeaderBindings.Error

/-! The bindings file of a header, written in stages. A stage either writes its part or fails and
leaves the draft as it was; the first failure ends the run and no file is made. -/

namespace HeaderBindings

inductive Stage where
  | usings
  | openWrapper
  | functions
  | enums
  | structs
  | typeAliases
  | functionAliases
  | closeWrapper
  deriving DecidableEq, Repr

namespace Stage

def title : Stage → String
  | .usings => "usings"
  | .openWrapper => "wrapper open"
  | .functions => "functions"
  | .enums => "enums"
  | .structs => "structs"
  | .typeAliases => "type aliases"
  | .functionAliases => "function aliases"
  | .closeWrapper => "wrapper close"

/-- All stages in the order in which the file is written. -/
def all : List Stage :=
  [.usings, .openWrapper, .functions, .enums, .structs, .typeAliases, .functionAliases,
   .closeWrapper]

/-- What is wrong with the options, as far as the stage depends on them. -/
def problem? (options : Options) : Stage → Option ConfigProblem
  | .usings => if options.validSpace then none else some (.badNamespace options.space)
  | .functions => if options.validLibrary then none else some (.badLibrary options.library)
  | _ => none

/-- What the stage writes. -/
def write (job : Job) : Stage → Emit Unit
  | .usings => do
    Emit.line "using System;"
    Emit.line "using System.Interop;"
    Emit.blank
    Emit.line ("namespace " ++ job.options.space ++ ";")
    Emit.blank
  | .openWrapper => do
    Emit.line ("public class " ++ job.options.wrapperClass)
    Emit.line "\x7b"
    Emit.deeper
  | .functions => job.header.functions.forM (Emit.function job)
  | .enums => job.header.enums.forM Emit.enum
  | .structs => do
    Emit.modifyOutput (·.leftmost)
    job.header.writtenStructs.forM (Emit.struct job)
  | .typeAliases => do
    let d ← get
    d.aliases.plain.forM fun (name, id) => Emit.plainAlias job name id
  | .functionAliases => do
    let d ← get
    d.aliases.functions.forM fun (name, id) => Emit.functionAlias job name id
  | .closeWrapper => do
    Emit.shallower
    Emit.line "\x7d"

def run (job : Job) (stage : Stage) : Emit (Except Error Unit) :=
  match stage.problem? job.options with
  | some problem => return .error ⟨.invalidConfig problem, []⟩
  | none => do
    stage.write job
    return .ok ()

/-- Runs stages one after the other until one fails. -/
def runAll (job : Job) : List Stage → Emit (Except Error Unit)
  | [] => return .ok ()
  | stage :: rest => do
    Emit.record ⟨.debug, .generation, "running stage: " ++ stage.title⟩
    match ← stage.run job with
    | .error e => return .error (e.within (.stageFailed stage.title))
    | .ok () => runAll job rest

end Stage

namespace Job

/-- Writes the whole file to a draft. -/
def write (job : Job) : Emit (Except Error String) := do
  Emit.collectAliases job
  let d ← get
  Emit.record ⟨.debug, .generation,
    s!"collected {d.aliases.functions.length} function aliases " ++
      s!"and {d.aliases.plain.length} type aliases"⟩
  match ← Stage.runAll job Stage.all with
  | .error e => return .error e
  | .ok () =>
    let d ← get
    Emit.record ⟨.info, .generation,
      s!"generated {d.output.lines.size} lines ({d.cache.length} resolved types)"⟩
    return .ok d.output.text

/-- The bindings file of a header, and the log of writing it. -/
def generate (job : Job) : Except Error String × Log :=
  let (result, draft) := job.write.run {}
  (result, draft.log)

end Job

end HeaderBindings
