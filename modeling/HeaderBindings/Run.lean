import HeaderBindings.Bindings
import HeaderBindings.Config
import HeaderBindings.Report.Declarations
import HeaderBindings.Session

/-! A run: the header is reported by the front-end and read, the bindings are written, and only
then is the output file saved. -/

namespace HeaderBindings

/-- What comes of asking the front-end for a header. -/
inductive Response where
  | unavailable (reason : String)
  /-- The header could not be read at all. -/
  | failed
  | report (report : Report)
  deriving Repr

/-- The front-end: what it reports for a header and its arguments. -/
abbrev FrontEnd := Path → List String → Response

namespace Config

/-- Diagnostics in the log. Where there are errors, those are left to the report of the failure. -/
def logDiagnostics (diagnostics : List Diagnostic) : Action Unit :=
  Action.records ((diagnostics.filter fun d => !d.severity.isError).map Diagnostic.record)

/-- The header that a report describes, if it holds no errors. -/
def readReport (c : Config) (report : Report) : Action Header := do
  logDiagnostics report.diagnostics
  if report.diagnostics.any (·.severity.isError) then
    Action.fail (.parseFailed c.header.shown report.diagnostics) []
  else
    let reading := report.reading c.skipSystemHeaders
    modify fun s => { s with log := s.log ++ reading.log }
    let header := reading.header
    Action.record ⟨.info, .parsing,
      s!"Parsed {header.declarations.length} declarations in {header.units.length} files " ++
        s!"({header.types.size} types)"⟩
    return header

/-- Has the header of a configuration reported and reads the report. -/
def parse (frontEnd : FrontEnd) (c : Config) : Action Header := do
  let s ← get
  if !s.files.isFile c.header then
    Action.fail (.headerNotFound c.header.shown) []
  else
    let arguments ← match c.arguments with
      | .ok arguments => pure arguments
      | .error e => throw e
    Action.record ⟨.debug, .parsing, "clang arguments: " ++ Text.quotedList arguments⟩
    Action.record ⟨.info, .parsing, "Parsing header: " ++ c.header.shown⟩
    match frontEnd c.header arguments with
    | .unavailable reason => Action.fail (.frontEndUnavailable reason) []
    | .failed => Action.fail (.frontEndFailed c.header.shown) []
    | .report report => c.readReport report

def job (c : Config) (header : Header) : Job :=
  ⟨header, c.options, c.typeMap⟩

/-- The bindings file of a header. -/
def bindings (c : Config) (header : Header) : Action String := do
  let (result, log) := (c.job header).generate
  modify fun s => { s with log := s.log ++ log }
  match result with
  | .ok text => return text
  | .error e => throw e

def run (frontEnd : FrontEnd) (c : Config) : Action Unit := do
  Action.record ⟨.info, .run, "Header: " ++ c.header.shown⟩
  Action.record ⟨.info, .run, "Output: " ++ c.output.shown⟩
  let header ← c.parse frontEnd
  let text ← c.bindings header
  Action.saveText c.output text
  Action.record ⟨.info, .run,
    s!"{header.enums.length} enums, {header.structs.length} structs, " ++
      s!"{header.functions.length} functions, {header.typeAliases.length} type aliases"⟩
  Action.record ⟨.info, .run, "Completed successfully!"⟩

end Config

end HeaderBindings
