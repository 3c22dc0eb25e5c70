/-! What a run says about itself: records in the order in which they were made, each with its level
and the part of the program it comes from. A threshold selects the records that are shown. -/

namespace HeaderBindings.Log

inductive Level where
  | error | warn | info | debug | trace
  deriving DecidableEq, Repr

def Level.name : Level → String
  | .error => "ERROR"
  | .warn => "WARN"
  | .info => "INFO"
  | .debug => "DEBUG"
  | .trace => "TRACE"

/-- Nought for the gravest level. -/
def Level.rank : Level → Nat
  | .error => 0
  | .warn => 1
  | .info => 2
  | .debug => 3
  | .trace => 4

/-- The part of the program that made a record. -/
inductive Origin where
  | run | parsing | generation | naming | aliases | configuration | files | failure | diagnostics
  deriving DecidableEq, Repr

/-- The name under which a record is shown. -/
def Origin.path : Origin → String
  | .run => "beef_bindgen::launcher"
  | .parsing => "beef_bindgen::c_parser"
  | .generation => "beef_bindgen::beef_code_generator"
  | .naming => "beef_bindgen::type_resolver"
  | .aliases => "beef_bindgen::alias_table"
  | .configuration => "beef_bindgen::config"
  | .files => "beef_bindgen::file_utils"
  | .failure => "beef_bindgen::errors"
  | .diagnostics => "beef_bindgen::log"

structure Record where
  level : Level
  origin : Origin
  text : String
  deriving DecidableEq, Repr

/-- The record as it is written to standard error. -/
def Record.line (r : Record) : String :=
  r.level.name ++ " [" ++ r.origin.path ++ "] " ++ r.text ++ "\n"

/-- The most detailed level that is shown, or nothing at all. -/
inductive Threshold where
  | off
  | upTo (level : Level)
  deriving DecidableEq, Repr

def Threshold.shows : Threshold → Record → Bool
  | .off, _ => false
  | .upTo level, r => r.level.rank ≤ level.rank

def Threshold.ofName? (name : String) : Option Threshold :=
  match name with
  | "off" => some .off
  | "error" => some (.upTo .error)
  | "warn" => some (.upTo .warn)
  | "info" => some (.upTo .info)
  | "debug" => some (.upTo .debug)
  | "trace" => some (.upTo .trace)
  | _ => none

def Threshold.default : Threshold := .upTo .info

/-- Removes the colours: an escape character, `[`, digits and semicolons, `m`. `held` is the start
of such a sequence, last character first. -/
def dropColours (held : List Char) : List Char → List Char
  | [] => held.reverse
  | c :: r =>
    if c = '\x1b' then held.reverse ++ dropColours [c] r
    else match held with
      | [] => c :: dropColours [] r
      | [_] => if c = '[' then dropColours (c :: held) r else held.reverse ++ c :: dropColours [] r
      | _ :: _ :: _ =>
        if c = 'm' then dropColours [] r
        else if c.isDigit || c = ';' then dropColours (c :: held) r
        else held.reverse ++ c :: dropColours [] r

/-- The records of a log that are shown, as text without colours. -/
def shown (threshold : Threshold) (log : Array Record) : String :=
  let text := (log.filter threshold.shows).foldl (fun text r => text ++ r.line) ""
  String.ofList (dropColours [] text.toList)

end HeaderBindings.Log

namespace HeaderBindings

/-- The records of a run. -/
abbrev Log := Array Log.Record

end HeaderBindings
