import HeaderBindings.Config.Document

/-! The command line. An option takes one value, which is attached to it or is the next argument. A
value in the next argument is taken into account when the next known option is read, or at the
end, so a mistake in it is reported then. -/

namespace HeaderBindings

/-- An option that takes a value. -/
inductive Flag where
  | config | header | output | library | space | includeDir | extraArgument | language | standard
  | logLevel
  deriving DecidableEq, Repr

namespace Flag

def all : List Flag :=
  [.config, .header, .output, .library, .space, .includeDir, .extraArgument, .language, .standard,
   .logLevel]

def longName : Flag → String
  | .config => "config"
  | .header => "header"
  | .output => "output"
  | .library => "library"
  | .space => "namespace"
  | .includeDir => "include-dir"
  | .extraArgument => "clang-arg"
  | .language => "language"
  | .standard => "std"
  | .logLevel => "log-level"

def letter? : Flag → Option Char
  | .output => some 'o'
  | .library => some 'l'
  | .space => some 'n'
  | .includeDir => some 'I'
  | _ => none

/-- May be given more than once. -/
def repeatable : Flag → Bool
  | .includeDir | .extraArgument => true
  | _ => false

/-- Takes the next argument as its value whatever it looks like. -/
def takesAnything : Flag → Bool
  | .extraArgument => true
  | _ => false

/-- A path is not empty, and a language has to be known. -/
def accepts (flag : Flag) (value : String) : Bool :=
  match flag with
  | .config | .header | .output | .includeDir => !value.isEmpty
  | .language => (Language.ofName? value).isSome
  | .library | .space | .extraArgument | .standard | .logLevel => true

def ofLongName? (name : String) : Option Flag :=
  all.find? (·.longName == name)

def ofLetter? (c : Char) : Option Flag :=
  all.find? (·.letter? == some c)

end Flag

/-- Why the arguments are not taken as options, or what is asked for in their place. -/
inductive Usage where
  | unknownArgument
  | invalidValue
  | argumentConflict
  | tooManyValues
  | help
  | version
  deriving DecidableEq, Repr

namespace CommandLine

/-- The options read so far. An option whose value stands in an argument of its own is pending. -/
structure Progress where
  given : List (Flag × String) := []
  pending : Option (Flag × Option String) := none
  /-- After `--` there are no more options. -/
  closed : Bool := false
  deriving DecidableEq, Repr

namespace Progress

def add (p : Progress) (flag : Flag) (value : Option String) : Except Usage Progress :=
  match value with
  | none => .error .invalidValue
  | some text =>
    if !flag.repeatable && p.given.any (·.1 == flag) then .error .argumentConflict
    else if !flag.accepts text then .error .invalidValue
    else .ok { p with given := p.given ++ [(flag, text)] }

/-- Takes the pending option into account. -/
def settle (p : Progress) : Except Usage Progress :=
  match p.pending with
  | none => .ok p
  | some (flag, value) => { p with pending := none }.add flag value

/-- Reads an option with its attached value, or leaves it pending. -/
def option (p : Progress) (flag : Flag) (value : Option String) : Except Usage Progress := do
  let p ← p.settle
  match value with
  | some text => p.add flag (some text)
  | none => return { p with pending := some (flag, none) }

/-- Gives up the options for the help or the version. -/
def ask (p : Progress) (usage : Usage) : Except Usage Progress := do
  let _ ← p.settle
  throw usage

/-- The option that waits for its value. -/
def waiting (p : Progress) : Option Flag :=
  match p.pending with
  | some (flag, none) => some flag
  | _ => none

/-- Reads what follows `--`. -/
def long (p : Progress) (s : List Char) : Except Usage Progress :=
  let name := String.ofList (s.takeWhile (· ≠ '='))
  let value :=
    if s.contains '=' then some (String.ofList ((s.dropWhile (· ≠ '=')).drop 1)) else none
  match Flag.ofLongName? name with
  | some flag => p.option flag value
  | none =>
    if name = "help" || name = "version" then
      match value with
      | some _ => .error .tooManyValues
      | none => p.ask (if name = "help" then .help else .version)
    else .error .unknownArgument

/-- Reads what follows a single hyphen: a letter, and its value if something follows the letter. -/
def short (p : Progress) : List Char → Except Usage Progress
  | [] => .error .unknownArgument
  | c :: rest =>
    match Flag.ofLetter? c with
    | some flag =>
      match rest with
      | [] => p.option flag none
      | '=' :: value => p.option flag (some (String.ofList value))
      | value => p.option flag (some (String.ofList value))
    | none =>
      if c = 'h' then p.ask .help
      else if c = 'V' then p.ask .version
      else .error .unknownArgument

/-- Reads an argument that is no option. -/
def plain (p : Progress) (argument : String) : Except Usage Progress :=
  match p.waiting with
  | some flag => .ok { p with pending := some (flag, some argument) }
  | none => .error .unknownArgument

def step (p : Progress) (argument : String) : Except Usage Progress :=
  if p.closed then .error .unknownArgument
  else if p.waiting.any Flag.takesAnything then p.plain argument
  else match argument.toList with
    | ['-', '-'] => .ok { p with closed := true }
    | '-' :: '-' :: rest => p.long rest
    | '-' :: c :: rest => p.short (c :: rest)
    | _ => p.plain argument

end Progress

/-- What is given on the command line: for each option its values in order. -/
def read (arguments : List String) : Except Usage (List (Flag × String)) := do
  let p ← arguments.foldlM Progress.step {}
  let p ← p.settle
  return p.given

end CommandLine

/-- The command line of a run. -/
structure Invocation where
  configFile : Option Path := none
  settings : PartialConfig := {}
  logLevel : Option String := none
  deriving DecidableEq, Repr

namespace Invocation

def ofGiven (given : List (Flag × String)) : Invocation :=
  let value? (flag : Flag) := given.lookup flag
  let values (flag : Flag) := (given.filter (·.1 == flag)).map (·.2)
  { configFile := (value? .config).map Path.ofString
    logLevel := value? .logLevel
    settings := {
      header := (value? .header).map Path.ofString
      output := (value? .output).map Path.ofString
      library := value? .library
      space := value? .space
      includeDirs := (values .includeDir).map Path.ofString
      extraArguments := values .extraArgument
      language := (value? .language).bind Language.ofName?
      standard := value? .standard } }

def read (arguments : List String) : Except Usage Invocation :=
  (CommandLine.read arguments).map ofGiven

/-- The configuration in the file, if one is given, with the settings of the command line. -/
def config (i : Invocation) : Action Config := do
  let base ← match i.configFile with
    | some path => PartialConfig.load path
    | none => pure {}
  match Config.ofPartial (base.merge i.settings) with
  | .ok config => return config
  | .error e => throw e

end Invocation

end HeaderBindings
