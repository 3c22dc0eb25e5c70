import HeaderBindings.Toml.Token

/-! TOML documents: the entries at the top, and then the tables, each under its header. Numbers,
dates and dotted keys are refused, because no configuration holds them. -/

namespace HeaderBindings.Toml

inductive Value where
  | text (value : String)
  | boolean (value : Bool)
  | list (items : List Value)
  | table (entries : List (String × Value))
  deriving Repr

abbrev Entry := String × Value

/-- The name of a table, of one or more keys. In double brackets it names an element of an array. -/
structure TableName where
  keys : List String
  isElement : Bool
  deriving DecidableEq, Repr

structure Document where
  entries : List Entry
  tables : List (TableName × List Entry)
  deriving Repr

def isFiller : Token → Bool
  | .blank | .newline | .comment => true
  | _ => false

def dropBlank (ts : List Token) : List Token :=
  ts.dropWhile (· = .blank)

def dropFiller (ts : List Token) : List Token :=
  ts.dropWhile isFiller

/-- The end of a line, which a comment may precede. -/
def endOfLine? : List Token → Option (List Token)
  | [] => some []
  | .newline :: rest => some rest
  | [.comment] => some []
  | .comment :: .newline :: rest => some rest
  | _ => none

/-- A text of several lines is no key. -/
def key? : List Token → Option (String × List Token)
  | .bare name :: rest => some (name, rest)
  | .text name false :: rest => some (name, rest)
  | _ => none

/-- A key and the equals sign behind it, with the blanks around the sign. -/
def assigned? (ts : List Token) : Option (String × List Token) := do
  let (name, rest) ← key? ts
  match dropBlank rest with
  | .equals :: rest => some (name, dropBlank rest)
  | _ => none

mutual

/-- A value and the rest. `fuel` bounds the nesting and the length of what is read. -/
def value? (fuel : Nat) (ts : List Token) : Option (Value × List Token) :=
  match fuel with
  | 0 => none
  | fuel + 1 =>
    match ts with
    | .text value _ :: rest => some (.text value, rest)
    | .bare "true" :: rest => some (.boolean true, rest)
    | .bare "false" :: rest => some (.boolean false, rest)
    | .leftBracket :: rest => (items? fuel rest).map fun (items, rest) => (.list items, rest)
    | .leftBrace :: rest =>
      match dropBlank rest with
      | .rightBrace :: rest => some (.table [], rest)
      | rest => (pairs? fuel rest).map fun (pairs, rest) => (.table pairs, rest)
    | _ => none

/-- The items of an array up to its bracket; a comma may stand behind the last one. -/
def items? (fuel : Nat) (ts : List Token) : Option (List Value × List Token) :=
  match fuel with
  | 0 => none
  | fuel + 1 =>
    match dropFiller ts with
    | .rightBracket :: rest => some ([], rest)
    | ts => do
      let (item, rest) ← value? fuel ts
      match dropFiller rest with
      | .rightBracket :: rest => some ([item], rest)
      | .comma :: rest =>
        let (items, rest) ← items? fuel rest
        some (item :: items, rest)
      | _ => none

/-- The entries of a table between braces, of which there is at least one. -/
def pairs? (fuel : Nat) (ts : List Token) : Option (List Entry × List Token) :=
  match fuel with
  | 0 => none
  | fuel + 1 => do
    let (name, rest) ← assigned? ts
    let (value, rest) ← value? fuel rest
    match dropBlank rest with
    | .rightBrace :: rest => some ([(name, value)], rest)
    | .comma :: rest =>
      let (pairs, rest) ← pairs? fuel (dropBlank rest)
      some ((name, value) :: pairs, rest)
    | _ => none

end

/-- The keys of a header, between periods. -/
def headerKeys? (ts : List Token) : Option (List String × List Token) :=
  match key? (dropBlank ts) with
  | none => none
  | some (name, rest) =>
    match dropBlank rest with
    | .period :: after =>
      if after.length < ts.length then
        (headerKeys? after).map fun (keys, rest) => (name :: keys, rest)
      else none
    | rest => some ([name], rest)
termination_by ts.length

/-- A line that begins a table, or an entry. -/
inductive Line where
  | header (name : TableName)
  | entry (entry : Entry)
  deriving Repr

/-- What follows the opening brackets of a header. -/
def header? (isElement : Bool) (ts : List Token) : Option (Line × List Token) := do
  let (keys, rest) ← headerKeys? ts
  let rest ← match isElement, rest with
    | false, .rightBracket :: rest => some rest
    | true, .rightBracket :: .rightBracket :: rest => some rest
    | _, _ => none
  let rest ← endOfLine? (dropBlank rest)
  some (.header ⟨keys, isElement⟩, rest)

def line? (ts : List Token) : Option (Line × List Token) :=
  match ts with
  | .leftBracket :: .leftBracket :: rest => header? true rest
  | .leftBracket :: rest => header? false rest
  | ts => do
    let (name, rest) ← assigned? ts
    let (value, rest) ← value? (2 * ts.length) rest
    let rest ← endOfLine? (dropBlank rest)
    some (.entry (name, value), rest)

def lines? (ts : List Token) : Option (List Line) :=
  match dropFiller ts with
  | [] => some []
  | t :: rest =>
    match line? (t :: rest) with
    | none => none
    | some (line, after) =>
      if after.length < ts.length then (lines? after).map (line :: ·) else none
termination_by ts.length

/-- Puts every entry below the header before it. -/
def Document.ofLines : List Line → Document
  | [] => ⟨[], []⟩
  | .entry entry :: rest =>
    let d := ofLines rest
    ⟨entry :: d.entries, d.tables⟩
  | .header name :: rest =>
    let d := ofLines rest
    ⟨[], (name, d.entries) :: d.tables⟩

def Document.read? (text : String) : Option Document := do
  let lines ← lines? (← tokenize? text)
  some (ofLines lines)

end HeaderBindings.Toml
