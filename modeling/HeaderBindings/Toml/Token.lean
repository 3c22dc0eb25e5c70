/-! Tokens of a TOML text, for the part of TOML that a configuration uses: keys of one name, texts,
booleans, arrays and tables. A character that begins none of these is refused. -/

namespace HeaderBindings.Toml

inductive Token where
  | blank
  | newline
  /-- A comment, from its number sign to the end of its line. -/
  | comment
  | equals
  | period
  | comma
  | leftBrace
  | rightBrace
  | leftBracket
  | rightBracket
  /-- A name without quotes. -/
  | bare (name : String)
  | text (value : String) (multiline : Bool)
  deriving DecidableEq, Repr

/-- A carriage return before a line feed is not part of the text. -/
def foldReturns : List Char → List Char
  | [] => []
  | c :: rest =>
    if c = '\r' && rest.head? = some '\n' then foldReturns rest else c :: foldReturns rest

def isBareChar (c : Char) : Bool :=
  c.isAlphanum || c = '-' || c = '_'

def isSpace (c : Char) : Bool :=
  c = ' ' || c = '\t'

/-- A character that may stand in a text as it is. -/
def isPlain (c : Char) : Bool :=
  c = '\t' || (' ' ≤ c && c ≠ '\x7f')

/-- A character of a comment. Another one ends the comment, and begins no token unless it is a line
feed. -/
def isCommentChar (c : Char) : Bool :=
  c = '\t' || ' ' ≤ c

def hexValue? (c : Char) : Option Nat :=
  if c.isDigit then some (c.toNat - '0'.toNat)
  else if 'a' ≤ c && c ≤ 'f' then some (c.toNat - 'a'.toNat + 10)
  else if 'A' ≤ c && c ≤ 'F' then some (c.toNat - 'A'.toNat + 10)
  else none

/-- The character whose code point is written with `count` hexadecimal digits. -/
def hexEscape? (count : Nat) (s : List Char) : Option (List Char × List Char) := do
  let digits ← (s.take count).mapM hexValue?
  let point := digits.foldl (fun n d => n * 16 + d) 0
  if digits.length = count && (point < 0xD800 || (0xDFFF < point && point < 0x110000)) then
    some ([Char.ofNat point], s.drop count)
  else none

/-- What follows a backslash at the end of a line: all blanks and line feeds are skipped. -/
def lineEscape? (s : List Char) : Option (List Char × List Char) :=
  let skip (s : List Char) := s.dropWhile fun c => isSpace c || c = '\n'
  match s.dropWhile isSpace with
  | [] => some ([], [])
  | c :: rest => if c = '\n' then some ([], skip rest) else none

/-- What follows a backslash: the characters it stands for, and the rest. -/
def escape? (multiline : Bool) (s : List Char) : Option (List Char × List Char) :=
  match s with
  | [] => none
  | c :: rest =>
    match c with
    | '"' => some (['"'], rest)
    | '\\' => some (['\\'], rest)
    | 'b' => some (['\x08'], rest)
    | 'f' => some (['\x0c'], rest)
    | 'n' => some (['\n'], rest)
    | 'r' => some (['\r'], rest)
    | 't' => some (['\t'], rest)
    | 'u' => hexEscape? 4 rest
    | 'U' => hexEscape? 8 rest
    | _ => if multiline && (isSpace c || c = '\n') then lineEscape? s else none

/-- The text up to the closing quotes, and the rest. In a text of several lines fewer than three
quotes are part of the text, and of the quotes at the end up to two are. -/
def quotedBody (multiline : Bool) (quote : Char) (s : List Char) : Option (List Char × List Char) :=
  match s with
  | [] => none
  | c :: rest =>
    let before (chars : List Char) (body : Option (List Char × List Char)) :=
      body.map fun (text, rest) => (chars ++ text, rest)
    if c = quote then
      if multiline then
        let run := (c :: rest).takeWhile (· = quote)
        if run.length < 3 then before run (quotedBody multiline quote (rest.dropWhile (· = quote)))
        else
          some (List.replicate (min (run.length - 3) 2) quote, (c :: rest).drop (min run.length 5))
      else some ([], rest)
    else if c = '\\' && quote = '"' then
      match escape? multiline rest with
      | none => none
      | some (chars, after) =>
        if after.length ≤ rest.length then before chars (quotedBody multiline quote after) else none
    else if isPlain c || (multiline && c = '\n') then before [c] (quotedBody multiline quote rest)
    else none
termination_by s.length
decreasing_by
  · have := (List.dropWhile_suffix (l := rest) (p := fun x => decide (x = quote))).length_le
    simp only [List.length_cons]
    omega
  · simp only [List.length_cons]
    omega
  · simp

/-- A text whose first quote has been read. -/
def quotedText? (quote : Char) (s : List Char) : Option (Token × List Char) :=
  let token (multiline : Bool) (body : Option (List Char × List Char)) :=
    body.map fun (text, rest) => (Token.text (String.ofList text) multiline, rest)
  match s with
  | a :: b :: rest =>
    if a = quote && b = quote then
      token true (quotedBody true quote (if rest.head? = some '\n' then rest.drop 1 else rest))
    else if a = quote then some (.text "" false, b :: rest)
    else token false (quotedBody false quote s)
  | [a] => if a = quote then some (.text "" false, []) else none
  | [] => none

/-- The first token and the rest. -/
def next? : List Char → Option (Token × List Char)
  | [] => none
  | c :: rest =>
    match c with
    | '\n' => some (.newline, rest)
    | '#' => some (.comment, rest.dropWhile isCommentChar)
    | '=' => some (.equals, rest)
    | '.' => some (.period, rest)
    | ',' => some (.comma, rest)
    | '\x7b' => some (.leftBrace, rest)
    | '\x7d' => some (.rightBrace, rest)
    | '[' => some (.leftBracket, rest)
    | ']' => some (.rightBracket, rest)
    | '\'' => quotedText? '\'' rest
    | '"' => quotedText? '"' rest
    | c =>
      if isSpace c then some (.blank, rest.dropWhile isSpace)
      else if isBareChar c then
        some (.bare (String.ofList ((c :: rest).takeWhile isBareChar)), rest.dropWhile isBareChar)
      else none

/-- All tokens, unless a character begins none. -/
def tokens? (s : List Char) : Option (List Token) :=
  if s.isEmpty then some []
  else match next? s with
    | none => none
    | some (token, rest) =>
      if rest.length < s.length then (tokens? rest).map (token :: ·) else none
termination_by s.length

/-- The tokens of a text. A byte order mark at the front is no part of it. -/
def tokenize? (text : String) : Option (List Token) :=
  let chars := foldReturns text.toList
  tokens? (if chars.head? = some '\uFEFF' then chars.drop 1 else chars)

end HeaderBindings.Toml
