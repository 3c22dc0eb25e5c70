/-! Sets of characters, of which the white space of Unicode is one, and texts without the blanks at
their ends or cut into parts at one character, such as lines. -/

namespace HeaderBindings.Text

/-- A set of characters, given by ranges of code points with both ends included. -/
abbrev Ranges := List (Nat × Nat)

def Ranges.contains (ranges : Ranges) (c : Char) : Bool :=
  ranges.any fun r => r.1 ≤ c.toNat && c.toNat ≤ r.2

def blankRanges : Ranges :=
  [(0x9, 0xD), (0x20, 0x20),
   (0x85, 0x85), (0xA0, 0xA0), (0x1680, 0x1680), (0x2000, 0x200A), (0x2028, 0x2029),
   (0x202F, 0x202F), (0x205F, 0x205F), (0x3000, 0x3000)]

def isBlank (c : Char) : Bool :=
  blankRanges.contains c

def trimLeft (s : List Char) : List Char :=
  s.dropWhile isBlank

def trim (s : List Char) : List Char :=
  ((trimLeft s).reverse.dropWhile isBlank).reverse

/-- The parts between the occurrences of `sep`; there is always at least one. -/
def splitAt {α : Type} [DecidableEq α] (sep : α) : List α → List (List α)
  | [] => [[]]
  | a :: rest =>
    if a = sep then [] :: splitAt sep rest
    else match splitAt sep rest with
      | [] => [[a]]
      | part :: parts => (a :: part) :: parts

def dropCarriageReturn (line : List Char) : List Char :=
  if line.getLast? = some '\r' then line.dropLast else line

/-- The lines of a text. A line ends at a line feed, which a carriage return may precede; after the
last line feed there is no line unless some text follows. -/
def lines (s : List Char) : List (List Char) :=
  let parts := splitAt '\n' s
  let ended := (parts.dropLast).map dropCarriageReturn
  match parts.getLast? with
  | none | some [] => ended
  | some rest => ended ++ [rest]

end HeaderBindings.Text
