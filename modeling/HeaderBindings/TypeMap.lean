import HeaderBindings.Text.Blank
import HeaderBindings.Text.WordChar

/-! The type table: an ordered list of rules, each of which replaces every occurrence of a C type
name as a whole word. The rules of the user come before the built-in ones. What is left of the
qualifiers in front is dropped after the last rule. -/

namespace HeaderBindings

open Text

structure TypeRule where
  pattern : String
  replacement : String
  deriving DecidableEq, Repr

namespace TypeRule

/-- `word` stands at the front of `s` with a word boundary on both sides. `before` says whether
`s` follows a word character. -/
def matchesAt (word : List Char) (before : Bool) (s : List Char) : Bool :=
  word.isPrefixOf s && before != startsWord s &&
    endsWord before word != startsWord (s.drop word.length)

/-- Replaces the occurrences of `word` from left to right, without overlap. The first `skip`
characters belong to an occurrence that has been replaced. The empty word occurs at every word
boundary. -/
def substitute (word new : List Char) : Bool → Nat → List Char → List Char
  | before, skip, [] =>
    if skip = 0 && matchesAt word before [] then new else []
  | _, skip + 1, c :: r => substitute word new (isWordChar c) skip r
  | before, 0, c :: r =>
    if matchesAt word before (c :: r) then
      match word with
      | [] => new ++ c :: substitute word new (isWordChar c) 0 r
      | _ :: w => new ++ substitute word new (isWordChar c) w.length r
    else c :: substitute word new (isWordChar c) 0 r

def apply (rule : TypeRule) (s : List Char) : List Char :=
  substitute rule.pattern.toList rule.replacement.toList false 0 s

end TypeRule

structure TypeMap where
  rules : List TypeRule
  deriving Repr

namespace TypeMap

/-- A name of several words comes before the words it contains, and the names that are as wide as a
pointer come after `int`, because they are written with it. -/
def builtinRules : List TypeRule :=
  [⟨"unsigned long long", "uint64"⟩,
   ⟨"long long", "int64"⟩,
   ⟨"unsigned long", "uint32"⟩,
   ⟨"long double", "double"⟩,
   ⟨"unsigned short", "uint16"⟩,
   ⟨"unsigned char", "uint8"⟩,
   ⟨"signed char", "int8"⟩,
   ⟨"unsigned int", "uint32"⟩,
   ⟨"uint8_t", "uint8"⟩,
   ⟨"int8_t", "int8"⟩,
   ⟨"uint16_t", "uint16"⟩,
   ⟨"int16_t", "int16"⟩,
   ⟨"uint32_t", "uint32"⟩,
   ⟨"int32_t", "int32"⟩,
   ⟨"uint64_t", "uint64"⟩,
   ⟨"int64_t", "int64"⟩,
   ⟨"UChar", "uint8"⟩,
   ⟨"ULongLong", "uint64"⟩,
   ⟨"LongLong", "int64"⟩,
   ⟨"ULong", "uint64"⟩,
   ⟨"UShort", "uint16"⟩,
   ⟨"Short", "int16"⟩,
   ⟨"Long", "int64"⟩,
   ⟨"WideChar", "char16"⟩,
   ⟨"UInt", "uint32"⟩,
   ⟨"Int", "int32"⟩,
   ⟨"Char", "char8"⟩,
   ⟨"Bool", "bool"⟩,
   ⟨"Void", "void"⟩,
   ⟨"INT", "int32"⟩,
   ⟨"STRING", "char8*"⟩,
   ⟨"FLOAT", "float"⟩,
   ⟨"DOUBLE", "double"⟩,
   ⟨"char", "char8"⟩,
   ⟨"wchar_t", "char16"⟩,
   ⟨"char16_t", "char16"⟩,
   ⟨"char32_t", "char32"⟩,
   ⟨"long", "int32"⟩,
   ⟨"short", "int16"⟩,
   ⟨"int", "int32"⟩,
   ⟨"_Bool", "bool"⟩,
   ⟨"va_list", "void*"⟩,
   ⟨"size_t", "uint"⟩,
   ⟨"uintptr_t", "uint"⟩,
   ⟨"ssize_t", "int"⟩,
   ⟨"ptrdiff_t", "int"⟩,
   ⟨"intptr_t", "int"⟩]

def withRules (extra : List TypeRule) : TypeMap :=
  ⟨extra ++ builtinRules⟩

/-- `name` is the pattern of a rule. -/
def knows (map : TypeMap) (name : String) : Bool :=
  map.rules.any (·.pattern == name)

/-- Drops every `const` in front, with the blanks after it. -/
def dropConst (s : List Char) : List Char :=
  if "const ".toList.isPrefixOf s then dropConst (trimLeft (s.drop 6)) else s
termination_by s.length
decreasing_by
  rename_i h
  have hlen := (List.isPrefixOf_iff_prefix.1 h).length_le
  have := (List.dropWhile_suffix (p := isBlank) (l := s.drop 6)).length_le
  simp only [trimLeft, List.length_drop] at *
  have : "const ".toList.length = 6 := rfl
  omega

/-- Drops an `unsigned` in front, unless the text ends with `int`; alone it is a type. -/
def dropUnsigned (s : List Char) : List Char :=
  if s = "unsigned".toList then "uint32".toList
  else if "unsigned ".toList.isPrefixOf s && !("int".toList.isSuffixOf s) then trimLeft (s.drop 9)
  else s

/-- Name of the C type `spelling` in the generated file. -/
def convert (map : TypeMap) (spelling : String) : String :=
  let replaced := map.rules.foldl (fun s rule => rule.apply s) spelling.toList
  String.ofList (dropUnsigned (dropConst replaced))

end TypeMap

end HeaderBindings
