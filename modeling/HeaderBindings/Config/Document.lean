import HeaderBindings.Config
import HeaderBindings.Session
import HeaderBindings.Toml

/-! Configurations as TOML documents, which stand in files. Every key is known, occurs once and has
a value of its type; a document that breaks one of these rules is no configuration. -/

namespace HeaderBindings

open Toml (Value Entry Document)

/-- What stands under a key; `none` where it has another form than `read?` takes. -/
def Toml.optional? {α : Type} (read? : Value → Option α) (key : String) (entries : List Entry) :
    Option (Option α) :=
  match entries.lookup key with
  | none => some none
  | some value => (read? value).map some

/-- The items under a key, of which there are none where the key is missing. -/
def Toml.all? {α : Type} (read? : Value → Option α) (key : String) (entries : List Entry) :
    Option (List α) :=
  match entries.lookup key with
  | none => some []
  | some (.list items) => items.mapM read?
  | some _ => none

/-- Every key is one of `known` and occurs once. -/
def Toml.hasKeys (known : List String) (entries : List Entry) : Bool :=
  let keys := entries.map Prod.fst
  keys.all known.contains && decide keys.Nodup

def Toml.Value.text? : Value → Option String
  | .text value => some value
  | _ => none

def Toml.Value.boolean? : Value → Option Bool
  | .boolean value => some value
  | _ => none

def Toml.Value.path? (value : Value) : Option Path :=
  value.text?.map Path.ofString

/-- A language is written as its name, or as the key of an empty table. -/
def Language.ofValue? : Value → Option Language
  | .text name => ofName? name
  | .table [(name, .table [])] => ofName? name
  | _ => none

namespace TypeRule

def ofEntries? (entries : List Entry) : Option TypeRule := do
  if !Toml.hasKeys ["pattern", "replacement"] entries then none
  else
    let pattern ← (← entries.lookup "pattern").text?
    let replacement ← (← entries.lookup "replacement").text?
    some ⟨pattern, replacement⟩

/-- A rule is a table, or an array of the pattern and the replacement. -/
def ofValue? : Value → Option TypeRule
  | .table entries => ofEntries? entries
  | .list [.text pattern, .text replacement] => some ⟨pattern, replacement⟩
  | _ => none

end TypeRule

namespace PartialConfig

def keys : List String :=
  ["header", "output", "library", "namespace", "include_dirs", "clang_args", "language", "std",
   "skip_system_headers", "type_map"]

/-- The rules of a document are an array under one key, or tables with that name. -/
def rulesOf? (d : Document) : Option (List TypeRule) :=
  match d.tables with
  | [] => Toml.all? TypeRule.ofValue? "type_map" d.entries
  | tables =>
    if (d.entries.lookup "type_map").isSome then none
    else tables.mapM fun (name, entries) =>
      if name = ⟨["type_map"], true⟩ then TypeRule.ofEntries? entries else none

/-- The language of a document whose only content is an empty table that is named for it. -/
def languageTable? (d : Document) : Option Language :=
  match d.entries, d.tables with
  | [], [(name, [])] =>
    if name.keys.head? = some "language" then name.keys.getLast?.bind Language.ofName? else none
  | _, _ => none

def ofDocument? (d : Document) : Option PartialConfig := do
  if let some language := languageTable? d then return { language := some language }
  if !Toml.hasKeys keys d.entries then none
  else
    let entries := d.entries
    some {
      header := ← Toml.optional? Value.path? "header" entries
      output := ← Toml.optional? Value.path? "output" entries
      library := ← Toml.optional? Value.text? "library" entries
      space := ← Toml.optional? Value.text? "namespace" entries
      includeDirs := ← Toml.all? Value.path? "include_dirs" entries
      extraArguments := ← Toml.all? Value.text? "clang_args" entries
      language := ← Toml.optional? Language.ofValue? "language" entries
      standard := ← Toml.optional? Value.text? "std" entries
      skipSystemHeaders := ← Toml.optional? Value.boolean? "skip_system_headers" entries
      typeRules := ← rulesOf? d }

/-- The configuration that a text holds. -/
def read? (text : String) : Option PartialConfig := do
  ofDocument? (← Document.read? text)

/-- The configuration in a file; its relative paths are seen from the directory of the file. -/
def load (path : Path) : Action PartialConfig := do
  Action.record ⟨.debug, .configuration, "loading config: " ++ path.shown⟩
  let text ← Action.readText path
  match read? text with
  | none => Action.fail (.notToml path.shown) []
  | some config =>
    match path.parent? with
    | some dir => return config.relativeTo dir
    | none => return config

end PartialConfig

end HeaderBindings
