import HeaderBindings.AliasTable
import HeaderBindings.Bindings
import HeaderBindings.Bindings.Aliases
import HeaderBindings.Bindings.Draft
import HeaderBindings.Bindings.Enums
import HeaderBindings.Bindings.Functions
import HeaderBindings.Bindings.Options
import HeaderBindings.Bindings.Structs
import HeaderBindings.Bindings.TypeText
import HeaderBindings.CType
import HeaderBindings.CommandLine
import HeaderBindings.Config
import HeaderBindings.Config.Document
import HeaderBindings.Diagnostic
import HeaderBindings.Error
import HeaderBindings.FileSystem
import HeaderBindings.Header
import HeaderBindings.Log
import HeaderBindings.Main
import HeaderBindings.Name
import HeaderBindings.Output
import HeaderBindings.Path
import HeaderBindings.Program
import HeaderBindings.Report
import HeaderBindings.Report.Declarations
import HeaderBindings.Report.Reading
import HeaderBindings.Report.TagNames
import HeaderBindings.Report.Types
import HeaderBindings.Run
import HeaderBindings.Session
import HeaderBindings.Text.Blank
import HeaderBindings.Text.Letter
import HeaderBindings.Text.Printable
import HeaderBindings.Text.Quoted
import HeaderBindings.Text.Uppercase
import HeaderBindings.Text.Utf8
import HeaderBindings.Text.WordChar
import HeaderBindings.Toml
import HeaderBindings.Toml.Token
import HeaderBindings.TypeGraph
import HeaderBindings.TypeGraph.Walk
import HeaderBindings.TypeMap
import HeaderBindings.Proofs.Bindings.Writes
import HeaderBindings.Proofs.TypeGraph.Descent
import HeaderBindings.Proofs.Bindings.Generate
import HeaderBindings.Proofs.Bindings.TypeText
import HeaderBindings.Proofs.Bindings.Operations
import HeaderBindings.Proofs.Text.Uppercase
import HeaderBindings.Proofs.Name
import HeaderBindings.Proofs.AliasTable
import HeaderBindings.Proofs.Bindings.FunctionTypes
import HeaderBindings.Proofs.Bindings.Functions
import HeaderBindings.Proofs.Bindings.Typedefs
import HeaderBindings.Proofs.TypeGraph.Cycles
import HeaderBindings.Proofs.TypeGraph.Growth
import HeaderBindings.Proofs.TypeGraph.Unchecked
import HeaderBindings.Proofs.Bindings.Unchecked
import HeaderBindings.Proofs.Bindings.FunctionText
import HeaderBindings.Proofs.Bindings.Structs
import HeaderBindings.Proofs.Report.Total
import HeaderBindings.Proofs.Report.Types
import HeaderBindings.Proofs.Report.Declarations
import HeaderBindings.Proofs.TypeGraph.Kept
import HeaderBindings.Proofs.Report.Visited
import HeaderBindings.Proofs.Report.Declared
import HeaderBindings.Proofs.Report.Found
import HeaderBindings.Proofs.Report.Tidy
import HeaderBindings.Proofs.Report.Shows
import HeaderBindings.Proofs.Report.Units
import HeaderBindings.Proofs.Report.Tags
import HeaderBindings.Proofs.Report.Nested
import HeaderBindings.Proofs.AliasTable.Registrations
import HeaderBindings.Proofs.Bindings.Options
import HeaderBindings.Proofs.Bindings.Stages
import HeaderBindings.Proofs.FileSystem
import HeaderBindings.Proofs.Run
import HeaderBindings.Proofs.Diagnostics
import HeaderBindings.Proofs.Bindings.FieldText
import HeaderBindings.Proofs.Bindings.ParameterNames
import HeaderBindings.Proofs.Bindings.Mentions
import HeaderBindings.Proofs.Bindings.DeclarationOrder
import HeaderBindings.Proofs.Bindings.FunctionNames
import HeaderBindings.Proofs.Bindings.Enums
import HeaderBindings.Proofs.Bindings.TypeNames
import HeaderBindings.Proofs.Bindings.Inert
import HeaderBindings.Proofs.Bindings.Nesting
import HeaderBindings.Proofs.Name.Parameters
import HeaderBindings.Proofs.Name.Identifiers
import HeaderBindings.Proofs.Bindings.Constructor
import HeaderBindings.Proofs.Bindings.FieldNames
import HeaderBindings.Proofs.Bindings.CallbackFields
import HeaderBindings.Proofs.Text.Digits
import HeaderBindings.Proofs.TypeMap.WholeWords
import HeaderBindings.Proofs.Bindings.Independent
import HeaderBindings.Proofs.Bindings.WordNames
import HeaderBindings.Proofs.Bindings.KnownNames
import HeaderBindings.Proofs.Bindings.EnumLines
import HeaderBindings.Proofs.Report.Partition
import HeaderBindings.Proofs.TypeMap.UserRules
import HeaderBindings.Proofs.Config.Layers
import HeaderBindings.Proofs.Path
import HeaderBindings.Proofs.Config.Sources
import HeaderBindings.Proofs.Bindings.FieldAliases
import HeaderBindings.Proofs.Bindings.LegalNames
