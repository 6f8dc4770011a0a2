import ClusterCodec.Batch.Dispatch
import ClusterCodec.Batch.FileName
import ClusterCodec.Batch.GeneratedModule
import ClusterCodec.Batch.Report
import ClusterCodec.CommandLine.Execution
import ClusterCodec.CommandLine.Options
import ClusterCodec.Emit.AttributeDecoder
import ClusterCodec.Emit.AttributeDispatch
import ClusterCodec.Emit.Binder
import ClusterCodec.Emit.BitmapType
import ClusterCodec.Emit.CommandEncoder
import ClusterCodec.Emit.Compound
import ClusterCodec.Emit.Decode
import ClusterCodec.Emit.DefaultValue
import ClusterCodec.Emit.Encode
import ClusterCodec.Emit.EnumType
import ClusterCodec.Emit.Layout
import ClusterCodec.Emit.Member
import ClusterCodec.Emit.Parameter
import ClusterCodec.Emit.Pattern
import ClusterCodec.Emit.Payload
import ClusterCodec.Emit.RecordType
import ClusterCodec.Emit.Settings
import ClusterCodec.Emit.Shape
import ClusterCodec.Emit.Snippet
import ClusterCodec.Lexical.Escape
import ClusterCodec.Lexical.NumberLiteral
import ClusterCodec.Lexical.TextLiteral
import ClusterCodec.Lexical.Token
import ClusterCodec.Lexical.Trivia
import ClusterCodec.Lexical.Word
import ClusterCodec.Main
import ClusterCodec.Module.Claim
import ClusterCodec.Module.Definition
import ClusterCodec.Module.Item
import ClusterCodec.Module.Source
import ClusterCodec.Name.Casing
import ClusterCodec.Name.Identifier
import ClusterCodec.Reading.ClusterDocument
import ClusterCodec.Reading.ElementTag
import ClusterCodec.Reading.Visit
import ClusterCodec.Resolve.Collision
import ClusterCodec.Resolve.Digraph
import ClusterCodec.Resolve.Recursion
import ClusterCodec.Resolve.Repetition
import ClusterCodec.Resolve.Resolved
import ClusterCodec.Resolve.SharedStruct
import ClusterCodec.Schema.Cluster
import ClusterCodec.Schema.Declaration
import ClusterCodec.Schema.Field
import ClusterCodec.Schema.FirstOfEach
import ClusterCodec.Schema.Representation
import ClusterCodec.Schema.SymbolTable
import ClusterCodec.Text.Blank
import ClusterCodec.Text.CodePoints
import ClusterCodec.Text.Indent
import ClusterCodec.Text.LetterCase
import ClusterCodec.Text.Numeral
import ClusterCodec.Text.Quoted
import ClusterCodec.Text.Scan
import ClusterCodec.Text.Search
import ClusterCodec.Text.Visible
import ClusterCodec.Text.WordChar
import ClusterCodec.Wire.IntType
import ClusterCodec.Wire.Tag
import ClusterCodec.Wire.TypeTable
import ClusterCodec.Xml.Document
import ClusterCodec.Xml.Event
import ClusterCodec.Xml.Fault
import ClusterCodec.Xml.Reference
import ClusterCodec.Xml.Tag
import ClusterCodec.Proofs.Expansion
import ClusterCodec.Proofs.FieldAgreement
import ClusterCodec.Proofs.NameOwnership
import ClusterCodec.Proofs.References
import ClusterCodec.Proofs.TypeNames
import ClusterCodec.Proofs.DeclarationOrder
import ClusterCodec.Proofs.Idempotence
import ClusterCodec.Proofs.BatchAccount
import ClusterCodec.Proofs.AttributeArms
import ClusterCodec.Proofs.FailureIsolation
import ClusterCodec.Proofs.Indentation
import ClusterCodec.Proofs.ModulePieces
import ClusterCodec.Proofs.ClusterRouting
import ClusterCodec.Proofs.DocumentTree
import ClusterCodec.Proofs.TreeReading
import ClusterCodec.Proofs.TagKeys
import ClusterCodec.Proofs.TagValues
import ClusterCodec.Proofs.ElementReading
import ClusterCodec.Proofs.StructuralReading
import ClusterCodec.Proofs.Truncation
import ClusterCodec.Proofs.CodeLines
import ClusterCodec.Proofs.SameTables
import ClusterCodec.Proofs.Documentation
import ClusterCodec.Proofs.DocumentationErasure
import ClusterCodec.Proofs.LexicalRun
import ClusterCodec.Proofs.TokenRules
import ClusterCodec.Proofs.LexicalAcceptance
import ClusterCodec.Proofs.Templates
import ClusterCodec.Proofs.EmittedWords
import ClusterCodec.Proofs.EmittedExpressions
import ClusterCodec.Proofs.EmittedDefinitions
import ClusterCodec.Proofs.ModuleTokens
import ClusterCodec.Proofs.ReadDeclarations
import ClusterCodec.Proofs.DocumentModules
import ClusterCodec.Proofs.ReferenceCycles
import ClusterCodec.Proofs.DeclaredIntegers
import ClusterCodec.Proofs.DistinctIdentifiers
import ClusterCodec.Proofs.SnakeLetters
import ClusterCodec.Proofs.PathNames
import ClusterCodec.Proofs.ConversionCalls
import ClusterCodec.Proofs.EnumAgreement
import ClusterCodec.Proofs.CheckedConversion
import ClusterCodec.Proofs.TypeMapping
import ClusterCodec.Proofs.CommandInheritance
import ClusterCodec.Proofs.SnakeCase
import ClusterCodec.Proofs.ValidIdentifiers
import ClusterCodec.Proofs.Abbreviations
import ClusterCodec.Proofs.InsertionOrder
import ClusterCodec.Proofs.BitmapMasks
import ClusterCodec.Proofs.BinderScopes
import ClusterCodec.Proofs.ModuleLayout
import ClusterCodec.Proofs.AttributeListing
import ClusterCodec.Proofs.LineMoves
import ClusterCodec.Proofs.NumeralReading
import ClusterCodec.Proofs.StringLiterals
import ClusterCodec.Proofs.QuotedTexts
