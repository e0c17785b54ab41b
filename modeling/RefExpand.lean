import RefExpand.Call.Argument
import RefExpand.Call.Binding
import RefExpand.Call.Catalog
import RefExpand.Call.Coercion
import RefExpand.Call.Invocation
import RefExpand.Call.Link
import RefExpand.Call.Parameter
import RefExpand.Call.Policy
import RefExpand.Call.Resolver
import RefExpand.Call.TypeCache
import RefExpand.Error
import RefExpand.Expand.Context
import RefExpand.Expand.Expander
import RefExpand.Expand.Items
import RefExpand.Expand.Metadata
import RefExpand.Expand.Pair
import RefExpand.Expand.Properties
import RefExpand.Expand.Transform
import RefExpand.Expand.Usage
import RefExpand.Failure
import RefExpand.Library.Intrinsics
import RefExpand.Library.NumberTypes
import RefExpand.Library.Standard
import RefExpand.Library.SystemTypes
import RefExpand.Library.TextMembers
import RefExpand.Library.TextTypes
import RefExpand.Library.ValueMembers
import RefExpand.Location
import RefExpand.Number.Binary64
import RefExpand.Number.Decimal
import RefExpand.Number.FloatReading
import RefExpand.Number.Shortest
import RefExpand.Options
import RefExpand.Pattern.Basic
import RefExpand.Pattern.Brackets
import RefExpand.Pattern.CharSet
import RefExpand.Pattern.Escape
import RefExpand.Pattern.Flags
import RefExpand.Pattern.NamedSet
import RefExpand.Pattern.Program
import RefExpand.Pattern.Replacement
import RefExpand.Pattern.Search
import RefExpand.Pattern.Size
import RefExpand.Pattern.Unicode.Age
import RefExpand.Pattern.Unicode.BinaryProperty
import RefExpand.Pattern.Unicode.Boundary
import RefExpand.Pattern.Unicode.CaseGroup
import RefExpand.Pattern.Unicode.Category
import RefExpand.Pattern.Unicode.Script
import RefExpand.Pattern.Written
import RefExpand.Project.FileSystem
import RefExpand.Project.FileTree
import RefExpand.Project.Glob
import RefExpand.Project.Item
import RefExpand.Project.MetadataTable
import RefExpand.Project.Path
import RefExpand.Project.PropertyTable
import RefExpand.Project.SpecModifier
import RefExpand.Project.WildcardPattern
import RefExpand.Proofs.Call.ArgumentLists
import RefExpand.Proofs.Call.ChainForm
import RefExpand.Proofs.Call.IntegerCoercion
import RefExpand.Proofs.Call.SharedAnswers
import RefExpand.Proofs.Expand.Dependencies
import RefExpand.Proofs.Expand.DirectoriesAbove
import RefExpand.Proofs.Expand.DirectoryMemo
import RefExpand.Proofs.Expand.Distinct
import RefExpand.Proofs.Expand.EarlyStop
import RefExpand.Proofs.Expand.EmptyLists
import RefExpand.Proofs.Expand.ErrorLocations
import RefExpand.Proofs.Expand.Indexers
import RefExpand.Proofs.Expand.InertData
import RefExpand.Proofs.Expand.IntegerTree
import RefExpand.Proofs.Expand.JoinedSplit
import RefExpand.Proofs.Expand.LeavingErrors
import RefExpand.Proofs.Expand.NamedReferences
import RefExpand.Proofs.Expand.NothingToExpand
import RefExpand.Proofs.Expand.PairForm
import RefExpand.Proofs.Expand.Places
import RefExpand.Proofs.Expand.PolicyGate
import RefExpand.Proofs.Expand.Reentry
import RefExpand.Proofs.Expand.SingleItem
import RefExpand.Proofs.Expand.StepNames
import RefExpand.Proofs.Expand.Substitution
import RefExpand.Proofs.Expand.TextTransforms
import RefExpand.Proofs.Expand.ValueForm
import RefExpand.Proofs.Expand.VectorPieces
import RefExpand.Proofs.Expand.WildcardPatterns
import RefExpand.Proofs.Library.DirectDispatch
import RefExpand.Proofs.Library.FileAbove
import RefExpand.Proofs.Library.Standard
import RefExpand.Proofs.Library.Substrings
import RefExpand.Proofs.Project.RecursiveDirectories
import RefExpand.Proofs.Project.SpecModifiers
import RefExpand.Proofs.Scan.Captures
import RefExpand.Proofs.Scan.ItemTypes
import RefExpand.Proofs.Scan.ListedVectors
import RefExpand.Proofs.Scan.Windows
import RefExpand.Proofs.Text.EscapedShape
import RefExpand.Proofs.Text.ListPieces
import RefExpand.Proofs.Value.EscapedForm
import RefExpand.Proofs.Value.IntegerTexts
import RefExpand.Proofs.Value.PatternCuts
import RefExpand.Proofs.Value.Versions
import RefExpand.Scan.Balanced
import RefExpand.Scan.ItemVector
import RefExpand.Scan.Metadata
import RefExpand.Scan.Reader
import RefExpand.Scan.ReferencedNames
import RefExpand.Scan.Window
import RefExpand.Template.Basic
import RefExpand.Template.Read
import RefExpand.Text.Base64
import RefExpand.Text.Basic
import RefExpand.Text.Blank
import RefExpand.Text.Casing
import RefExpand.Text.Escaping
import RefExpand.Text.ListSplit
import RefExpand.Text.Name
import RefExpand.Text.Order
import RefExpand.Text.Part
import RefExpand.Text.StableHash
import RefExpand.Text.Unicode.CaseTable
import RefExpand.Text.Unicode.ClassTable
import RefExpand.Text.Unicode.CodeRun
import RefExpand.Text.Utf8
import RefExpand.Value.Basic
import RefExpand.Value.Composite
import RefExpand.Value.DatePattern
import RefExpand.Value.DateTime
import RefExpand.Value.NumberPattern
import RefExpand.Value.Version
