import Beans.Bean.Access
import Beans.Bean.Arguments
import Beans.Bean.Builder
import Beans.Bean.Change
import Beans.Bean.Clone
import Beans.Bean.Compare
import Beans.Bean.Fields
import Beans.Bean.Iterate
import Beans.Bean.Path
import Beans.Bean.Traits
import Beans.Command.Arguments
import Beans.Command.Session
import Beans.Declaration.Basic
import Beans.Declaration.Entries
import Beans.Declaration.Fault
import Beans.Declaration.Options
import Beans.Declaration.Rules
import Beans.Digest.Sip
import Beans.Document.Basic
import Beans.Document.Models
import Beans.Document.Read
import Beans.Document.Types
import Beans.Document.Write
import Beans.Error
import Beans.Files.Access
import Beans.Files.Pattern
import Beans.Files.Run
import Beans.Files.Search
import Beans.Generation.Accessors
import Beans.Generation.Builder
import Beans.Generation.Code
import Beans.Generation.Fragment
import Beans.Generation.MetaBean
import Beans.Generation.Parts
import Beans.Generation.Traits
import Beans.Layout.Draft
import Beans.Layout.Style
import Beans.Main
import Beans.Model.Accessor
import Beans.Model.Bean
import Beans.Model.Property
import Beans.Number.Binary
import Beans.Number.Decimal
import Beans.Number.Hexadecimal
import Beans.Order.Sort
import Beans.Profile
import Beans.Proofs.Bean.Agreement
import Beans.Proofs.Bean.Attempts
import Beans.Proofs.Bean.Change
import Beans.Proofs.Bean.Clone
import Beans.Proofs.Bean.Copied
import Beans.Proofs.Bean.Defaults
import Beans.Proofs.Bean.Description
import Beans.Proofs.Bean.DynamicCopy
import Beans.Proofs.Bean.Edited
import Beans.Proofs.Bean.Equality
import Beans.Proofs.Bean.Fields
import Beans.Proofs.Bean.Hashing
import Beans.Proofs.Bean.Ignoring
import Beans.Proofs.Bean.Interleaved
import Beans.Proofs.Bean.Legible
import Beans.Proofs.Bean.Lens
import Beans.Proofs.Bean.PathComposition
import Beans.Proofs.Bean.PathGrammar
import Beans.Proofs.Bean.Promise
import Beans.Proofs.Bean.Reachable
import Beans.Proofs.Bean.Rebuild
import Beans.Proofs.Bean.Reflexive
import Beans.Proofs.Bean.Regular
import Beans.Proofs.Bean.Slots
import Beans.Proofs.Bean.Snapshot
import Beans.Proofs.Bean.Store
import Beans.Proofs.Bean.Ties
import Beans.Proofs.Bean.Walk
import Beans.Proofs.Declaration.Names
import Beans.Proofs.Declaration.Violations
import Beans.Proofs.Files.Places
import Beans.Proofs.Files.Run
import Beans.Proofs.Generation.Attachment
import Beans.Proofs.Generation.Comparison
import Beans.Proofs.Generation.Functions
import Beans.Proofs.Generation.Names
import Beans.Proofs.Generation.PropertyMap
import Beans.Proofs.Layout.Levels
import Beans.Proofs.Layout.NormalForm
import Beans.Proofs.Model.Resolution
import Beans.Proofs.Number.Rounding
import Beans.Proofs.Number.Widening
import Beans.Proofs.Order.Matched
import Beans.Proofs.Order.Pointwise
import Beans.Proofs.Order.Sorted
import Beans.Proofs.Order.Transitive
import Beans.Proofs.Profile.Layers
import Beans.Proofs.Profile.Reading
import Beans.Proofs.Property.Draft
import Beans.Proofs.Region.Again
import Beans.Proofs.Region.ImportPlace
import Beans.Proofs.Region.Imports
import Beans.Proofs.Region.Kept
import Beans.Proofs.Region.Marker
import Beans.Proofs.Region.Reread
import Beans.Proofs.Region.Scope
import Beans.Proofs.Region.Search
import Beans.Proofs.Region.Splice
import Beans.Proofs.Region.StructEnd
import Beans.Proofs.Registry
import Beans.Proofs.Result
import Beans.Proofs.Syntax.Declarations
import Beans.Proofs.Syntax.Endings
import Beans.Proofs.Syntax.Ensures
import Beans.Proofs.Syntax.FieldNames
import Beans.Proofs.Syntax.Scan
import Beans.Proofs.Syntax.Stands
import Beans.Proofs.Syntax.Starts
import Beans.Proofs.Syntax.Words
import Beans.Proofs.Text.Blank
import Beans.Proofs.Text.Bytes
import Beans.Proofs.Text.Cut
import Beans.Proofs.Text.Feeds
import Beans.Proofs.Text.Lines
import Beans.Proofs.Text.Settled
import Beans.Proofs.Text.Woven
import Beans.Proofs.Types.Arity
import Beans.Proofs.Types.Ascent
import Beans.Proofs.Types.Bindings
import Beans.Proofs.Types.Erasure
import Beans.Proofs.Types.Grammar
import Beans.Proofs.Types.Name
import Beans.Proofs.Types.Spelling
import Beans.Proofs.Types.Written
import Beans.Proofs.Value.Converted
import Beans.Proofs.Value.Equality
import Beans.Proofs.Value.Observation
import Beans.Proofs.Value.Order
import Beans.Proofs.Value.Plain
import Beans.Proofs.Value.RoundTrip
import Beans.Proofs.Value.ScalarOrder
import Beans.Proofs.Value.Sound
import Beans.Proofs.Value.Typed
import Beans.Proofs.Value.TypedEquality
import Beans.Proofs.Value.Unordered
import Beans.Property.Comparison
import Beans.Property.Map
import Beans.Property.Meta
import Beans.Property.Style
import Beans.Property.Tag
import Beans.Record.Declare
import Beans.Record.Type
import Beans.Region.Imports
import Beans.Region.Marker
import Beans.Region.Rewrite
import Beans.Registry
import Beans.Sample.Changeable
import Beans.Sample.Fixed
import Beans.Sample.Index
import Beans.Sample.Tables
import Beans.Settings
import Beans.Syntax.Grammar.Attributes
import Beans.Syntax.Grammar.Expressions
import Beans.Syntax.Grammar.Forms
import Beans.Syntax.Grammar.Items
import Beans.Syntax.Grammar.Patterns
import Beans.Syntax.Grammar.Types
import Beans.Syntax.Item
import Beans.Syntax.Lexer
import Beans.Syntax.Literal
import Beans.Syntax.Reader
import Beans.Syntax.Token
import Beans.Syntax.Ty
import Beans.Text.Blank
import Beans.Text.Cased
import Beans.Text.Identifier
import Beans.Text.Letter
import Beans.Text.Lines
import Beans.Text.LowerCase
import Beans.Text.Quoted
import Beans.Text.Range
import Beans.Text.Search
import Beans.Text.Similarity
import Beans.Text.UpperCase
import Beans.Text.Visible
import Beans.Types.Basic
import Beans.Types.Catalog
import Beans.Types.Parse
import Beans.Types.Resolved
import Beans.Value.Basic
import Beans.Value.Display
import Beans.Value.Equality
import Beans.Value.Grid
import Beans.Value.Observation
import Beans.Value.Scalar
import Beans.Value.Type
import Beans.Value.Typed
