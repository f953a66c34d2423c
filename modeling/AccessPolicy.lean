import AccessPolicy.About
import AccessPolicy.Access.Authority
import AccessPolicy.Access.Decider
import AccessPolicy.Access.Guarded
import AccessPolicy.Attribute
import AccessPolicy.Calendar
import AccessPolicy.Collection
import AccessPolicy.Collection.Folder
import AccessPolicy.Collection.PathPattern
import AccessPolicy.Decimal.Binary64
import AccessPolicy.Decimal.Shortest
import AccessPolicy.Diagnostics
import AccessPolicy.Document
import AccessPolicy.Document.Schema
import AccessPolicy.Document.TextMap
import AccessPolicy.Document.Violation
import AccessPolicy.Environment
import AccessPolicy.Environment.Resolution
import AccessPolicy.FileTree
import AccessPolicy.Pattern
import AccessPolicy.Pattern.Character
import AccessPolicy.Pattern.Escape
import AccessPolicy.Pattern.Fault
import AccessPolicy.Pattern.FlagGroup
import AccessPolicy.Pattern.Lead
import AccessPolicy.Pattern.Matching
import AccessPolicy.Pattern.Node
import AccessPolicy.Pattern.Reading
import AccessPolicy.Pattern.Repetition
import AccessPolicy.Pattern.Set
import AccessPolicy.Pattern.Token
import AccessPolicy.Pattern.Trail
import AccessPolicy.Pattern.Width
import AccessPolicy.Pattern.Words
import AccessPolicy.Policy
import AccessPolicy.Proofs.Access.Consultation
import AccessPolicy.Proofs.Access.Record
import AccessPolicy.Proofs.Access.Requests
import AccessPolicy.Proofs.Access.Turns
import AccessPolicy.Proofs.Attribute
import AccessPolicy.Proofs.Calendar
import AccessPolicy.Proofs.Checks
import AccessPolicy.Proofs.Collection.Accounts
import AccessPolicy.Proofs.Collection.Crew
import AccessPolicy.Proofs.Collection.Merging
import AccessPolicy.Proofs.Collection.Places
import AccessPolicy.Proofs.Collection.Pool
import AccessPolicy.Proofs.Collection.Provenance
import AccessPolicy.Proofs.Collection.Schedules
import AccessPolicy.Proofs.Collection.Scoping
import AccessPolicy.Proofs.Collection.Shares
import AccessPolicy.Proofs.Conditions
import AccessPolicy.Proofs.Decimal.Reading
import AccessPolicy.Proofs.Decimal.Rounding
import AccessPolicy.Proofs.Decimal.Shortest
import AccessPolicy.Proofs.Diagnostics
import AccessPolicy.Proofs.Diagnostics.Clients
import AccessPolicy.Proofs.Diagnostics.Ledger
import AccessPolicy.Proofs.Distinct
import AccessPolicy.Proofs.Document.Clauses
import AccessPolicy.Proofs.Document.Form
import AccessPolicy.Proofs.Document.UnknownKeys
import AccessPolicy.Proofs.Document.Wholeness
import AccessPolicy.Proofs.Environment.Origin
import AccessPolicy.Proofs.Environment.Pinning
import AccessPolicy.Proofs.Environment.Scope
import AccessPolicy.Proofs.Environment.Settling
import AccessPolicy.Proofs.Environment.Single
import AccessPolicy.Proofs.Environment.Subject
import AccessPolicy.Proofs.Pattern.Simple
import AccessPolicy.Proofs.Policy.Articles
import AccessPolicy.Proofs.Policy.Compilation
import AccessPolicy.Proofs.Policy.CrossProduct
import AccessPolicy.Proofs.Policy.Expansion
import AccessPolicy.Proofs.Policy.Names
import AccessPolicy.Proofs.Policy.Soundness
import AccessPolicy.Proofs.Policy.Stages
import AccessPolicy.Proofs.Rule.Building
import AccessPolicy.Proofs.Rule.Identity
import AccessPolicy.Proofs.Rule.Restriction
import AccessPolicy.Proofs.Rule.SetLaws
import AccessPolicy.Proofs.Source.Blocks
import AccessPolicy.Proofs.Source.Bodies
import AccessPolicy.Proofs.Source.Boundaries
import AccessPolicy.Proofs.Source.BrokenFile
import AccessPolicy.Proofs.Source.Composition
import AccessPolicy.Proofs.Source.Entering
import AccessPolicy.Proofs.Source.Explanation
import AccessPolicy.Proofs.Source.Identity
import AccessPolicy.Proofs.Source.Isolation
import AccessPolicy.Proofs.Source.Layout
import AccessPolicy.Proofs.Source.Neighbours
import AccessPolicy.Proofs.Source.Padding
import AccessPolicy.Proofs.Source.Plain
import AccessPolicy.Proofs.Source.Prologue
import AccessPolicy.Proofs.Source.Quoting
import AccessPolicy.Proofs.Source.Regular
import AccessPolicy.Proofs.Source.Slots
import AccessPolicy.Proofs.Source.Stored
import AccessPolicy.Proofs.Source.Stream
import AccessPolicy.Proofs.Text.Digits
import AccessPolicy.Proofs.Text.Lines
import AccessPolicy.Proofs.Text.Quoted
import AccessPolicy.Proofs.Text.Utf8
import AccessPolicy.Proofs.Trials
import AccessPolicy.Proofs.Value.Equivalence
import AccessPolicy.Proofs.Value.Freezable
import AccessPolicy.Proofs.Value.Freezing
import AccessPolicy.Proofs.Value.Hashing
import AccessPolicy.Proofs.Value.Keys
import AccessPolicy.Proofs.Value.Ordering
import AccessPolicy.Proofs.Value.Sameness
import AccessPolicy.Proofs.Value.Sorting
import AccessPolicy.Proofs.Yaml.Behind
import AccessPolicy.Proofs.Yaml.Bracketing
import AccessPolicy.Proofs.Yaml.Cutoff
import AccessPolicy.Proofs.Yaml.Cutting
import AccessPolicy.Proofs.Yaml.Documents
import AccessPolicy.Proofs.Yaml.Embedding
import AccessPolicy.Proofs.Yaml.Fences
import AccessPolicy.Proofs.Yaml.Happenings
import AccessPolicy.Proofs.Yaml.Likeness
import AccessPolicy.Proofs.Yaml.Loading
import AccessPolicy.Proofs.Yaml.Nodes
import AccessPolicy.Proofs.Yaml.Padding
import AccessPolicy.Proofs.Yaml.Places
import AccessPolicy.Proofs.Yaml.Progress
import AccessPolicy.Proofs.Yaml.Quoting
import AccessPolicy.Proofs.Yaml.Recutting
import AccessPolicy.Proofs.Yaml.Rereading
import AccessPolicy.Proofs.Yaml.Resting
import AccessPolicy.Proofs.Yaml.Scalars
import AccessPolicy.Proofs.Yaml.Stepping
import AccessPolicy.Proofs.Yaml.Telling
import AccessPolicy.Proofs.Yaml.Twins
import AccessPolicy.Rule
import AccessPolicy.Rule.Builder
import AccessPolicy.Rule.Collected
import AccessPolicy.Source
import AccessPolicy.Source.Answer
import AccessPolicy.Source.Encoded
import AccessPolicy.Source.Intake
import AccessPolicy.Source.Item
import AccessPolicy.Source.Part
import AccessPolicy.Source.Session
import AccessPolicy.Text.Case
import AccessPolicy.Text.Cased
import AccessPolicy.Text.CharacterName
import AccessPolicy.Text.Glob
import AccessPolicy.Text.Identifier
import AccessPolicy.Text.Letter
import AccessPolicy.Text.Line
import AccessPolicy.Text.Name.Accent
import AccessPolicy.Text.Name.Africa
import AccessPolicy.Text.Name.Alias
import AccessPolicy.Text.Name.Ancient
import AccessPolicy.Text.Name.Arrow
import AccessPolicy.Text.Name.Brahmi
import AccessPolicy.Text.Name.Europe
import AccessPolicy.Text.Name.Form
import AccessPolicy.Text.Name.Hieroglyph
import AccessPolicy.Text.Name.India
import AccessPolicy.Text.Name.Island
import AccessPolicy.Text.Name.Kana
import AccessPolicy.Text.Name.Latin
import AccessPolicy.Text.Name.Mathematics
import AccessPolicy.Text.Name.NearEast
import AccessPolicy.Text.Name.Notation
import AccessPolicy.Text.Name.Picture
import AccessPolicy.Text.Name.Run
import AccessPolicy.Text.Name.Shape
import AccessPolicy.Text.Name.Sign
import AccessPolicy.Text.Name.SouthEast
import AccessPolicy.Text.Name.Syllable
import AccessPolicy.Text.Numeral
import AccessPolicy.Text.Printable
import AccessPolicy.Text.Quoted
import AccessPolicy.Text.Ranges
import AccessPolicy.Text.Utf8
import AccessPolicy.Text.Word
import AccessPolicy.Value
import AccessPolicy.Value.Frozen
import AccessPolicy.Value.Members
import AccessPolicy.Value.Order
import AccessPolicy.Value.Writable
import AccessPolicy.Yaml.Atom
import AccessPolicy.Yaml.Base64
import AccessPolicy.Yaml.Data
import AccessPolicy.Yaml.Event.Supply
import AccessPolicy.Yaml.Fault
import AccessPolicy.Yaml.Load
import AccessPolicy.Yaml.Mark
import AccessPolicy.Yaml.Merge
import AccessPolicy.Yaml.Node
import AccessPolicy.Yaml.Tag
import AccessPolicy.Yaml.Token
import AccessPolicy.Yaml.Token.Property
import AccessPolicy.Yaml.Token.Scalar
import AccessPolicy.Yaml.Token.Supply
