import Schemata.Address
import Schemata.Address.Printer
import Schemata.Address.Reader
import Schemata.Constraint
import Schemata.DateTime
import Schemata.DateTime.Printer
import Schemata.DateTime.Reader
import Schemata.Decimal.Binary
import Schemata.Decimal.FloatText
import Schemata.Decimal.Reading
import Schemata.Decimal.Shortest
import Schemata.Definition
import Schemata.Definition.Draft
import Schemata.Document
import Schemata.Document.Json
import Schemata.Documentation
import Schemata.Draft3
import Schemata.Error
import Schemata.Format
import Schemata.Json
import Schemata.Json.Number
import Schemata.Json.Printer
import Schemata.Json.Reader
import Schemata.KeyMap
import Schemata.Leaf
import Schemata.Options
import Schemata.Outline
import Schemata.Proofs.Answer
import Schemata.Proofs.ArrayMatching
import Schemata.Proofs.Building
import Schemata.Proofs.CanonicalLeaf
import Schemata.Proofs.Conformance
import Schemata.Proofs.Fixpoint
import Schemata.Proofs.ObjectMatching
import Schemata.Proofs.Resolution
import Schemata.Proofs.Traversal
import Schemata.Regex.Automaton.CharRange
import Schemata.Regex.Automaton.Form
import Schemata.Regex.Automaton.Layout
import Schemata.Regex.Automaton.Room
import Schemata.Regex.Automaton.Trie
import Schemata.Regex.Bracket
import Schemata.Regex.Escape
import Schemata.Regex.Expr
import Schemata.Regex.Group
import Schemata.Regex.Matching
import Schemata.Regex.Pattern
import Schemata.Regex.PatternError
import Schemata.Registry
import Schemata.Schema
import Schemata.Slots
import Schemata.Text.Digits
import Schemata.Text.Integer
import Schemata.Text.Quoted
import Schemata.Unicode.Age
import Schemata.Unicode.BinaryProperty
import Schemata.Unicode.Blank
import Schemata.Unicode.CaseClass
import Schemata.Unicode.Category
import Schemata.Unicode.CharSet
import Schemata.Unicode.GraphemeBreak
import Schemata.Unicode.Latest
import Schemata.Unicode.PropertyName
import Schemata.Unicode.RangeTable
import Schemata.Unicode.Script
import Schemata.Unicode.ScriptExtension
import Schemata.Unicode.SentenceBreak
import Schemata.Unicode.Utf8
import Schemata.Unicode.WordBreak
import Schemata.Validation
import Schemata.Validator
import Schemata.Visit
import Schemata.Vocabulary
import Schemata.Vocabulary.Extended
import Schemata.Proofs.ErrorPath
import Schemata.Proofs.Places
import Schemata.Proofs.Rounds
import Schemata.Proofs.Visiting
import Schemata.Proofs.Calls
import Schemata.Proofs.SlotProtocol
import Schemata.Proofs.InPlace
import Schemata.Proofs.DigitText
import Schemata.Proofs.FiniteFloat
import Schemata.Proofs.History
import Schemata.Proofs.DateTimeText
import Schemata.Proofs.AddressText
import Schemata.Proofs.Restored
import Schemata.Proofs.Storage
import Schemata.Proofs.Replacement
import Schemata.Proofs.Reserved
import Schemata.Proofs.Loosening
import Schemata.Proofs.Description
import Schemata.Proofs.Emptied
import Schemata.Proofs.Listing
import Schemata.Proofs.Transparency
import Schemata.Proofs.Registration
import Schemata.Proofs.Hiding
import Schemata.Proofs.TuplePositions
import Schemata.Proofs.StatedBounds
import Schemata.Proofs.WrittenDefaults
import Schemata.Proofs.Blocks
import Schemata.Proofs.FailedCalls
import Schemata.Proofs.ItemModes
import Schemata.Proofs.Regrouping
import Schemata.Proofs.BoundFormat
import Schemata.Proofs.DocumentOrder
import Schemata.Proofs.Comparisons
import Schemata.Proofs.EqualItems
import Schemata.Proofs.Stretches
import Schemata.Proofs.Matching
import Schemata.Proofs.ParsedPattern
import Schemata.Proofs.PatternLanguage
import Schemata.Proofs.IntegerText
import Schemata.Proofs.TextLanguage
import Schemata.Proofs.FormatLanguage
import Schemata.Proofs.NestedInduction
import Schemata.Proofs.JsonRoundTrip
