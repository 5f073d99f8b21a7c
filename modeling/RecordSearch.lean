import RecordSearch.Matcher
import RecordSearch.Text.Case
import RecordSearch.Text.HiddenTable
import RecordSearch.Text.Quoted
import RecordSearch.Text.WordTable
import RecordSearch.Value
import RecordSearch.Query.Builder
import RecordSearch.Query.Codec
import RecordSearch.Query.Raw
import RecordSearch.SortedTable
import RecordSearch.MatchResult
import RecordSearch.Node
import RecordSearch.Schema.Walk
import RecordSearch.Predicate.Compile
import RecordSearch.Derive.Basic
import RecordSearch.Derive.Views
import RecordSearch.Display
import RecordSearch.Samples.Zoo
import RecordSearch.Proofs.Listing
import RecordSearch.Proofs.Evaluation
import RecordSearch.Proofs.Run
import RecordSearch.Proofs.QueryMeaning
import RecordSearch.Proofs.Highlighting
import RecordSearch.Proofs.Reach
import RecordSearch.Proofs.SharedSteps
import RecordSearch.Proofs.LinkedConditions
import RecordSearch.Proofs.Registration
import RecordSearch.Proofs.Route
import RecordSearch.Proofs.Enumeration
import RecordSearch.Proofs.LabelledRoutes
import RecordSearch.Proofs.Conformance
import RecordSearch.Proofs.RegisteredPlaces
import RecordSearch.Proofs.LiteralTests
import RecordSearch.Proofs.FirstFault
import RecordSearch.Proofs.UnknownLabels
import RecordSearch.Proofs.Containers
import RecordSearch.Proofs.SoleLabels
import RecordSearch.Proofs.FieldConditions
import RecordSearch.Proofs.LabelledContainers
import RecordSearch.Proofs.MapSides
import RecordSearch.Proofs.BooleanReading
import RecordSearch.Proofs.BuiltQueries
import RecordSearch.Proofs.ReadQueries
import RecordSearch.Proofs.Rereading
import RecordSearch.Proofs.JoinedQueries
import RecordSearch.Proofs.QuotedValues
import RecordSearch.Proofs.Growth
import RecordSearch.Proofs.Conjunctions
import RecordSearch.Proofs.SeparateConditions
import RecordSearch.Proofs.QuoteScans
import RecordSearch.Proofs.Spans
import RecordSearch.Proofs.Widening
import RecordSearch.Proofs.InStep
import RecordSearch.Proofs.BracketsInStep
import RecordSearch.Proofs.PartsInStep
import RecordSearch.Proofs.RepeatedEnd
import RecordSearch.Proofs.Globs
import RecordSearch.Proofs.LetterCase
import RecordSearch.Proofs.CompletedLiterals
import RecordSearch.Proofs.Completion
import RecordSearch.Proofs.Groups
import RecordSearch.Proofs.Negation
import RecordSearch.Proofs.NamesApart
import RecordSearch.Proofs.OwnLeaves
import RecordSearch.Proofs.ReportedLeaves
import RecordSearch.Proofs.QuerySpellings
import RecordSearch.Proofs.WrittenLabels
import RecordSearch.Proofs.LinkedEntries
import RecordSearch.Proofs.Foldings
import RecordSearch.Proofs.PlainTexts
import RecordSearch.Proofs.WholeForms
import RecordSearch.Proofs.EscapedTexts
import RecordSearch.Proofs.GlobPieces
import RecordSearch.Proofs.PlainPatterns
import RecordSearch.Proofs.ReadAhead
import RecordSearch.Proofs.StepsAhead
import RecordSearch.Proofs.FramedReading
import RecordSearch.Proofs.Outlines
import RecordSearch.Proofs.WholeExpressions
import RecordSearch.Proofs.Rounding
import RecordSearch.Proofs.NearestValues
import RecordSearch.Proofs.NumberOrder
import RecordSearch.Proofs.NumberLaws
import RecordSearch.Proofs.Numerals
import RecordSearch.Proofs.IntegerLiterals
import RecordSearch.Proofs.ShortestDecimals
import RecordSearch.Proofs.DisplayedNumbers
import RecordSearch.Proofs.NegationMarks
import RecordSearch.Proofs.Operators
import RecordSearch.Proofs.OperatorLaws
import RecordSearch.Proofs.LoweredTexts
import RecordSearch.Proofs.ChoiceNames
import RecordSearch.Proofs.MeaninglessLiterals
import RecordSearch.Proofs.ForeignValues
import RecordSearch.Proofs.UnfinishedValues
import RecordSearch.Proofs.Fragments
import RecordSearch.Proofs.RegisteredLabels
import RecordSearch.Proofs.StepwiseWalk
import RecordSearch.Proofs.ReachedResults
import RecordSearch.Proofs.SnakeCase
import RecordSearch.Proofs.DerivedNames
import RecordSearch.Proofs.SelectedParts
import RecordSearch.Proofs.RawMarks
import RecordSearch.Proofs.SplitAttributes
