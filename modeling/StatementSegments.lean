import StatementSegments.Settings.ToDocument
import StatementSegments.Settings.File
import StatementSegments.Extraction.Select
import StatementSegments.Tree.Builder
import StatementSegments.Proofs.NodeOrder
import StatementSegments.Proofs.SpanNesting
import StatementSegments.Proofs.AcceptedSteps
import StatementSegments.Proofs.BuiltTree
import StatementSegments.Proofs.VisitOrder
import StatementSegments.Proofs.BoundSources
import StatementSegments.Proofs.MarkerNumbers
import StatementSegments.Proofs.MissingNames
import StatementSegments.Proofs.ParameterBounds
import StatementSegments.Proofs.ArenaWork
import StatementSegments.Proofs.NodeIntervals
import StatementSegments.Proofs.ArenaLayout
import StatementSegments.Proofs.ArenaSteps
import StatementSegments.Proofs.NodeTexts
import StatementSegments.Proofs.AcceptedRuns
import StatementSegments.Proofs.StepStreams
import StatementSegments.Proofs.MarkerPositions
import StatementSegments.Proofs.ColumnOwners
import StatementSegments.Proofs.SelectedParts
import StatementSegments.Proofs.OwnerReferences
import StatementSegments.Proofs.ResolutionPasses
import StatementSegments.Proofs.RoundedIntegers
import StatementSegments.Proofs.NearestMagnitudes
import StatementSegments.Proofs.NumeralTexts
import StatementSegments.Proofs.LiteralTexts
import StatementSegments.Proofs.IntegerBounds
import StatementSegments.Proofs.FailureReports
import StatementSegments.Proofs.RecordLevels
import StatementSegments.Proofs.NodeMaps
import StatementSegments.Proofs.CarriedSelections
import StatementSegments.Proofs.MovedTrees
import StatementSegments.Proofs.StringLiterals
import StatementSegments.Proofs.TopAliases
import StatementSegments.Proofs.MarkerLookups
import StatementSegments.Proofs.TokenTypes
import StatementSegments.Proofs.QuotedStrings
import StatementSegments.Proofs.PlainValues
import StatementSegments.Proofs.WrittenDocuments
import StatementSegments.Proofs.SavedSettings
import StatementSegments.Proofs.ExpressionOutcomes
import StatementSegments.Proofs.BoundOutcomes
import StatementSegments.Proofs.LimitClauses
import StatementSegments.Proofs.SubtreeNodes
import StatementSegments.Proofs.TopClauses
import StatementSegments.Proofs.SoleNodes
import StatementSegments.Proofs.ReferenceTexts
import StatementSegments.Proofs.SingleReferences
import StatementSegments.Proofs.RespelledTables
import StatementSegments.Proofs.CanonicalIdentifiers
import StatementSegments.Proofs.OpenNodes
import StatementSegments.Proofs.TruncatedDecimals
import StatementSegments.Proofs.SpanOffsets
import StatementSegments.Proofs.SearchTurns
import StatementSegments.Proofs.ArenaSearches
