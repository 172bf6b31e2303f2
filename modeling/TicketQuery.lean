import TicketQuery.CodePointRanges
import TicketQuery.Alphabetic
import TicketQuery.WhiteSpace
import TicketQuery.UnprintableCharacters
import TicketQuery.Operator
import TicketQuery.Token
import TicketQuery.ColumnPadding
import TicketQuery.Utf8Length
import TicketQuery.Lexer
import TicketQuery.Instant
import TicketQuery.Query
import TicketQuery.QueryText
import TicketQuery.EscapedText
import TicketQuery.Fault
import TicketQuery.Parser
import TicketQuery.JsonValue
import TicketQuery.Double
import TicketQuery.DoubleText
import TicketQuery.JsonFault
import TicketQuery.JsonNumber
import TicketQuery.JsonText
import TicketQuery.JsonToken
import TicketQuery.JsonReader
import TicketQuery.JsonSkip
import TicketQuery.JsonRecord
import TicketQuery.Config
import TicketQuery.ConfigReader
import TicketQuery.Filter
import TicketQuery.FilterText
import TicketQuery.BoundedQuery
import TicketQuery.SqlText
import TicketQuery.SqlTemplate
import TicketQuery.SqlCondition
import TicketQuery.Select
import TicketQuery.FileTree
import TicketQuery.ConfigFile
import TicketQuery.GraphemeBreak
import TicketQuery.GraphemeCluster
import TicketQuery.TypedLine
import TicketQuery.Shell
import TicketQuery.Main
import TicketQuery.Proofs.ParseTree
import TicketQuery.Proofs.Unambiguity
import TicketQuery.Proofs.ParserOutcome
import TicketQuery.Proofs.ParserCompleteness
import TicketQuery.Proofs.ParserSoundness
import TicketQuery.Proofs.Acceptance
import TicketQuery.Proofs.LexerSteps
import TicketQuery.Proofs.WellFormed
import TicketQuery.Proofs.WrittenTokens
import TicketQuery.Proofs.RoundTrip
import TicketQuery.Proofs.LexedTokens
import TicketQuery.Proofs.ParsedQuery
import TicketQuery.Proofs.Lowering
import TicketQuery.Proofs.LastExpression
import TicketQuery.Proofs.LastModifiers
import TicketQuery.Proofs.ConditionMeaning
import TicketQuery.Proofs.SqlScanner
import TicketQuery.Proofs.TemplateFilling
import TicketQuery.Proofs.MemberTest
import TicketQuery.Proofs.Alike
import TicketQuery.Proofs.StatementTokens
import TicketQuery.Proofs.ConditionTexts
import TicketQuery.Proofs.SelectClauses
import TicketQuery.Proofs.TokenShapes
import TicketQuery.Proofs.TokenPlaces
import TicketQuery.Proofs.ParallelRuns
import TicketQuery.Proofs.Layout
import TicketQuery.Proofs.FaultPlaces
import TicketQuery.Proofs.ReachedStorage
import TicketQuery.Proofs.TemplateMarks
import TicketQuery.Proofs.MarkedTokens
import TicketQuery.Proofs.ReachedColumns
import TicketQuery.Proofs.QuerySequence
import TicketQuery.Proofs.HiddenQuotes
import TicketQuery.Proofs.JsonScalarText
import TicketQuery.Proofs.JsonValueText
import TicketQuery.Proofs.ShellSession
import TicketQuery.Proofs.JsonReadValues
import TicketQuery.Proofs.ConfigRoundTrip
import TicketQuery.Proofs.ReportedFailures
import TicketQuery.Proofs.PatternMatching
import TicketQuery.Proofs.FaultTokens
import TicketQuery.Proofs.FaultTexts
import TicketQuery.Proofs.OrderedColumns
import TicketQuery.Proofs.FilterDocuments
import TicketQuery.Proofs.ResumedReading
import TicketQuery.Proofs.ModifierKeywords
import TicketQuery.Proofs.DenotedStrings
import TicketQuery.Proofs.StatementStrings
import TicketQuery.Proofs.NestingDepth
import TicketQuery.Proofs.ReadingProgress
import TicketQuery.Proofs.JsonGrammar
import TicketQuery.Proofs.SpelledTokens
import TicketQuery.Proofs.TreeReading
import TicketQuery.Proofs.SkippedValues
import TicketQuery.Proofs.RecordLayers
import TicketQuery.Proofs.ConfigLayers
