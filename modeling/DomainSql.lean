import DomainSql.Session
import DomainSql.Directory
import DomainSql.Main
import DomainSql.Proofs.Words
import DomainSql.Proofs.PlainNames
import DomainSql.Proofs.Meaning
import DomainSql.Proofs.RouteMeaning
import DomainSql.Proofs.CompiledParts
import DomainSql.Proofs.PlainText
import DomainSql.Proofs.Placeholders
import DomainSql.Proofs.Marks
import DomainSql.Proofs.ReadingConditions
import DomainSql.Proofs.ReadingBack
import DomainSql.Proofs.ValueFree
import DomainSql.Proofs.LeafFilters
import DomainSql.Proofs.SortText
import DomainSql.Proofs.Acceptance
import DomainSql.Proofs.Clauses
import DomainSql.Proofs.Effects
import DomainSql.Proofs.Preview
import DomainSql.Proofs.Refusals
import DomainSql.Proofs.RouteAccount
import DomainSql.Proofs.ReversedRoute
import DomainSql.Proofs.Precedence
import DomainSql.Proofs.ClauseReading
import DomainSql.Proofs.ClauseText
import DomainSql.Proofs.EntryMeaning
import DomainSql.Proofs.FilterMeaning
import DomainSql.Proofs.Interleaving
import DomainSql.Proofs.Accounting
import DomainSql.Proofs.Json.Spacing
import DomainSql.Proofs.Json.Values
import DomainSql.Proofs.Json.Records
import DomainSql.Proofs.RequestDocuments
import DomainSql.Proofs.Json.ReadValues
import DomainSql.Proofs.ParsedRequests
import DomainSql.Proofs.Json.Defaults
import DomainSql.Proofs.Directories
import DomainSql.Proofs.ConfigurationDocuments
import DomainSql.Proofs.Insertions
import DomainSql.Proofs.Arguments
import DomainSql.Proofs.RouteRoot
import DomainSql.Proofs.CommandRuns
import DomainSql.Proofs.WrittenColumns
import DomainSql.Proofs.SortReading
import DomainSql.Proofs.Suffixes
import DomainSql.Proofs.Patterns
import DomainSql.Proofs.Templates
import DomainSql.Proofs.Pages
import DomainSql.Proofs.LeafColumns
import DomainSql.Proofs.AbsentCharacters
import DomainSql.Proofs.Json.Controls
import DomainSql.Proofs.PrintedLines
import DomainSql.Proofs.DirectoryChanges
import DomainSql.Proofs.FirstConfiguration
import DomainSql.Proofs.FoldedNames
