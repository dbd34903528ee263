import LogLab.CommandLine.Directory
import LogLab.Main
import LogLab.Proofs.Practice.Replay
import LogLab.Proofs.Query.Dialects
import LogLab.Proofs.Query.Injection
import LogLab.Service.Config
import LogLab.Service.Router
import LogLab.Proofs.Pipeline.Nulls
import LogLab.Proofs.Query.StatsColumns
import LogLab.Proofs.Query.SearchCommands
import LogLab.Proofs.Query.TableCommands
import LogLab.Proofs.Pipeline.Order
import LogLab.Proofs.Query.StatementResults
import LogLab.Proofs.Json.Parts
import LogLab.Proofs.Pipeline.RoundTrip
import LogLab.Proofs.Curriculum.RoundTrip
import LogLab.Proofs.Service.Answers
import LogLab.Proofs.Text.Wildcards
import LogLab.Proofs.Pipeline.Partition
import LogLab.Proofs.Curriculum.Exercises
import LogLab.Proofs.Query.GroupColumns
import LogLab.Proofs.Service.Attempts
import LogLab.Proofs.Pipeline.StableSort
import LogLab.Proofs.Pipeline.Filters
import LogLab.Proofs.Query.Clauses
import LogLab.Proofs.Query.Bars
import LogLab.Proofs.Query.TextFilters
import LogLab.Proofs.Query.SortKeys
import LogLab.Proofs.Query.Conjunctions
import LogLab.Proofs.Curriculum.Gaps
import LogLab.Proofs.Pipeline.NumericOrder
import LogLab.Proofs.Text.Underscores
import LogLab.Proofs.Query.PhraseSearch
import LogLab.Proofs.Service.Binding
import LogLab.Proofs.Query.Lossless
