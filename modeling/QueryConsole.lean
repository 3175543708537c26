import QueryConsole.Main
import QueryConsole.Proofs.Marks
import QueryConsole.Proofs.Sql.Automaton
import QueryConsole.Proofs.Sql.Decomposition
import QueryConsole.Proofs.Sql.Newline
import QueryConsole.Proofs.Sql.Nesting
import QueryConsole.Proofs.Stability
import QueryConsole.Sql.Reach
import QueryConsole.Proofs.Sql.Offsets
import QueryConsole.Proofs.Sql.OpenConstruct
import QueryConsole.Proofs.Sql.Hiding
import QueryConsole.Proofs.Sql.Insertion
import QueryConsole.Proofs.Sql.Pending
import QueryConsole.Proofs.CommandLine
import QueryConsole.Proofs.Completion
import QueryConsole.Proofs.Gathering
import QueryConsole.Proofs.Sql.Dialects
import QueryConsole.Proofs.Command.SparedWords
import QueryConsole.Proofs.Command.Spellings
import QueryConsole.Proofs.Command.Templates
import QueryConsole.Proofs.Command.Overlooked
import QueryConsole.Proofs.Transcript
import QueryConsole.Proofs.Sql.Spelling
import QueryConsole.Proofs.Command.Faults
import QueryConsole.Proofs.Command.Progress
import QueryConsole.Proofs.Command.Remainder
import QueryConsole.Proofs.Command.Numbers
import QueryConsole.Proofs.Command.Redirections
import QueryConsole.Proofs.Command.FirstWord
import QueryConsole.Proofs.Carets
import QueryConsole.Proofs.Sql.Reach
import QueryConsole.Proofs.Sql.Search
import QueryConsole.Proofs.Sql.Parens
import QueryConsole.Proofs.Text.Pieces
