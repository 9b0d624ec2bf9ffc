import TableLineage.Main
import TableLineage.CommandLine.Run
import TableLineage.Proofs.Text.Letter
import TableLineage.Proofs.Text.Split
import TableLineage.Proofs.Formula.Step
import TableLineage.Proofs.Formula.Lexing
import TableLineage.Proofs.Formula.Listing
import TableLineage.Formula.Mode
import TableLineage.Proofs.Formula.Arguments
import TableLineage.Proofs.Formula.Classification
import TableLineage.Proofs.Formula.CharacterPass
import TableLineage.Proofs.Formula.QueryText
import TableLineage.Proofs.Formula.Literal
import TableLineage.Proofs.Lineage.Extraction
import TableLineage.Proofs.Lineage.QueryRoundTrip
import TableLineage.Proofs.Formula.Fence
import TableLineage.Proofs.Formula.Group
import TableLineage.Proofs.Formula.Navigation
import TableLineage.Proofs.Formula.Quiet
import TableLineage.Proofs.Text.LetterCase
import TableLineage.Proofs.Lineage.NavigationRoundTrip
import TableLineage.Proofs.Lineage.Verdict
import TableLineage.Proofs.Lineage.Outcome
import TableLineage.Proofs.Text.Utf16
import TableLineage.Proofs.Text.Lines
import TableLineage.Proofs.Lineage.Rejoining
import TableLineage.Proofs.Sql.Statements
import TableLineage.Proofs.Lineage.DirectImport
import TableLineage.Proofs.Lineage.Schedule
import TableLineage.Proofs.CommandLine.Path
import TableLineage.Proofs.CommandLine.Directory
import TableLineage.Proofs.Lineage.Format
import TableLineage.Proofs.CommandLine.Agreement
import TableLineage.Proofs.Json.Accepting
import TableLineage.Proofs.Json.Meaning
import TableLineage.Proofs.Json.Numbers
import TableLineage.Proofs.Json.Reading
import TableLineage.Proofs.Schema.View
import TableLineage.Proofs.Lineage.Visible
import TableLineage.Proofs.Json.Tree
import TableLineage.Proofs.Json.Scanning
import TableLineage.Proofs.Json.Taking
import TableLineage.Proofs.Schema.Exact
import TableLineage.Proofs.Schema.Unseen
import TableLineage.Formula.Scanner
import TableLineage.Proofs.Formula.Scanner
import TableLineage.Proofs.Formula.Unclosed
import TableLineage.Proofs.Export.Objects
import TableLineage.Proofs.Json.Printing
import TableLineage.Proofs.Schema.Marking
import TableLineage.Proofs.Lineage.Marking
import TableLineage.Proofs.Lineage.ReadingBack
import TableLineage.Proofs.Formula.LineBreak
import TableLineage.Proofs.Formula.Normalization
import TableLineage.Sql.Collector
import TableLineage.Proofs.Sql.Collector
import TableLineage.Proofs.Export.Grouping
import TableLineage.Proofs.Formula.NavigationRecord
import TableLineage.Export.CsvReader
import TableLineage.Proofs.Export.Csv
import TableLineage.Formula.Moves
import TableLineage.Proofs.Formula.Moves
