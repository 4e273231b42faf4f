import Spreadsheet.Main
import Spreadsheet.Proofs.CommandLine.AllOrNothing
import Spreadsheet.Proofs.Document.Grammar
import Spreadsheet.Proofs.Formula.Equality
import Spreadsheet.Proofs.Formula.Evaluation
import Spreadsheet.Proofs.Formula.Placed
import Spreadsheet.Proofs.Formula.Reparse
import Spreadsheet.Proofs.Graph.Consistent
import Spreadsheet.Proofs.Graph.DepthFirst
import Spreadsheet.Proofs.Sheet.Affected
import Spreadsheet.Proofs.Sheet.Capacity
import Spreadsheet.Proofs.Sheet.Determined
import Spreadsheet.Proofs.Sheet.Load
import Spreadsheet.Proofs.Sheet.Stored
import Spreadsheet.Proofs.Graph.Outcome
import Spreadsheet.Proofs.Sheet.Agreement
import Spreadsheet.Proofs.Sheet.Unsaved
import Spreadsheet.Proofs.Config.Names
import Spreadsheet.Proofs.Sheet.References
