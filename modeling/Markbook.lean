import Markbook.Command.Directory
import Markbook.Formula.Grammar
import Markbook.Main
import Markbook.Proofs.Book.Session
import Markbook.Proofs.Dependency.Plan
import Markbook.Proofs.Formula.Grammar
import Markbook.Proofs.Report.Equations
import Markbook.Proofs.Decimal.Score
import Markbook.Proofs.Formula.Spelling
import Markbook.Proofs.Substitution.Agreement
import Markbook.Proofs.Decimal.Canonical
import Markbook.Proofs.Json.Scalar
import Markbook.Proofs.Json.RoundTrip
import Markbook.Proofs.Book.File
import Markbook.Proofs.Formula.Strict
import Markbook.Proofs.Report.Strict
import Markbook.Proofs.Report.Dependence
import Markbook.Proofs.Report.ItemOrder
import Markbook.Proofs.Report.Addition
import Markbook.Proofs.Command.Report
import Markbook.Proofs.Substitution.Punctuated
import Markbook.Proofs.Formula.Recovery
import Markbook.Proofs.Decimal.Sign
import Markbook.Proofs.Formula.Printing
import Markbook.Proofs.Formula.Independence
import Markbook.Proofs.Formula.Mistakes
import Markbook.Proofs.Formula.Trailing
import Markbook.Proofs.Dependency.Search
import Markbook.Proofs.Report.Average
import Markbook.Proofs.Report.Marks
import Markbook.Bindings.Indexed
import Markbook.Proofs.Bindings.Indexed
import Markbook.Formula.Descent
import Markbook.Proofs.Formula.Scanner
import Markbook.Proofs.Formula.Descent
import Markbook.Proofs.Formula.Progress
import Markbook.Proofs.Formula.Size
