import Lexical.Main
import Lexical.Proofs.StrippedPlaces
import Lexical.Proofs.StrippedReading
import Lexical.Proofs.Sessions
import Lexical.Proofs.Layout
import Lexical.Proofs.Margins
import Lexical.Proofs.StrippedTwice
import Lexical.Proofs.Excerpts
import Lexical.Proofs.Commands
import Lexical.Proofs.OnePass
import Lexical.Proofs.StrippedJoins
import Lexical.Proofs.BeforeErrors
import Lexical.Proofs.ErrorPlaces
import Lexical.Proofs.Spacing
import Lexical.Proofs.ReportTexts
import Lexical.Proofs.WholeSources
import Lexical.Proofs.Charts
import Lexical.Proofs.RuleOrder
import Lexical.Proofs.Traces
import Lexical.Proofs.ErrorTexts
import Lexical.Proofs.Alternations
import Lexical.Proofs.Sweeps
