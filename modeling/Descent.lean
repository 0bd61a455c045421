import Descent.Main
import Descent.Proofs.Batch.Agreement
import Descent.Proofs.Call.FurthestFailure
import Descent.Proofs.Call.RoundTrip
import Descent.Proofs.Call.SyntaxError
import Descent.Proofs.Depth.Block
import Descent.Proofs.Call.NumberValue
import Descent.Proofs.Parser.Deferral
import Descent.Proofs.Parser.Locality
import Descent.Proofs.Parser.Provenance
import Descent.Proofs.Parser.Refactoring
import Descent.Proofs.Parser.Repetition
import Descent.Proofs.RuleSet.Completeness
import Descent.Proofs.RuleSet.DefinitionOrder
import Descent.Proofs.RuleSet.Tracing
import Descent.Proofs.Text.Excerpt
import Descent.Proofs.Walk.FirstOffender
import Descent.Sample.Tour
import Descent.Walk.Survey
