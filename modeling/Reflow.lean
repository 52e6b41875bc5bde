import Reflow.Rewrite.RuleList
import Reflow.Command.Run
import Reflow.Main
import Reflow.Proofs.Command.Delivery
import Reflow.Proofs.Command.Failure
import Reflow.Proofs.Json.Clashes
import Reflow.Proofs.Json.Integers
import Reflow.Proofs.Json.LaidOut
import Reflow.Proofs.Json.Locating
import Reflow.Proofs.Json.Naming
import Reflow.Proofs.Json.Nesting
import Reflow.Proofs.Json.Shrinking
import Reflow.Proofs.Json.Stages
import Reflow.Proofs.Layout.Anchor
import Reflow.Proofs.Layout.Configuring
import Reflow.Proofs.Layout.Contract
import Reflow.Proofs.Layout.Recognition
import Reflow.Proofs.Layout.Stability
import Reflow.Proofs.Layout.Undoing
import Reflow.Proofs.Rewrite.Document
import Reflow.Proofs.Rewrite.Parenthesis
import Reflow.Proofs.Text.Counting
import Reflow.Proofs.Text.Quote
import Reflow.Proofs.Token.Fallback
