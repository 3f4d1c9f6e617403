import SmtScript.SExpr
import SmtScript.Session
import SmtScript.Solver.Executable
import SmtScript.Proofs.Wrapping
import SmtScript.Proofs.Script
import SmtScript.Proofs.Locality
import SmtScript.Proofs.Logic
import SmtScript.Proofs.Failure
import SmtScript.Proofs.Growth
import SmtScript.Proofs.Knots
import SmtScript.Proofs.Fluent
import SmtScript.Proofs.Files
import SmtScript.Proofs.Saving
import SmtScript.Proofs.Handover
import SmtScript.Proofs.Indentation
import SmtScript.Proofs.Delivery
import SmtScript.Proofs.Configuration
import SmtScript.Proofs.Watchdog
import SmtScript.Proofs.Application
import SmtScript.Proofs.Composition
import SmtScript.Proofs.Sealing
import SmtScript.Proofs.Swallowing
import SmtScript.Proofs.Containment
import SmtScript.Proofs.SingleLine
import SmtScript.Proofs.Unmarking
import SmtScript.Proofs.Decoding
import SmtScript.Proofs.Answers
import SmtScript.Proofs.Decimals
import SmtScript.Proofs.Messages
import SmtScript.Proofs.Quoting
import SmtScript.Proofs.Naming
import SmtScript.Proofs.OnHost
import SmtScript.Proofs.Floats
