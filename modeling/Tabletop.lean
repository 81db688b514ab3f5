import Tabletop.Fields
import Tabletop.Main
import Tabletop.Outcome.Stack
import Tabletop.Proofs.Caller.Names
import Tabletop.Proofs.Dice.Choice
import Tabletop.Proofs.Dice.Faces
import Tabletop.Proofs.Dice.Kept
import Tabletop.Proofs.Dice.Resolution
import Tabletop.Proofs.Dice.Trace
import Tabletop.Proofs.Formula.Beginning
import Tabletop.Proofs.Formula.Bounds
import Tabletop.Proofs.Formula.Canonical
import Tabletop.Proofs.Formula.Draws
import Tabletop.Proofs.Formula.Faults
import Tabletop.Proofs.Formula.Landing
import Tabletop.Proofs.Formula.Lookahead
import Tabletop.Proofs.Formula.Luck
import Tabletop.Proofs.Formula.Normal
import Tabletop.Proofs.Formula.Offence
import Tabletop.Proofs.Formula.Rendering
import Tabletop.Proofs.Formula.Respelling
import Tabletop.Proofs.Formula.Rolling
import Tabletop.Proofs.Formula.Spacing
import Tabletop.Proofs.Formula.Steps
import Tabletop.Proofs.Formula.Totals
import Tabletop.Proofs.History.Ledger
import Tabletop.Proofs.Limiter.Expiry
import Tabletop.Proofs.Limiter.Idle
import Tabletop.Proofs.Limiter.Log
import Tabletop.Proofs.Limiter.Queues
import Tabletop.Proofs.Limiter.Standing
import Tabletop.Proofs.Limiter.Unordered
import Tabletop.Proofs.Limiter.Waiting
import Tabletop.Proofs.Session.Admissions
import Tabletop.Proofs.Session.Alike
import Tabletop.Proofs.Session.Decoding
import Tabletop.Proofs.Session.Endings
import Tabletop.Proofs.Session.Run
import Tabletop.Proofs.Session.Successes
import Tabletop.Proofs.Session.Telling
import Tabletop.Proofs.Session.Totals
import Tabletop.Proofs.Session.Waiting
import Tabletop.Settings.File
