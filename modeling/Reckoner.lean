import Reckoner.Main
import Reckoner.Workspace
import Reckoner.Proofs.Grammar
import Reckoner.Proofs.Nesting
import Reckoner.Proofs.Reading
import Reckoner.Proofs.TreeSemantics
import Reckoner.Proofs.Stopping
import Reckoner.Proofs.CorrectPrefix
import Reckoner.Proofs.Characters
import Reckoner.Proofs.MaximalMunch
import Reckoner.Proofs.Formula
import Reckoner.Proofs.Printing
import Reckoner.Proofs.ScanFaults
import Reckoner.Proofs.Offences
import Reckoner.Proofs.Atoms
import Reckoner.Proofs.Refusals
import Reckoner.Proofs.Pointing
import Reckoner.Proofs.Descent
import Reckoner.Proofs.DescentReading
import Reckoner.Proofs.Lockstep
import Reckoner.Proofs.Transitions
import Reckoner.Proofs.CallOrder
import Reckoner.Proofs.Accounts
import Reckoner.Proofs.Operations
import Reckoner.Proofs.NestingLimit
import Reckoner.Proofs.OpenProcedures
import Reckoner.Proofs.Rebinding
import Reckoner.Proofs.Spelling
import Reckoner.Proofs.Substitution
import Reckoner.Proofs.Interchange
import Reckoner.Proofs.Registrations
import Reckoner.Proofs.Classification
import Reckoner.Proofs.CompletedCalls
import Reckoner.Proofs.Lookahead
import Reckoner.Proofs.Invocations
import Reckoner.Proofs.Repositioning
import Reckoner.Proofs.Terminators
import Reckoner.Proofs.Domains
import Reckoner.Proofs.Consultations
import Reckoner.Proofs.InputLines
import Reckoner.Proofs.Runs
import Reckoner.Proofs.Sessions
import Reckoner.Proofs.Modes
import Reckoner.Proofs.NameExpressions
import Reckoner.Proofs.Interviews
import Reckoner.Proofs.Turns
import Reckoner.Proofs.LineBreaks
import Reckoner.Proofs.UnknownVariables
import Reckoner.Proofs.LowerCase
import Reckoner.Proofs.ListedNames
import Reckoner.Proofs.PowerNotation
import Reckoner.Proofs.NumberGrammar
import Reckoner.Proofs.Assignments
import Reckoner.Proofs.FloatBits
import Reckoner.Proofs.DecimalRoundTrip
import Reckoner.Proofs.PrintedResults
import Reckoner.Proofs.Activations
import Reckoner.Proofs.BarePoints
