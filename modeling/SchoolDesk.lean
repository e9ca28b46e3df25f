import SchoolDesk.Desk.Basic
import SchoolDesk.Expression.Grammar
import SchoolDesk.Expression.Guarded
import SchoolDesk.Expression.Program
import SchoolDesk.Expression.Recorded
import SchoolDesk.Json.Object
import SchoolDesk.Json.Spelling
import SchoolDesk.Json.Writer
import SchoolDesk.Main
import SchoolDesk.Proofs.Address.Reading
import SchoolDesk.Proofs.Desk.Calculation
import SchoolDesk.Proofs.Desk.Effects
import SchoolDesk.Proofs.Desk.Exchange
import SchoolDesk.Proofs.Desk.Failure
import SchoolDesk.Proofs.Desk.Gate
import SchoolDesk.Proofs.Desk.Purge
import SchoolDesk.Proofs.Desk.Signup
import SchoolDesk.Proofs.Desk.Tokens
import SchoolDesk.Proofs.Expression.Acceptance
import SchoolDesk.Proofs.Expression.Composition
import SchoolDesk.Proofs.Expression.Conservation
import SchoolDesk.Proofs.Expression.Derivation
import SchoolDesk.Proofs.Expression.Fault
import SchoolDesk.Proofs.Expression.Group
import SchoolDesk.Proofs.Expression.Operands
import SchoolDesk.Proofs.Expression.Stacks
import SchoolDesk.Proofs.Expression.Verdict
import SchoolDesk.Proofs.Json.Number
import SchoolDesk.Proofs.Json.Object
import SchoolDesk.Proofs.Json.Presentation
import SchoolDesk.Proofs.Json.Record
import SchoolDesk.Proofs.Json.Wire
import SchoolDesk.Proofs.Roster.Participants
import SchoolDesk.Proofs.Roster.Reordering
import SchoolDesk.Proofs.Session.History
import SchoolDesk.Proofs.Web.Route
import SchoolDesk.Roster.Catalog
import SchoolDesk.Roster.Entries
import SchoolDesk.Web.FrontPage
