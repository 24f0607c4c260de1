import Milp.Action
import Milp.Arithmetic
import Milp.Code
import Milp.Constraint
import Milp.Construction
import Milp.Domain
import Milp.Double.Basic
import Milp.Double.Decimal
import Milp.Double.Fixed
import Milp.Double.Text
import Milp.Engine.Add
import Milp.Engine.Attribute
import Milp.Engine.Basic
import Milp.Engine.Checks
import Milp.Engine.Native
import Milp.Engine.Solve
import Milp.Environment
import Milp.Failure
import Milp.Fault
import Milp.Files
import Milp.Handler
import Milp.Keyword
import Milp.LinearExpr
import Milp.Lp.Line
import Milp.Lp.Listing
import Milp.Lp.Name
import Milp.Lp.Printer
import Milp.Model.Basic
import Milp.Model.Creation
import Milp.Model.Operation
import Milp.Model.Query
import Milp.Model.Update
import Milp.Number
import Milp.Proofs.Action
import Milp.Proofs.Agreement
import Milp.Proofs.Canonical
import Milp.Proofs.Comparison
import Milp.Proofs.Domain
import Milp.Proofs.Domain.Binary
import Milp.Proofs.Domain.Order
import Milp.Proofs.Double.Alike
import Milp.Proofs.Double.Decimal
import Milp.Proofs.Double.Rounding
import Milp.Proofs.Double.Text
import Milp.Proofs.Engine.Accepted
import Milp.Proofs.Engine.Addition
import Milp.Proofs.Engine.Arguments
import Milp.Proofs.Engine.Attribute
import Milp.Proofs.Engine.Batch
import Milp.Proofs.Engine.Deletion
import Milp.Proofs.Engine.Frame
import Milp.Proofs.Engine.Matching
import Milp.Proofs.Engine.Memory
import Milp.Proofs.Engine.Mute
import Milp.Proofs.Engine.NearestToZero
import Milp.Proofs.Engine.Orders
import Milp.Proofs.Engine.Parallel
import Milp.Proofs.Engine.Partition
import Milp.Proofs.Engine.Replay
import Milp.Proofs.Engine.Scratch
import Milp.Proofs.Engine.Solution
import Milp.Proofs.Engine.Testable
import Milp.Proofs.Engine.Unheard
import Milp.Proofs.Environment
import Milp.Proofs.Except
import Milp.Proofs.Handler
import Milp.Proofs.LinearExpr.Assignment
import Milp.Proofs.LinearExpr.Coefficient
import Milp.Proofs.LinearExpr.Sum
import Milp.Proofs.LinearExpr.Tree
import Milp.Proofs.Lp.Bounds
import Milp.Proofs.Lp.Coefficient
import Milp.Proofs.Lp.Expression
import Milp.Proofs.Lp.Mention
import Milp.Proofs.Lp.Name
import Milp.Proofs.Lp.Sections
import Milp.Proofs.Model.Bounds
import Milp.Proofs.Model.Call
import Milp.Proofs.Model.Change
import Milp.Proofs.Model.Check
import Milp.Proofs.Model.Creation
import Milp.Proofs.Model.Encoding
import Milp.Proofs.Model.Ended
import Milp.Proofs.Model.Freshness
import Milp.Proofs.Model.History
import Milp.Proofs.Model.Iis
import Milp.Proofs.Model.Image
import Milp.Proofs.Model.Levels
import Milp.Proofs.Model.Mirror
import Milp.Proofs.Model.NearestToZero
import Milp.Proofs.Model.Order
import Milp.Proofs.Model.Outcome
import Milp.Proofs.Model.Release
import Milp.Proofs.Model.Retry
import Milp.Proofs.Model.Store
import Milp.Proofs.Model.TwoRuns
import Milp.Proofs.Model.Update
import Milp.Proofs.Native.Addition
import Milp.Proofs.Native.Problem
import Milp.Proofs.Native.Replay
import Milp.Proofs.Native.Sent
import Milp.Proofs.Native.Test
import Milp.Proofs.Native.Trace
import Milp.Proofs.Nearest
import Milp.Proofs.Settings.Configuration
import Milp.Proofs.Settings.Continuation
import Milp.Proofs.Settings.Line
import Milp.Proofs.Settings.Plain
import Milp.Proofs.Settings.Precedence
import Milp.Proofs.Settings.Script.Line
import Milp.Proofs.Settings.Script.Numeral
import Milp.Proofs.Settings.Script.Statement
import Milp.Proofs.Settings.Script.Token
import Milp.Proofs.Settings.Separator
import Milp.Proofs.Settings.Way
import Milp.Proofs.Solver
import Milp.Proofs.Table
import Milp.Proofs.Text.Trim
import Milp.Proofs.Text.Words
import Milp.Proofs.Variable
import Milp.Session.Arguments
import Milp.Session.Basic
import Milp.Session.Call
import Milp.Session.Call.Basic
import Milp.Session.Call.Engine
import Milp.Session.Call.Entity
import Milp.Session.Call.Handler
import Milp.Session.Call.Model
import Milp.Session.Call.Settings
import Milp.Session.Copy
import Milp.Session.Inspect
import Milp.Session.Reach
import Milp.Session.Step
import Milp.Settings.Basic
import Milp.Settings.File
import Milp.Settings.Read
import Milp.Settings.Script.Literal
import Milp.Settings.Script.Run
import Milp.Settings.Script.Statement
import Milp.Settings.Script.Token
import Milp.Solver
import Milp.Surroundings
import Milp.Table
import Milp.Template
import Milp.Template.Figure
import Milp.Template.Layout
import Milp.Text.Blank
import Milp.Text.Case
import Milp.Text.CharacterName
import Milp.Text.CharacterName.Alias
import Milp.Text.CharacterName.Part1
import Milp.Text.CharacterName.Part2
import Milp.Text.CharacterName.Part3
import Milp.Text.CharacterName.Part4
import Milp.Text.CharacterName.Part5
import Milp.Text.CharacterName.Part6
import Milp.Text.CharacterName.Part7
import Milp.Text.CharacterName.Part8
import Milp.Text.Compatibility
import Milp.Text.CompatibilityTable
import Milp.Text.Digit
import Milp.Text.Identifier
import Milp.Text.Printable
import Milp.Text.Quoted
import Milp.Value.Basic
import Milp.Value.Grid
import Milp.Value.GridText
import Milp.Value.Hash
import Milp.Value.Member
import Milp.Value.Text
import Milp.Variable
import Milp.Proofs.Engine.InjectedFailure
