import BoundSql.Dialect.Settings
import BoundSql.Draft.Step
import BoundSql.Render.Emission
import BoundSql.Render.Written
import BoundSql.Value.Wire
import BoundSql.Proofs.Ingredients
import BoundSql.Proofs.Assembly
import BoundSql.Proofs.Clauses
import BoundSql.Proofs.Emission
import BoundSql.Proofs.Rendering
import BoundSql.Proofs.Marks
import BoundSql.Proofs.Renumbering
import BoundSql.Proofs.Blanking
import BoundSql.Proofs.Injection
import BoundSql.Proofs.Verdict
import BoundSql.Proofs.Registrations
import BoundSql.Proofs.Chains
import BoundSql.Proofs.Connectives
import BoundSql.Proofs.Steps
import BoundSql.Proofs.Origin
import BoundSql.Proofs.Mistakes
import BoundSql.Proofs.Restarts
import BoundSql.Proofs.Entries
import BoundSql.Proofs.DeclaredNames
import BoundSql.Proofs.Lookups
import BoundSql.Proofs.Reordering
import BoundSql.Proofs.StepTexts
import BoundSql.Proofs.ClosedQuotes
import BoundSql.Proofs.OwnDialect
import BoundSql.Proofs.Places
import BoundSql.Proofs.Nesting
import BoundSql.Proofs.TableExpressions
import BoundSql.Proofs.StatementTables
import BoundSql.Proofs.Cutting
import BoundSql.Proofs.Parentheses
import BoundSql.Proofs.FunctionCalls
import BoundSql.Proofs.ClauseWords
import BoundSql.Proofs.Resolving
import BoundSql.Proofs.Outlines
import BoundSql.Proofs.UnionScope
import BoundSql.Proofs.Division
import BoundSql.Proofs.QualifiedNames
import BoundSql.Proofs.ColumnLists
import BoundSql.Proofs.Assignments
import BoundSql.Proofs.Memberships
import BoundSql.Proofs.MissingSources
import BoundSql.Proofs.SettledColumns
import BoundSql.Proofs.OperatorNames
import BoundSql.Proofs.WireNumbers
import BoundSql.Proofs.EventLog
import BoundSql.Proofs.Readings
import BoundSql.Proofs.Shortening
