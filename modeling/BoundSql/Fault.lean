import BoundSql.Condition.Operator
import BoundSql.Statement.Kind

/-!
# Faults

Everything that can go wrong while a statement is configured, built or rendered.
A fault is its cause; `Fault.message` is the one place where causes are put into
words.
-/

set_option autoImplicit false

namespace BoundSql

/-- A setting that makes no sense. -/
inductive ConfigurationFault where
  /-- Names and strings would be quoted alike. -/
  | sameQuotes (quote : Char)
  /-- The separator could not be told from a quote. -/
  | separatorIsQuote (separator : Char)
  | unknownRole (name : Text)
  | unregisteredTable (table : Text)
  | unknownJoinKind (name : Text)
  /-- A fault in the words of the one who reports it. -/
  | stated (detail : Text)
  deriving DecidableEq, Repr

/-- Two tables that claim the same place. -/
inductive AliasConflict where
  /-- The table cannot be the origin, since `origin` is. -/
  | secondOrigin (table origin : Text)
  /-- Both tables would be known by one alias. -/
  | sharedAlias (aliasName existing table : Text)
  | repeatedTable (table : Text)
  deriving DecidableEq, Repr

/-- An operand or clause that is absent or out of place. -/
inductive OperandFault where
  | noDestination (operator : Operator)
  | noSource (operator : Operator)
  | existsWithoutQuery
  | existsWithSource
  | wrongBounds
  /-- A conjunction where a comparison was due. -/
  | unfinishedOperand (conjunction : Conjunction)
  /-- A comparison where an operand was due. -/
  | noPendingOperand (operator : Operator)
  /-- The condition ends in a conjunction. -/
  | danglingConjunction (conjunction : Conjunction)
  | noQualifier (table : Text)
  | emptyQualifier (table : Text)
  /-- A fault in the words of the one who reports it. -/
  | stated (detail : Text)
  deriving DecidableEq, Repr

/-- A clause that does not fit the statement at hand. -/
inductive StateFault where
  | wrongClause (clause : Clause) (kind : StatementKind)
  | clauseBeforeVerb (clause : Clause)
  | derivedNotSelect
  | noVerb
  | insertWithoutValues (target : Text)
  | updateWithoutValues (target : Text)
  /-- The names and bodies of the common table expressions do not pair up. -/
  | unpairedBodies (names bodies : Nat)
  | withoutInnerSelect
  /-- A fault in the words of the one who reports it. -/
  | stated (detail : Text)
  deriving DecidableEq, Repr

/-- The cause for which a statement cannot be configured, built or rendered. -/
inductive Fault where
  | configuration (cause : ConfigurationFault)
  | conflict (cause : AliasConflict)
  | unsupportedOperator (name : Text)
  | missingOperand (cause : OperandFault)
  | statementState (cause : StateFault)
  deriving DecidableEq, Repr

/-- What is wrong with a setting, in words. -/
def ConfigurationFault.detail : ConfigurationFault → Text
  | .sameQuotes quote => "field quote and value quote are both '" ++ quote :: "'"
  | .separatorIsQuote separator =>
    "field separator '" ++ separator :: "' collides with a quote character"
  | .unknownRole name => "invalid table role '" ++ name ++ "', expected 'origin' or 'join'"
  | .unregisteredTable table => "table '" ++ table ++ "' is not registered"
  | .unknownJoinKind name => "invalid join kind '" ++ name ++ "'"
  | .stated detail => detail

/-- How two tables conflict, in words. -/
def AliasConflict.detail : AliasConflict → Text
  | .secondOrigin table origin =>
    "table '" ++ table ++ "' cannot be an origin, '" ++ origin ++ "' already is"
  | .sharedAlias aliasName existing table =>
    "alias '" ++ aliasName ++ "' is used by both '" ++ existing ++ "' and '" ++ table ++ "'"
  | .repeatedTable table => "table '" ++ table ++ "' is already registered"

/-- Which operand is missing, in words. -/
def OperandFault.detail : OperandFault → Text
  | .noDestination operator => operator.name ++ " requires a destination operand"
  | .noSource operator => operator.name ++ " requires a source operand"
  | .existsWithoutQuery => "EXISTS requires a subquery"
  | .existsWithSource => "EXISTS takes only a subquery, the source operand would be dropped"
  | .wrongBounds => "BETWEEN requires exactly two bounds"
  | .unfinishedOperand conjunction =>
    conjunction.keyword ++ " follows an operand with no comparison"
  | .noPendingOperand operator => operator.name ++ " has no pending operand"
  | .danglingConjunction conjunction => "dangling " ++ conjunction.keyword ++ " with no comparison"
  | .noQualifier table => "join on '" ++ table ++ "' has no qualifier"
  | .emptyQualifier table => "join on '" ++ table ++ "' has an empty qualifier"
  | .stated detail => detail

/-- What does not fit the statement, in words. -/
def StateFault.detail : StateFault → Text
  | .wrongClause clause kind =>
    clause.keyword ++ " is not valid for a " ++ kind.name ++ " statement"
  | .clauseBeforeVerb clause => clause.keyword ++ " called before a statement verb"
  | .derivedNotSelect => "derived table must be a SELECT statement"
  | .noVerb => "nothing to render, no statement verb"
  | .insertWithoutValues target => "INSERT INTO " ++ target ++ " has no values"
  | .updateWithoutValues target => "UPDATE " ++ target ++ " has no SET values"
  | .unpairedBodies names bodies =>
    "WITH has " ++ Text.ofNat names ++ " names but " ++ Text.ofNat bodies ++ " bodies"
  | .withoutInnerSelect => "WITH is missing its inner SELECT"
  | .stated detail => detail

namespace Fault

/-- The message that a reader is shown. -/
def message : Fault → Text
  | .configuration cause => "Configuration error: " ++ cause.detail
  | .conflict cause => "Alias conflict: " ++ cause.detail
  | .unsupportedOperator name => "Unsupported operator: " ++ name
  | .missingOperand cause => "Missing operand: " ++ cause.detail
  | .statementState cause => "Statement state error: " ++ cause.detail

/-- Whether two tables are in conflict. -/
def isConflict : Fault → Bool
  | .conflict _ => true
  | _ => false

/-- Whether a setting is at fault. -/
def isConfiguration : Fault → Bool
  | .configuration _ => true
  | _ => false

/-- Whether an operand is missing or out of place. -/
def isMissingOperand : Fault → Bool
  | .missingOperand _ => true
  | _ => false

/-- Whether a clause does not fit its statement. -/
def isStatementState : Fault → Bool
  | .statementState _ => true
  | _ => false

end Fault

end BoundSql
