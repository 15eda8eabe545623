import TypedSql.Text.Literal

/-!
# Errors

Everything that can go wrong while a schema is replayed or a query is analysed. Each error has a
stable code, a message, and, where the database reports the same failure, its SQLSTATE.
-/

namespace TypedSql

inductive SyntaxFault where
  | malformed
  | statementCount (found : Nat)
  | improperName (name : String)
  | deleteWithoutTable
  deriving Repr, DecidableEq

inductive HeaderFault where
  | malformed (line : Text)
  | missingCommand (line : Text)
  | wordCount (line : Text)
  | unknownCommand (command : Text)
  | badName (name : Text)
  deriving Repr, DecidableEq

inductive CallFault where
  | argumentCount (function : String) (found : Nat)
  | notAName (function : String)
  | embedPosition
  | embedNotTable
  | sliceNotAlone (subject : String) (name : String)
  deriving Repr, DecidableEq

inductive EditFault where
  | overlap (first second : Nat)
  | mismatch (expected : Text) (location : Nat) (found : Text)
  | outside (expected : Text) (location : Nat)
  deriving Repr, DecidableEq

/-- Failures that show that a statement and the sites of its text do not fit together. -/
inductive Inconsistency where
  | namedWithoutSite (name : String)
  | starWithoutSite (text : Text)
  deriving Repr, DecidableEq

inductive Error where
  | syntaxError (fault : SyntaxFault)
  | invalidHeader (fault : HeaderFault)
  | schemaNotFound (schema : String)
  | schemaAlreadyExists (schema : String)
  | relationNotFound (relation : String)
  | relationAlreadyExists (relation : String)
  | columnNotFound (relation column : String)
  | undefinedColumn (column : String)
  | columnAlreadyExists (relation column : String)
  | typeNotFound (type : String)
  | typeAlreadyExists (type : String)
  | functionNotFound (function : String)
  | functionAlreadyExists (function : String)
  | columnAmbiguous (column : String)
  | parameterTypeUnknown (number : Nat)
  | mixedParameterStyle
  | insertColumnCountMismatch
  | invalidFunctionCall (fault : CallFault)
  | unsupportedStatementKind (kind : String)
  | unsupported (what : String)
  | invalidEdit (fault : EditFault)
  | internal (fault : Inconsistency)
  deriving Repr, DecidableEq

def SyntaxFault.message? : SyntaxFault → Option String
  | .malformed => none
  | .statementCount n => some s!"Expected 1 statement, got {n}"
  | .improperName name => some s!"improper qualified name: {name}"
  | .deleteWithoutTable => some "DELETE without a target table"

def HeaderFault.message : HeaderFault → String
  | .malformed line => line.toString
  | .missingCommand line => "missing query type: " ++ line.toString
  | .wordCount line => "invalid query comment: " ++ line.toString
  | .unknownCommand command => "invalid query type: " ++ command.toString
  | .badName name => "invalid query name: " ++ name.literal.toString

def CallFault.message : CallFault → String
  | .argumentCount f n => s!"expected 1 parameter to sqlc.{f}; got {n}"
  | .notAName f => s!"expected parameter to sqlc.{f} to be string or reference"
  | .embedPosition => "sqlc.embed can only be used as a select list item"
  | .embedNotTable => "expected parameter to sqlc.embed to be a table name"
  | .sliceNotAlone subject name =>
    s!"expected '{subject} IN' expr to consist only of sqlc.slice({name})"

def EditFault.message : EditFault → String
  | .overlap a b => s!"edits at {a} and {b} overlap"
  | .mismatch old n found =>
    "expected " ++ old.literal.toString ++ s!" at {n}, found " ++ found.literal.toString
  | .outside old n => old.literal.toString ++ s!" at {n} is outside the statement"

def Inconsistency.message : Inconsistency → String
  | .namedWithoutSite name => s!"named parameter {name} has no location in the statement text"
  | .starWithoutSite text => "no source location for " ++ text.toString

namespace Error

def code : Error → String
  | .syntaxError _ => "syntax_error"
  | .invalidHeader _ => "invalid_query_metadata"
  | .schemaNotFound _ => "schema_does_not_exist"
  | .schemaAlreadyExists _ => "schema_already_exists"
  | .relationNotFound _ => "relation_does_not_exist"
  | .relationAlreadyExists _ => "relation_already_exists"
  | .columnNotFound _ _ => "column_does_not_exist"
  | .undefinedColumn _ => "column_does_not_exist"
  | .columnAlreadyExists _ _ => "column_already_exists"
  | .typeNotFound _ => "type_does_not_exist"
  | .typeAlreadyExists _ => "type_already_exists"
  | .functionNotFound _ => "function_does_not_exist"
  | .functionAlreadyExists _ => "function_already_exists"
  | .columnAmbiguous _ => "column_ambiguous"
  | .parameterTypeUnknown _ => "parameter_type_unknown"
  | .mixedParameterStyle => "mixed_parameter_style"
  | .insertColumnCountMismatch => "insert_column_count_mismatch"
  | .invalidFunctionCall _ => "invalid_function_call"
  | .unsupportedStatementKind _ => "unsupported_statement_kind"
  | .unsupported _ => "unsupported"
  | .invalidEdit _ => "invalid_edit"
  | .internal _ => "internal"

def message? : Error → Option String
  | .syntaxError fault => fault.message?.map ("syntax error: " ++ ·)
  | .invalidHeader fault => some ("invalid query metadata: " ++ fault.message)
  | .schemaNotFound s => some s!"schema \"{s}\" does not exist"
  | .schemaAlreadyExists s => some s!"schema \"{s}\" already exists"
  | .relationNotFound r => some s!"relation \"{r}\" does not exist"
  | .relationAlreadyExists r => some s!"relation \"{r}\" already exists"
  | .columnNotFound r c => some s!"column \"{c}\" of relation \"{r}\" does not exist"
  | .undefinedColumn c => some s!"column \"{c}\" does not exist"
  | .columnAlreadyExists r c => some s!"column \"{c}\" of relation \"{r}\" already exists"
  | .typeNotFound t => some s!"type \"{t}\" does not exist"
  | .typeAlreadyExists t => some s!"type \"{t}\" already exists"
  | .functionNotFound f => some s!"function {f} does not exist"
  | .functionAlreadyExists f => some s!"function \"{f}\" already exists with same argument types"
  | .columnAmbiguous c => some s!"column reference \"{c}\" is ambiguous"
  | .parameterTypeUnknown n => some s!"could not determine data type of parameter ${n}"
  | .mixedParameterStyle =>
    some "query mixes positional parameters ($1) and named parameters (sqlc.arg or @arg)"
  | .insertColumnCountMismatch => some "INSERT has more expressions than target columns"
  | .invalidFunctionCall fault => some ("invalid function call: " ++ fault.message)
  | .unsupportedStatementKind k => some s!"unsupported statement kind: {k}"
  | .unsupported what => some s!"unsupported: {what}"
  | .invalidEdit fault => some ("invalid edit: " ++ fault.message)
  | .internal fault => some ("internal error: " ++ fault.message)

def sqlstate? : Error → Option String
  | .syntaxError _ => some "42601"
  | .schemaNotFound _ => some "3F000"
  | .schemaAlreadyExists _ => some "42P06"
  | .relationNotFound _ => some "42P01"
  | .relationAlreadyExists _ => some "42P07"
  | .columnNotFound _ _ => some "42703"
  | .undefinedColumn _ => some "42703"
  | .columnAlreadyExists _ _ => some "42701"
  | .typeNotFound _ => some "42704"
  | .typeAlreadyExists _ => some "42710"
  | .functionNotFound _ => some "42883"
  | .functionAlreadyExists _ => some "42723"
  | .columnAmbiguous _ => some "42702"
  | .parameterTypeUnknown _ => some "42P18"
  | .mixedParameterStyle => some "42P10"
  | .insertColumnCountMismatch => some "42601"
  | _ => none

def isAlreadyExists : Error → Bool
  | .schemaAlreadyExists _ | .relationAlreadyExists _ | .columnAlreadyExists _ _
  | .typeAlreadyExists _ | .functionAlreadyExists _ => true
  | _ => false

def isNotFound : Error → Bool
  | .schemaNotFound _ | .relationNotFound _ | .columnNotFound _ _ | .undefinedColumn _
  | .typeNotFound _ | .functionNotFound _ => true
  | _ => false

end Error

end TypedSql
