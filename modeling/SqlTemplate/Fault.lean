import SqlTemplate.Column
import SqlTemplate.Kind

/-!
# Faults

Everything that can go wrong, by cause. `Fault.message` is the wording, `Fault.phase` says when in
the life of a statement a fault of its sort is raised.
-/

namespace SqlTemplate

inductive TemplateFault where
  | missingAttribute (name element : String)
  | invalidFlag (text name element : String)
  | unknownElement (name : String)
  | repeatedOtherwise
  | expressionParameter
  | invalidScale (text : String)
  | unknownOption (name content : String)
  | stated (message : String)
deriving DecidableEq, Repr

namespace TemplateFault

/-- The options a reference may have, as messages list them. -/
def optionNames : String :=
  "javaType,jdbcType,mode,numericScale,resultMap,typeHandler,jdbcTypeName"

def message : TemplateFault → String
  | missingAttribute name element =>
    "Missing required attribute '" ++ name ++ "' in <" ++ element ++ ">"
  | invalidFlag text name element =>
    "Invalid boolean value '" ++ text ++ "' for attribute '" ++ name ++ "' in <" ++ element ++
      ">"
  | unknownElement name => "Unknown element <" ++ name ++ "> in SQL statement."
  | repeatedOtherwise => "Too many default (otherwise) elements in choose statement."
  | expressionParameter => "Expression based parameters are not supported yet"
  | invalidScale text => "Invalid numericScale '" ++ text ++ "'"
  | unknownOption name content =>
    "An invalid property '" ++ name ++ "' was found in mapping #\x7b" ++ content ++
      "\x7d.  Valid properties are " ++ optionNames
  | stated message => message

end TemplateFault

/-- Why an expression has no value of the wanted sort. -/
inductive EvaluationFault where
  | notAnExpression
  | nullCollection (expression : String)
  | notIterable (value : String)
  | stated (message : String)
deriving DecidableEq, Repr

namespace EvaluationFault

def message : EvaluationFault → String
  | notAnExpression => "only literals and property paths are supported"
  | nullCollection expression =>
    "The expression '" ++ expression ++ "' evaluated to a null value."
  | notIterable value => "Return value (" ++ value ++ ") was not iterable."
  | stated message => message

end EvaluationFault

/-- Why the type of a parameter is not settled. -/
inductive TypeFault where
  | unknownColumnType (name : String)
  | unknownMode (name : String)
  | unknownAlias (name : String)
  | unknownHandler (handler : String) (kind : Kind)
  | missingResultMap (property : String)
  | missingHandler (property : String) (kind : Kind) (column : Option ColumnType)
  | stated (message : String)
deriving DecidableEq, Repr

namespace TypeFault

def message : TypeFault → String
  | unknownColumnType name =>
    "Error resolving JdbcType. Cause: no enum constant named '" ++ name ++ "'"
  | unknownMode name =>
    "Error resolving ParameterMode. Cause: no enum constant named '" ++ name ++ "'"
  | unknownAlias name => "Could not resolve type alias '" ++ name ++ "'"
  | unknownHandler handler kind =>
    "Could not resolve type handler '" ++ handler ++ "' for javaType (" ++ kind.name ++ ")"
  | missingResultMap property =>
    "Missing result map in property '" ++ property ++ "'.  Parameters of type ResultSet or " ++
      "jdbcType CURSOR require a result map."
  | missingHandler property kind column =>
    "Type handler was null on parameter mapping for property '" ++ property ++
      "'. It was either not specified and/or could not be found for the javaType (" ++ kind.name ++
      ") : jdbcType (" ++ (column.map ColumnType.name).getD "null" ++ ") combination."
  | stated message => message

end TypeFault

inductive SettingsFault where
  | unreadable
  | invalidPattern (pattern : String)
  | stated (message : String)
deriving DecidableEq, Repr

namespace SettingsFault

def message : SettingsFault → String
  | unreadable => "settings do not have the expected form"
  | invalidPattern pattern => "invalid injection filter '" ++ pattern ++ "'"
  | stated message => message

end SettingsFault

/-- A fault with the text it was found in. -/
inductive Fault where
  | template (cause : TemplateFault) (fragment : String)
  /-- A `#{…}` content that breaks the grammar at a byte offset. -/
  | reference (content : String) (position : Nat)
  | evaluation (expression : String) (cause : EvaluationFault)
  | typing (cause : TypeFault) (fragment : String)
  /-- A text that the filter keeps out of the statement. -/
  | rejected (value pattern : String)
  | settings (cause : SettingsFault)
deriving DecidableEq, Repr

/-- When a fault arises: while a statement is registered, while it is evaluated for one call, or
where its placeholders get their types, which is either. -/
inductive Phase where
  | registration
  | invocation
  | typeResolution
deriving DecidableEq, Repr

namespace Fault

def message : Fault → String
  | template cause fragment => cause.message ++ " (in `" ++ fragment ++ "`)"
  | reference content position =>
    "Parsing error in \x7b" ++ content ++ "\x7d in position " ++ toString position ++
      ". Check syntax #\x7bproperty|(expression), var1=value1, var2=value2, ...\x7d"
  | evaluation expression cause =>
    "error evaluating expression '" ++ expression ++ "': " ++ cause.message
  | typing cause fragment => cause.message ++ " (in mapping #\x7b" ++ fragment ++ "\x7d)"
  | rejected value pattern =>
    "Invalid input '" ++ value ++ "'. Please conform to regex " ++ pattern
  | settings cause => "invalid configuration: " ++ cause.message

def phase : Fault → Phase
  | template .. | reference .. | settings .. => .registration
  | evaluation .. | rejected .. => .invocation
  | typing .. => .typeResolution

/-- A type fault shown with the whole `#{…}` content it was found in. -/
def within (content : String) : Fault → Fault
  | typing cause _ => typing cause content
  | fault => fault

end Fault

end SqlTemplate
