import SqlTemplate.Text.Ascii
import SqlTemplate.Text.Blank

/-!
# Column types and parameter modes

The database type of a column a parameter is bound to, and whether the parameter carries a value
in, out or both ways. Both are written by name, in any letter case, with blanks around it.
-/

namespace SqlTemplate

inductive ColumnType where
  | array
  | bit
  | tinyInt
  | smallInt
  | integer
  | bigInt
  | float
  | real
  | double
  | numeric
  | decimal
  | char
  | varchar
  | longVarchar
  | date
  | time
  | timestamp
  | binary
  | varBinary
  | longVarBinary
  | null
  | other
  | blob
  | clob
  | boolean
  | cursor
  | undefined
  | nVarchar
  | nChar
  | nClob
  | struct
  | javaObject
  | distinct
  | ref
  | dataLink
  | rowId
  | longNVarchar
  | sqlXml
  | dateTimeOffset
  | timeWithTimezone
  | timestampWithTimezone
deriving DecidableEq, Repr

namespace ColumnType

def name : ColumnType → String
  | array => "ARRAY"
  | bit => "BIT"
  | tinyInt => "TINYINT"
  | smallInt => "SMALLINT"
  | integer => "INTEGER"
  | bigInt => "BIGINT"
  | float => "FLOAT"
  | real => "REAL"
  | double => "DOUBLE"
  | numeric => "NUMERIC"
  | decimal => "DECIMAL"
  | char => "CHAR"
  | varchar => "VARCHAR"
  | longVarchar => "LONGVARCHAR"
  | date => "DATE"
  | time => "TIME"
  | timestamp => "TIMESTAMP"
  | binary => "BINARY"
  | varBinary => "VARBINARY"
  | longVarBinary => "LONGVARBINARY"
  | null => "NULL"
  | other => "OTHER"
  | blob => "BLOB"
  | clob => "CLOB"
  | boolean => "BOOLEAN"
  | cursor => "CURSOR"
  | undefined => "UNDEFINED"
  | nVarchar => "NVARCHAR"
  | nChar => "NCHAR"
  | nClob => "NCLOB"
  | struct => "STRUCT"
  | javaObject => "JAVA_OBJECT"
  | distinct => "DISTINCT"
  | ref => "REF"
  | dataLink => "DATALINK"
  | rowId => "ROWID"
  | longNVarchar => "LONGNVARCHAR"
  | sqlXml => "SQLXML"
  | dateTimeOffset => "DATETIMEOFFSET"
  | timeWithTimezone => "TIME_WITH_TIMEZONE"
  | timestampWithTimezone => "TIMESTAMP_WITH_TIMEZONE"

def all : List ColumnType :=
  [.array, .bit, .tinyInt, .smallInt, .integer, .bigInt, .float, .real, .double, .numeric,
   .decimal, .char, .varchar, .longVarchar, .date, .time, .timestamp, .binary, .varBinary,
   .longVarBinary, .null, .other, .blob, .clob, .boolean, .cursor, .undefined, .nVarchar,
   .nChar, .nClob, .struct, .javaObject, .distinct, .ref, .dataLink, .rowId, .longNVarchar,
   .sqlXml, .dateTimeOffset, .timeWithTimezone, .timestampWithTimezone]

/-- The column type of exactly this canonical name. -/
def ofName? (name : String) : Option ColumnType :=
  all.find? fun t => t.name == name

def read? (text : String) : Option ColumnType :=
  all.find? fun t => Text.sameIgnoringCase t.name (Text.trim text)

end ColumnType

inductive Mode where
  | input
  | output
  | both
deriving DecidableEq, Repr

namespace Mode

def name : Mode → String
  | input => "IN"
  | output => "OUT"
  | both => "INOUT"

/-- Reads a mode; what is no mode is given back in the form in which it was compared. -/
def read (text : String) : Except String Mode :=
  match Text.upper (Text.trim text) with
  | "IN" => .ok input
  | "OUT" => .ok output
  | "INOUT" => .ok both
  | other => .error other

end Mode

end SqlTemplate
