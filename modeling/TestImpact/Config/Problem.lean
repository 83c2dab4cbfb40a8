/-!
# What can be wrong with given values

A record is checked field by field. Every field that does not fit gives a `Detail`:
the way to the value inside the record, and the `Problem` with it.
-/

namespace TestImpact

/-- Why a value does not fit. -/
inductive Problem where
  | missing
  | boolParsing
  | boolType
  | intParsing
  | intParsingSize
  | intType
  | intFromFloat
  | finiteNumber
  | greaterThanEqual
  | greaterThan
  | floatParsing
  | floatType
  | stringType
  | pathType
  | literalError
  | choice
  | listType
  | tupleType
  | tableType
  | recordType
  | rule (text : String)
  deriving DecidableEq, Repr

/-- The word a problem is reported under. -/
def Problem.code : Problem → String
  | .missing => "missing"
  | .boolParsing => "bool_parsing"
  | .boolType => "bool_type"
  | .intParsing => "int_parsing"
  | .intParsingSize => "int_parsing_size"
  | .intType => "int_type"
  | .intFromFloat => "int_from_float"
  | .finiteNumber => "finite_number"
  | .greaterThanEqual => "greater_than_equal"
  | .greaterThan => "greater_than"
  | .floatParsing => "float_parsing"
  | .floatType => "float_type"
  | .stringType => "string_type"
  | .pathType => "path_type"
  | .literalError => "literal_error"
  | .choice => "enum"
  | .listType => "list_type"
  | .tupleType => "tuple_type"
  | .tableType => "dict_type"
  | .recordType => "model_type"
  | .rule _ => "value_error"

/-- The text of a problem that is stated in words. -/
def Problem.explanation? : Problem → Option String
  | .rule text => some ("Value error, " ++ text)
  | _ => none

/-- A problem and the way to the value that has it. -/
structure Detail where
  location : List String
  problem : Problem
  deriving DecidableEq, Repr

/-- A detail in words. -/
def Detail.text (detail : Detail) : String :=
  ".".intercalate detail.location ++ ": " ++ detail.problem.explanation?.getD detail.problem.code

end TestImpact
