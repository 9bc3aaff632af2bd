import SchemaQuery.Refusal

/-!
# Failures

Work fails in one of two ways.  A refusal is about the request: it is an answer
like any other.  A fault is about the program that uses this library, its
configuration, or a combination that the database can not express.
-/

namespace SchemaQuery

inductive Fault where
  | unknownDataType (name : String)
  | unknownDisplayType (name : String)
  | relationMisfit (misfit : LoadedAttribute.Misfit)
  | reservedSortKey (key : String)
  | pageSizeBounds
  | noComplaints
  | tokenIndirection (raw : String)
  | truthComparison
  | dateOutOfRange
  | textExpected
  | dateExpected (typeName : String)
  | operandMissing
  | unexpandedJunction
  | unknownColumn (name : String)
  | noExecutor
  | factoryFailed
deriving DecidableEq, Repr

def LoadedAttribute.Misfit.message : LoadedAttribute.Misfit → String
  | .twoRelations field => "attribute '" ++ field ++ "' cannot carry both lookup and junction"
  | .lookupElsewhere field dataType =>
      "attribute '" ++ field ++ "' has lookup but data type " ++ dataType.name
  | .junctionElsewhere field dataType =>
      "attribute '" ++ field ++ "' has junction but data type " ++ dataType.name

def Fault.message : Fault → String
  | .unknownDataType name => Text.quoted name ++ " is not a valid DataType"
  | .unknownDisplayType name => Text.quoted name ++ " is not a valid DisplayType"
  | .relationMisfit misfit => misfit.message
  | .reservedSortKey key =>
      "'" ++ key ++ "' is reserved for sorting and cannot be used as a filter field"
  | .pageSizeBounds =>
      "ENTITYQL_DEFAULT_PAGE_SIZE must not exceed ENTITYQL_MAX_PAGE_SIZE"
  | .noComplaints => "from_errors requires at least one error"
  | .tokenIndirection raw => "token indirection is not supported yet: " ++ raw
  | .truthComparison =>
      "Only '=', '!=', 'is_()', 'is_not()', 'is_distinct_from()', " ++
        "'is_not_distinct_from()' operators can be used with None/True/False"
  | .dateOutOfRange => "date value out of range"
  | .textExpected => "String value expected when autoescape=True"
  | .dateExpected typeName => "'" ++ typeName ++ "' object has no attribute 'year'"
  | .operandMissing => "tuple index out of range"
  | .unexpandedJunction => "'NoneType' object has no attribute 'table_name'"
  | .unknownColumn name => Text.quoted name
  | .noExecutor => "EntityQueryService.list requires a query executor"
  | .factoryFailed => "factory failed"

inductive Failure where
  | refused (refusal : Refusal)
  | faulted (fault : Fault)

end SchemaQuery
