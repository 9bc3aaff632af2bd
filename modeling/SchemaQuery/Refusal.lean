import SchemaQuery.Cast
import SchemaQuery.Codec.Base64
import SchemaQuery.Codec.Json
import SchemaQuery.Codec.Utf8
import SchemaQuery.Schema.Entity

/-!
# Refusals

A request that can not be answered is refused.  A refusal is the cause, not its
wording: what was missing, unknown or malformed, with the names that occurred.
Refusals that were met on the way to a filter, a sort or a cursor are causes of
the refusal of that part.  Each refusal is of one of four kinds and has a
message.
-/

namespace SchemaQuery

inductive RefusalKind where
  | notFound
  | invalidPath
  | invalidValue
  | decodeError
deriving DecidableEq, Repr, Inhabited

inductive TokenFault where
  | base64 (fault : Codec.Base64.Fault)
  | utf8 (bytes : List UInt8) (fault : Codec.Utf8.Fault)
  | json (fault : Codec.Json.Fault)

inductive Refusal where
  -- Entities and their relationships
  | entityNameMissing
  | entityUnknown (name : String)
  | lookupTargetMissing (field : String)
  | lookupTargetUnknown (target field : String)
  | junctionTargetMissing (entity field : String)
  | junctionTargetUnknown (target : String) (cause : Refusal)
  -- Definitions to be saved
  | defective (defect : Entity.Defect)
  | targetMissing (dataType : DataType) (field : String)
  | targetUnknown (target : String)
  -- Paths
  | blankSegment (path : String)
  | attributeUnknown (field entity : String)
  | notCompound (path field : String)
  -- Values
  | dataTypeUnknown (name : String)
  | casterMissing (dataType : DataType)
  | notCastable (raw : Value) (dataType : DataType) (fault : CastFault)
  | attributeValue (field : String) (cause : Refusal)
  -- Filters
  | filterOperator (operator path : String)
  | filterPath (path entity : String) (cause : Refusal)
  | constraintsMissing (path : String)
  | matchUnknown (operator path : String)
  | matchUnfit (operator path : String) (dataType : DataType)
  | valueMissing (path : String)
  | querystringKeyUnknown (key : String)
  | querystringKeyEmpty (key : String)
  | valueCount (operator path : String) (expected given : Nat)
  -- Sorts
  | sortOrder (order path : String)
  | sortPath (path : String) (cause : Refusal)
  -- Cursors
  | rowValueMissing (path : String)
  | rowValueUnwritable (cause : Codec.Json.Unwritable)
  | sortsMissing
  | rowsMissing
  | tokenUnreadable (fault : TokenFault)
  | tokenShape
  | tokenPath (path : String) (cause : Refusal)
  | tokenValue (cause : Refusal)
  | edgeValueMissing (path : String)
  | cursorWithoutSort
  -- Pages
  | negativeOffset
deriving Inhabited

namespace Refusal

/-- The kind of a refusal; filters and sorts take that of their path. -/
def kind : Refusal → RefusalKind
  | entityNameMissing => .notFound
  | entityUnknown _ => .notFound
  | lookupTargetMissing _ => .notFound
  | lookupTargetUnknown _ _ => .notFound
  | junctionTargetMissing _ _ => .notFound
  | junctionTargetUnknown _ _ => .notFound
  | defective _ => .invalidValue
  | targetMissing _ _ => .notFound
  | targetUnknown _ => .notFound
  | blankSegment _ => .invalidPath
  | attributeUnknown _ _ => .notFound
  | notCompound _ _ => .invalidPath
  | dataTypeUnknown _ => .invalidValue
  | casterMissing _ => .invalidValue
  | notCastable _ _ _ => .invalidValue
  | attributeValue _ _ => .invalidValue
  | filterOperator _ _ => .invalidValue
  | filterPath _ _ cause => cause.kind
  | constraintsMissing _ => .invalidValue
  | matchUnknown _ _ => .invalidValue
  | matchUnfit _ _ _ => .invalidValue
  | valueMissing _ => .invalidValue
  | querystringKeyUnknown _ => .invalidValue
  | querystringKeyEmpty _ => .invalidValue
  | valueCount _ _ _ _ => .invalidValue
  | sortOrder _ _ => .invalidValue
  | sortPath _ cause => cause.kind
  | rowValueMissing _ => .decodeError
  | rowValueUnwritable _ => .decodeError
  | sortsMissing => .invalidValue
  | rowsMissing => .invalidValue
  | tokenUnreadable _ => .decodeError
  | tokenShape => .decodeError
  | tokenPath _ _ => .decodeError
  | tokenValue _ => .decodeError
  | edgeValueMissing _ => .decodeError
  | cursorWithoutSort => .invalidValue
  | negativeOffset => .invalidValue

end Refusal

namespace Codec

def Base64.Fault.message : Base64.Fault → String
  | .notAscii => "string argument should contain only ASCII characters"
  | .leadingPadding => "Leading padding not allowed"
  | .excessData => "Excess data after padding"
  | .foreignCharacter => "Only base64 data is allowed"
  | .interruptedPadding => "Discontinuous padding not allowed"
  | .loneCharacter dataCharacters =>
      "Invalid base64-encoded string: number of data characters (" ++
        Number.writeNatural dataCharacters ++ ") cannot be 1 more than a multiple of 4"
  | .missingPadding => "Incorrect padding"

def Utf8.Reason.message : Utf8.Reason → String
  | .startByte => "invalid start byte"
  | .continuationByte => "invalid continuation byte"
  | .endOfData => "unexpected end of data"

/-- A fault of UTF-8 bytes in words; a single byte is shown. -/
def Utf8.Fault.message (bytes : List UInt8) (fault : Utf8.Fault) : String :=
  let position := Number.writeNatural fault.position
  let bytesAt :=
    if fault.length = 1 then
      let shown := String.ofList (Text.hexadecimal 2 (bytes.getD fault.position 0).toNat)
      "byte 0x" ++ shown ++ " in position " ++ position
    else
      "bytes in position " ++ position ++ "-" ++
        Number.writeNatural (fault.position + fault.length - 1)
  "'utf-8' codec can't decode " ++ bytesAt ++ ": " ++ fault.reason.message

def Json.Problem.message : Json.Problem → String
  | .noValue => "Expecting value"
  | .noName => "Expecting property name enclosed in double quotes"
  | .noColon => "Expecting ':' delimiter"
  | .noComma => "Expecting ',' delimiter"
  | .extraData => "Extra data"
  | .openText => "Unterminated string starting at"
  | .controlCharacter => "Invalid control character at"
  | .unknownEscape => "Invalid \\escape"
  | .brokenEscape => "Invalid \\uXXXX escape"
  | .byteOrderMark => "Unexpected UTF-8 BOM (decode using utf-8-sig)"

def Json.Fault.message : Json.Fault → String
  | .malformed problem place =>
      problem.message ++ ": line " ++ Number.writeNatural place.line ++ " column " ++
        Number.writeNatural place.column ++ " (char " ++ Number.writeNatural place.offset ++ ")"
  | .tooManyDigits count => CastFault.digitLimitMessage count

def Json.Unwritable.message : Json.Unwritable → String
  | .bytes => "value of type bytes is not cursor-serializable"
  | .tooManyDigits =>
      "Exceeds the limit (4300 digits) for integer string conversion; " ++
        "use sys.set_int_max_str_digits() to increase the limit"

end Codec

def TokenFault.message : TokenFault → String
  | .base64 fault => fault.message
  | .utf8 bytes fault => fault.message bytes
  | .json fault => fault.message

def Entity.Defect.message : Entity.Defect → String
  | .declaredTwice field entity => "attribute `" ++ field ++ "` is declared twice in " ++ entity
  | .unknownTitle field => "`" ++ field ++ "` was not in attributes list"
  | .unknownKey field => "primary key `" ++ field ++ "` was not in attributes list"

namespace Refusal

def message : Refusal → String
  | entityNameMissing => "entity name was not set"
  | entityUnknown name => "can not find entity " ++ name
  | lookupTargetMissing field => "Lookup option was not set for attribute `" ++ field ++ "`"
  | lookupTargetUnknown target field =>
      "not find entity by name " ++ target ++ " for lookup " ++ field
  | junctionTargetMissing entity field =>
      "Junction option was not set for attribute `" ++ entity ++ "." ++ field ++ "`"
  | junctionTargetUnknown target cause =>
      "not find entity by name " ++ target ++ ", err = " ++ cause.message
  | defective defect => defect.message
  | targetMissing dataType field =>
      dataType.name ++ " option was not set for attribute `" ++ field ++ "`"
  | targetUnknown target => "not find entity by name " ++ target
  | blankSegment path => "invalid field path `" ++ path ++ "`"
  | attributeUnknown field entity => "can not find " ++ field ++ " in " ++ entity
  | notCompound path field =>
      "can not resolve " ++ path ++ ", " ++ field ++ " is not a composite type"
  | dataTypeUnknown name => "no caster registered for data type " ++ name
  | casterMissing dataType => "no caster registered for data type " ++ dataType.label
  | notCastable raw dataType fault =>
      "can not cast " ++ raw.literal ++ " to " ++ dataType.name ++ ": " ++ fault.message
  | attributeValue field cause => "invalid value for `" ++ field ++ "`: " ++ cause.message
  | filterOperator operator path =>
      "invalid filter operator `" ++ operator ++ "` for " ++ path
  | filterPath path entity cause =>
      "Fail to resolve filter: no field " ++ path ++ " in " ++ entity ++ ": " ++ cause.message
  | constraintsMissing path => "no constraint given for filter on " ++ path
  | matchUnknown operator path => "Unknown match operator `" ++ operator ++ "` for " ++ path
  | matchUnfit operator path dataType =>
      "`" ++ operator ++ "` can not be applied to " ++ path ++ " of type " ++ dataType.name
  | valueMissing path => "Fail to resolve filter, value not set for field " ++ path
  | querystringKeyUnknown key => "Fail to resolve filter: no key " ++ key ++ " in query string"
  | querystringKeyEmpty key =>
      "Fail to resolve filter: key " ++ key ++ " has no value in query string"
  | valueCount operator path expected given =>
      "`" ++ operator ++ "` on " ++ path ++ " expects " ++ Number.writeNatural expected ++
        " values, got " ++ Number.writeNatural given
  | sortOrder order path =>
      "Invalid sort order '" ++ order ++ "' for " ++ path ++ ". Use asc or desc"
  | sortPath path cause => "Fail to resolve sort " ++ path ++ ": " ++ cause.message
  | rowValueMissing path => "row has no value for sort field `" ++ path ++ "`"
  | rowValueUnwritable cause => "can not encode cursor: " ++ cause.message
  | sortsMissing => "Can not generate next cursor, sort was not set"
  | rowsMissing => "No result, can not generate cursor"
  | tokenUnreadable fault => "invalid cursor: " ++ fault.message
  | tokenShape => "invalid cursor: expected a non-empty JSON object"
  | tokenPath path cause => "invalid cursor field `" ++ path ++ "`: " ++ cause.message
  | tokenValue cause => "invalid cursor value: " ++ cause.message
  | edgeValueMissing path => "cursor has no value for `" ++ path ++ "`"
  | cursorWithoutSort => "a cursor requires at least one sort field"
  | negativeOffset => "offset must be non-negative"

end Refusal

end SchemaQuery
