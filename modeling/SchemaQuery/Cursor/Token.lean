import SchemaQuery.Cast.Registry
import SchemaQuery.Cursor

/-!
# Tokens

A token is the edge of a page in base64: a JSON object that gives the value of
the boundary row for the path of each sort.  Reading a token resolves its paths
and casts its values again, so that a forged token can do no more than an honest
one.
-/

namespace SchemaQuery

/-- A row of a table: values by the names of the selected columns. -/
abbrev Row := Dictionary Value

namespace Row

/-- The value behind field names, one nested record after another. -/
def valueBehind? (value : Value) : List String → Option Value
  | [] => some value
  | field :: rest =>
      match value with
      | .record entries => (Dictionary.get? entries field).bind (valueBehind? · rest)
      | _ => none

/-- The value of a row for a path: its column, or else in nested records. -/
def valueAt? (row : Row) (path : String) : Option Value :=
  match row.get? path with
  | some value => some value
  | none => valueBehind? (.record row) (pathSegments path)

def withValue (row : Row) (edge : Edge) (sort : ResolvedSort) : Except Refusal Edge :=
  match row.valueAt? sort.path with
  | some value => .ok (edge.insert sort.path value)
  | none => .error (.rowValueMissing sort.path)

def edge (row : Row) (sorts : List ResolvedSort) : Except Refusal Edge :=
  sorts.foldlM row.withValue []

end Row

namespace Token

def encode (characters : List Char) : String :=
  String.ofList (Codec.Base64.encode (Codec.Utf8.encode characters))

/-- The text of a token; blank space around it does not count. -/
def decode (token : String) : Except TokenFault (List Char) :=
  match Codec.Base64.decode (Text.trimCharacters token.toList) with
  | .error fault => .error (.base64 fault)
  | .ok bytes =>
      match Codec.Utf8.decode bytes with
      | .error fault => .error (.utf8 bytes fault)
      | .ok characters => .ok characters

def ofRow (row : Row) (sorts : List ResolvedSort) : Except Refusal String := do
  let edge ← row.edge sorts
  match Codec.Json.write (.record edge) with
  | .ok characters => return encode characters
  | .error cause => throw (.rowValueUnwritable cause)

def read (token : String) : Except TokenFault Value :=
  match decode token with
  | .error fault => .error fault
  | .ok characters =>
      match Codec.Json.read characters with
      | .ok value => .ok value
      | .error fault => .error (.json fault)

end Token

namespace Cursor

/-- The cursor that leads on from a page, with tokens for the sides on which there is more. -/
def next (cursor : Cursor) (rows : List Row) (sorts : List ResolvedSort) (hasMore : Bool) :
    Except Refusal Cursor := do
  if sorts.isEmpty then throw .sortsMissing
  match rows.head?, rows.getLast? with
  | some firstRow, some lastRow =>
      let (hasPrevious, hasNext) := cursor.pageFlags hasMore
      let first ← if hasPrevious then Token.ofRow firstRow sorts else pure ""
      let last ← if hasNext then Token.ofRow lastRow sorts else pure ""
      return { first := some first, last := some last }
  | _, _ => throw .rowsMissing

def resolveEntry (casters : Casters) (entity : LoadedEntity) (entry : String × Value) :
    CatalogM Refusal (String × Value) := do
  let target ← ExceptT.adapt (.tokenPath entry.1) (Catalog.resolvePath entity entry.1)
  if entry.2.isNull then return (entry.1, .null)
  match casters.castFor target.leaf.toAttribute entry.2 with
  | .ok value => return (entry.1, value)
  | .error cause => throw (.tokenValue cause)

def resolve (casters : Casters) (entity : LoadedEntity) (cursor : Cursor) :
    CatalogM Refusal ResolvedCursor := do
  if cursor.isEmpty then return { cursor }
  match Token.read cursor.token with
  | .error fault => throw (.tokenUnreadable fault)
  | .ok value =>
      match value.entries? with
      | some (entry :: rest) =>
          let edge ← (entry :: rest).mapM (resolveEntry casters entity)
          return { cursor, edge := some edge }
      | _ => throw .tokenShape

end Cursor

end SchemaQuery
