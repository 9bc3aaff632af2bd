import SchemaQuery.Codec.QueryString
import SchemaQuery.Filter
import SchemaQuery.Page

/-!
# Requests for lists

A structured request gives, for each path, raw values by match operator; under
one reserved key it gives directions by path instead.  The same request can be
written as a querystring, with the operator in brackets behind the path.  A
querystring also holds the tokens of the cursor, offset and limit, and all of
its keys may be referred to by filters.
-/

namespace SchemaQuery

/-- A structured request: raw values by path and operator. -/
abbrev Arguments := Dictionary (Dictionary (List Value))

namespace Arguments

/-- The key under which a request gives its sorts, unless it is configured. -/
def defaultSortKey : String := "sort"

def filters (operators : Operators) (sortKey : String) (arguments : Arguments) : List Filter :=
  (arguments.filter fun argument => argument.1 != sortKey).map fun argument =>
    Filter.parse operators argument.1 argument.2

def sorts (sortKey : String) (arguments : Arguments) : List SortTerm :=
  (arguments.filter fun argument => argument.1 == sortKey).flatMap fun argument =>
    SortTerm.parseAll argument.2

end Arguments

structure QueryArguments where
  arguments : Arguments := []
  cursor : Cursor := {}
  pagination : Pagination := {}
  querystring : Dictionary (List String) := []
deriving Inhabited

namespace QueryArguments

def isBracket (character : Char) : Bool :=
  character == '[' || character == ']'

/-- The path and the operator of a key such as `path[operator]`. One line feed may follow. -/
def splitKey? (key : String) : Option (String × String) :=
  let characters := key.toList
  let path := characters.takeWhile fun character => !isBracket character
  match characters.dropWhile fun character => !isBracket character with
  | '[' :: rest =>
      let operator := rest.takeWhile fun character => !isBracket character
      match rest.dropWhile fun character => !isBracket character with
      | [']'] | [']', '\n'] =>
          if path.isEmpty then none
          else some (Text.trim (String.ofList path), Text.trim (String.ofList operator))
      | _ => none
  | _ => none

/-- A request with one more value, if the key names a path and an operator. -/
def addArgument (arguments : Arguments) (pair : String × String) : Arguments :=
  match splitKey? pair.1 with
  | none => arguments
  | some (path, operator) =>
      arguments.alter path fun present =>
        Dictionary.append (present.getD []) operator [.text pair.2]

def lastValue? (querystring : Dictionary (List String)) (key : String) : Option String :=
  (querystring.get? key).bind List.getLast?

/-- The integer that is the last value of a key. -/
def lastInteger? (querystring : Dictionary (List String)) (key : String) : Option Int :=
  (lastValue? querystring key).bind fun text =>
    match Number.readInteger text.toList with
    | .ok number => some number
    | .error _ => none

/-- What the pairs of a querystring ask for. -/
def ofPairs (pairs : List (String × String)) (firstKey : String := "first")
    (lastKey : String := "last") : QueryArguments :=
  let querystring : Dictionary (List String) :=
    pairs.foldl (fun gathered pair => gathered.append pair.1 [pair.2]) []
  { arguments := pairs.foldl addArgument []
    cursor :=
      { first := some ((lastValue? querystring firstKey).getD "")
        last := some ((lastValue? querystring lastKey).getD "") }
    pagination :=
      { offset := (lastInteger? querystring "offset").getD 0
        limit := lastInteger? querystring "limit" }
    querystring }

def ofText (query : String) (firstKey : String := "first") (lastKey : String := "last") :
    QueryArguments :=
  ofPairs (Codec.QueryString.parse query) firstKey lastKey

def references (query : QueryArguments) : Dictionary (List Value) :=
  query.querystring.map fun entry => (entry.1, entry.2.map Value.text)

end QueryArguments

end SchemaQuery
