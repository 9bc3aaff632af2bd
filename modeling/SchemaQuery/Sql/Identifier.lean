/-!
# Identifiers

Names of tables, columns and labels in a statement.  A name that would not be
read as itself is put in double quotes: reserved words, names with capitals or
characters outside the plain ones, names that start like a number, and the
empty name.
-/

namespace SchemaQuery
namespace Sql

def reservedWords : List String :=
  ["add", "after", "all", "alter", "analyze", "and", "as", "asc", "attach", "autoincrement",
    "before", "begin", "between", "by", "cascade", "case", "cast", "check", "collate",
    "column", "commit", "conflict", "constraint", "create", "cross", "current_date",
    "current_time", "current_timestamp", "database", "default", "deferrable", "deferred",
    "delete", "desc", "detach", "distinct", "drop", "each", "else", "end", "escape", "except",
    "exclusive", "exists", "explain", "fail", "false", "for", "foreign", "from", "full",
    "glob", "group", "having", "if", "ignore", "immediate", "in", "index", "indexed",
    "initially", "inner", "insert", "instead", "intersect", "into", "is", "isnull", "join",
    "key", "left", "like", "limit", "match", "natural", "not", "notnull", "null", "of",
    "offset", "on", "or", "order", "outer", "plan", "pragma", "primary", "query", "raise",
    "references", "reindex", "rename", "replace", "restrict", "right", "rollback", "row",
    "select", "set", "table", "temp", "temporary", "then", "to", "transaction", "trigger",
    "true", "union", "unique", "update", "using", "vacuum", "values", "view", "virtual",
    "when", "where"]

/-- The characters of names without quotes; the long s and the dotless i count. -/
def isPlainCharacter (character : Char) : Bool :=
  character.isLower || character.isDigit || character == '_' || character == '$' ||
    character == 'ſ' || character == 'ı'

/-- A name without one line feed at its end, which does no harm there. -/
def withoutFinalLineFeed (name : List Char) : List Char :=
  if name.getLast? == some '\n' then name.dropLast else name

def isPlain (name : String) : Bool :=
  let body := withoutFinalLineFeed name.toList
  !body.isEmpty && body.all isPlainCharacter &&
    !(body.head?.any fun first => first.isDigit || first == '$') &&
    !reservedWords.contains name

def inQuotes (name : String) : String :=
  String.ofList <|
    '"' :: (name.toList.flatMap fun character =>
      if character == '"' then ['"', '"'] else [character]) ++ ['"']

def identifier (name : String) : String :=
  if isPlain name then name else inQuotes name

end Sql
end SchemaQuery
