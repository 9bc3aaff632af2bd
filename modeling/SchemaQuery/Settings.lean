import SchemaQuery.Dictionary
import SchemaQuery.Failure

/-!
# Settings

Page sizes and the reserved keys of requests.  They are read from variables of
the environment, which a file may complete: a variable that is set, if only to
the empty text, is not taken from the file.
-/

namespace SchemaQuery

structure Settings where
  defaultPageSize : Int := 20
  maximumPageSize : Int := 1000
  sortKey : String := "sort"
  cursorFirstKey : String := "first"
  cursorLastKey : String := "last"
  schemaCacheKey : String := ""
deriving DecidableEq, Repr, Inhabited

namespace Settings

/-- The variables of the environment completed by the lines of a file. -/
def completed (environment : Dictionary String) (lines : List (String × String)) :
    Dictionary String :=
  environment ++ (Dictionary.ofEntries lines).filter fun line => !environment.contains line.1

def integer (environment : Dictionary String) (name : String) (default : Int) : Int :=
  match environment.get? name with
  | none => default
  | some text =>
      match Number.readInteger text.toList with
      | .ok number => number
      | .error _ => default

def text (environment : Dictionary String) (name default : String) : String :=
  (environment.get? name).getD default

def ofEnvironment (environment : Dictionary String) : Except Fault Settings :=
  let defaults : Settings := {}
  let settings : Settings :=
    { defaultPageSize :=
        integer environment "ENTITYQL_DEFAULT_PAGE_SIZE" defaults.defaultPageSize
      maximumPageSize := integer environment "ENTITYQL_MAX_PAGE_SIZE" defaults.maximumPageSize
      sortKey := text environment "ENTITYQL_SORT_KEY" defaults.sortKey
      cursorFirstKey := text environment "ENTITYQL_CURSOR_FIRST_KEY" defaults.cursorFirstKey
      cursorLastKey := text environment "ENTITYQL_CURSOR_LAST_KEY" defaults.cursorLastKey
      schemaCacheKey := text environment "ENTITYQL_SCHEMA_CACHE_KEY" defaults.schemaCacheKey }
  if settings.maximumPageSize < settings.defaultPageSize then .error .pageSizeBounds
  else .ok settings

end Settings

end SchemaQuery
