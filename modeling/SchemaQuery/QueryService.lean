import SchemaQuery.Listing
import SchemaQuery.Request
import SchemaQuery.Settings

/-!
# The query service

The service answers list requests for the entities of a catalog.  It resolves
the parts of a request one after another, and the first that fails decides.
What was resolved is put into a statement, an executor fetches the rows, and
the rows become a page.
-/

namespace SchemaQuery

structure ListRequest where
  entity : String
  arguments : Arguments := []
  cursor : Cursor := {}
  pagination : Pagination := {}
  querystring : Dictionary (List Value) := []
deriving Inhabited

/-- Fetches the rows that the statement of a listing selects. -/
abbrev Executor := Listing → List Row

structure ListResult where
  listing : Listing
  page : Page
deriving Inhabited

structure QueryService where
  registry : Registry := {}
  settings : Settings := {}
  executor : Option Executor := none

namespace QueryService

def pageSize (service : QueryService) (entity : LoadedEntity) (pagination : Pagination) : Int :=
  let default :=
    if 0 < entity.defaultPageSize then entity.defaultPageSize
    else service.settings.defaultPageSize
  pagination.pageSize default service.settings.maximumPageSize

def buildOn (service : QueryService) (request : ListRequest) (entity : LoadedEntity) :
    CatalogM Failure Listing := do
  let registry := service.registry
  let sortKey := service.settings.sortKey
  let filters ← Filter.resolveAll registry request.querystring entity
    (request.arguments.filters registry.operators sortKey)
  let sorts ← Catalog.refusing
    (SortTerm.resolveAll entity (request.arguments.sorts sortKey))
  let cursor ← Catalog.refusing (request.cursor.resolve registry.casters entity)
  let built := Listing.build registry.operators entity filters
    (ResolvedSort.withPrimaryKey entity sorts) cursor request.pagination
    (service.pageSize entity request.pagination)
  match built with
  | .ok listing => return listing
  | .error failure => throw failure

def build (service : QueryService) (request : ListRequest) : CatalogM Failure Listing := do
  let entity ← Catalog.refusing (Catalog.loadedEntity request.entity)
  service.buildOn request entity

def list (service : QueryService) (request : ListRequest) : CatalogM Failure ListResult := do
  match service.executor with
  | none => throw (.faulted .noExecutor)
  | some fetch =>
      let listing ← service.build request
      match listing.page (fetch listing) with
      | .ok page => return { listing, page }
      | .error refusal => throw (.refused refusal)

def requestOf (service : QueryService) (entity query : String) : ListRequest :=
  let asked := QueryArguments.ofText query service.settings.cursorFirstKey
    service.settings.cursorLastKey
  { entity
    arguments := asked.arguments
    cursor := asked.cursor
    pagination := asked.pagination
    querystring := asked.references }

def listQuery (service : QueryService) (entity query : String) :
    CatalogM Failure ListResult :=
  service.list (service.requestOf entity query)

end QueryService

end SchemaQuery
