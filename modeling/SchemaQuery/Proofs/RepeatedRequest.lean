import SchemaQuery.Proofs.ExpansionDepth
import SchemaQuery.QueryService

/-!
# Asking again

A list request consults nothing of a catalog but its definitions, and it leaves these as they
are.  So the same request is answered again in the same way, and the steps of a request can be
told one by one: the entity, the filters, the sorts, and the cursor, which depends on the entity
alone.
-/

namespace SchemaQuery

open Catalog (Consults answer after)

theorem Filter.consults_resolve (registry : Registry) (querystring : Dictionary (List Value))
    (entity : LoadedEntity) (filter : Filter) :
    Consults (filter.resolve registry querystring entity) := by
  unfold Filter.resolve
  split
  · exact Consults.throw _
  · apply Consults.bind ((Catalog.consults_resolvePath _ _).adapt _)
    intro target
    apply Consults.guarded
    apply Consults.bind
    · cases filter.constraints.mapM (resolveConstraint registry querystring filter.path target) with
      | ok constraints => exact Consults.pure constraints
      | error failure => exact Consults.throw failure
    · intro constraints
      exact Consults.pure _

theorem Filter.consults_resolveAll (registry : Registry)
    (querystring : Dictionary (List Value)) (entity : LoadedEntity) (filters : List Filter) :
    Consults (Filter.resolveAll registry querystring entity filters) :=
  Consults.mapM (Filter.consults_resolve registry querystring entity) filters

theorem SortTerm.consults_resolve (entity : LoadedEntity) (sort : SortTerm) :
    Consults (sort.resolve entity) := by
  unfold SortTerm.resolve
  split
  · exact Consults.throw _
  · apply Consults.bind ((Catalog.consults_resolvePath _ _).adapt _)
    intro target
    exact Consults.pure _

theorem SortTerm.consults_resolveAll (entity : LoadedEntity) (sorts : List SortTerm) :
    Consults (SortTerm.resolveAll entity sorts) :=
  Consults.mapM (SortTerm.consults_resolve entity) sorts

namespace Cursor

theorem consults_resolveEntry (casters : Casters) (entity : LoadedEntity)
    (entry : String × Value) : Consults (resolveEntry casters entity entry) := by
  unfold resolveEntry
  apply Consults.bind ((Catalog.consults_resolvePath _ _).adapt _)
  intro target
  split
  · exact Consults.pure _
  · split
    · exact Consults.pure _
    · exact Consults.throw _

theorem consults_resolve (casters : Casters) (entity : LoadedEntity) (cursor : Cursor) :
    Consults (cursor.resolve casters entity) := by
  unfold resolve
  split
  · exact Consults.pure _
  · split
    · exact Consults.throw _
    · split
      · apply Consults.bind (Consults.mapM (consults_resolveEntry casters entity) _)
        intro edge
        exact Consults.pure _
      · exact Consults.throw _

end Cursor

namespace QueryService

variable (service : QueryService) (request : ListRequest) {catalog : Catalog}
  {listing : Listing}

theorem consults_buildOn (entity : LoadedEntity) : Consults (service.buildOn request entity) := by
  unfold buildOn
  apply Consults.bind (Filter.consults_resolveAll _ _ _ _)
  intro filters
  apply Consults.bind ((SortTerm.consults_resolveAll _ _).adapt _)
  intro sorts
  apply Consults.bind ((Cursor.consults_resolve _ _ _).adapt _)
  intro cursor
  dsimp only
  split
  · exact Consults.pure _
  · exact Consults.throw _

theorem consults_build : Consults (service.build request) :=
  Consults.bind ((Catalog.consults_loadedEntity _).adapt _) (service.consults_buildOn request)

theorem build_again (built : answer (service.build request) catalog = .ok listing) :
    answer (service.build request) (after (service.build request) catalog) = .ok listing := by
  rw [(service.consults_build request).answer_after (service.consults_build request), built]

theorem answer_buildOn (entity : LoadedEntity) :
    answer (service.buildOn request entity) catalog = (do
      let filters ← answer (Filter.resolveAll service.registry request.querystring entity
        (request.arguments.filters service.registry.operators service.settings.sortKey)) catalog
      let sorts ← (answer (SortTerm.resolveAll entity
        (request.arguments.sorts service.settings.sortKey)) catalog).mapError .refused
      let cursor ← (answer (request.cursor.resolve service.registry.casters entity)
        catalog).mapError .refused
      Listing.build service.registry.operators entity filters
        (ResolvedSort.withPrimaryKey entity sorts) cursor request.pagination
        (service.pageSize entity request.pagination)) := by
  have filterConsults := Filter.consults_resolveAll service.registry request.querystring entity
    (request.arguments.filters service.registry.operators service.settings.sortKey)
  have sortConsults := (SortTerm.consults_resolveAll entity
    (request.arguments.sorts service.settings.sortKey)).adapt Failure.refused
  have cursorConsults := (Cursor.consults_resolve service.registry.casters entity
    request.cursor).adapt Failure.refused
  unfold buildOn Catalog.refusing
  simp only [Catalog.answer_bind, filterConsults.answer_after sortConsults,
    sortConsults.answer_after cursorConsults, filterConsults.answer_after cursorConsults,
    Catalog.answer_adapt]
  cases answer (Filter.resolveAll service.registry request.querystring entity
    (request.arguments.filters service.registry.operators service.settings.sortKey)) catalog with
  | error failure => rfl
  | ok filters =>
      cases answer (SortTerm.resolveAll entity
        (request.arguments.sorts service.settings.sortKey)) catalog with
      | error refusal => rfl
      | ok sorts =>
          cases answer (request.cursor.resolve service.registry.casters entity) catalog with
          | error refusal => rfl
          | ok cursor =>
              dsimp only [Except.mapError, bind, Except.bind]
              split
              · rename_i built
                rw [built, Catalog.answer_pure]
              · rename_i built
                rw [built, Catalog.answer_throw]

theorem buildOn_eq_ok (entity : LoadedEntity) :
    answer (service.buildOn request entity) catalog = .ok listing ↔
      ∃ filters sorts cursor,
        answer (Filter.resolveAll service.registry request.querystring entity
          (request.arguments.filters service.registry.operators service.settings.sortKey))
          catalog = .ok filters ∧
        answer (SortTerm.resolveAll entity (request.arguments.sorts service.settings.sortKey))
          catalog = .ok sorts ∧
        answer (request.cursor.resolve service.registry.casters entity) catalog =
          .ok cursor ∧
        Listing.build service.registry.operators entity filters
          (ResolvedSort.withPrimaryKey entity sorts) cursor request.pagination
          (service.pageSize entity request.pagination) = .ok listing := by
  simp only [answer_buildOn, Success.bind_eq_ok, Success.mapError_eq_ok]
  constructor
  · rintro ⟨filters, filtersMade, sorts, sortsMade, cursor, cursorMade, built⟩
    exact ⟨filters, sorts, cursor, filtersMade, sortsMade, cursorMade, built⟩
  · rintro ⟨filters, sorts, cursor, filtersMade, sortsMade, cursorMade, built⟩
    exact ⟨filters, filtersMade, sorts, sortsMade, cursor, cursorMade, built⟩

theorem answer_build :
    answer (service.build request) catalog =
      (answer (Catalog.loadedEntity request.entity) catalog).mapError .refused >>= fun entity =>
        answer (service.buildOn request entity) catalog := by
  have entityConsults := (Catalog.consults_loadedEntity request.entity).adapt Failure.refused
  unfold build Catalog.refusing
  rw [entityConsults.answer_bind (service.consults_buildOn request), Catalog.answer_adapt]

theorem build_eq_ok :
    answer (service.build request) catalog = .ok listing ↔
      ∃ entity, answer (Catalog.loadedEntity request.entity) catalog = .ok entity ∧
        answer (service.buildOn request entity) catalog = .ok listing := by
  simp only [answer_build, Success.bind_eq_ok, Success.mapError_eq_ok]

end QueryService
end SchemaQuery
