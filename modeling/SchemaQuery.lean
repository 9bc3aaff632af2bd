import SchemaQuery.Outcome
import SchemaQuery.QueryService
import SchemaQuery.Request.Input
import SchemaQuery.Proofs.Database
import SchemaQuery.Proofs.RowOrder
import SchemaQuery.Proofs.KeysetOrder
import SchemaQuery.Proofs.PageWindow
import SchemaQuery.Proofs.CursorAcceptance
import SchemaQuery.Proofs.PageWalk
import SchemaQuery.Proofs.CatalogDefinitions
import SchemaQuery.Proofs.ExpansionDepth
import SchemaQuery.Proofs.LoadedTree
import SchemaQuery.Proofs.OwnRelationships
import SchemaQuery.Proofs.PlainWalk
import SchemaQuery.Proofs.CatalogHistory
import SchemaQuery.Proofs.InterleavedReads
import SchemaQuery.Proofs.OuterJoins
import SchemaQuery.Proofs.FieldPaths
import SchemaQuery.Proofs.JoinedTables
import SchemaQuery.Proofs.PlannedLists
import SchemaQuery.Proofs.JoinedRows
import SchemaQuery.Proofs.TokenRoundTrip
import SchemaQuery.Proofs.ConstraintValues
import SchemaQuery.Proofs.TypedConstraints
import SchemaQuery.Proofs.RequestFaults
import SchemaQuery.Proofs.SavedEntities
import SchemaQuery.Proofs.PageFlags
import SchemaQuery.Proofs.ConditionColumns
import SchemaQuery.Proofs.TableNames
import SchemaQuery.Proofs.ConditionOutline
import SchemaQuery.Proofs.StatementNames
import SchemaQuery.Proofs.WrittenText
import SchemaQuery.Proofs.BoundValues
import SchemaQuery.Proofs.StatementText
import SchemaQuery.Proofs.ResolvedFilters
import SchemaQuery.Proofs.InlinedReferences
import SchemaQuery.Proofs.JoinTableNames
import SchemaQuery.Proofs.SelectedSorts
import SchemaQuery.Proofs.CursorRefusals
import SchemaQuery.Proofs.CacheHistory
import SchemaQuery.Proofs.TypedRequests
import SchemaQuery.Proofs.LiteralPatterns
import SchemaQuery.Proofs.WholeDays
import SchemaQuery.Proofs.SavedFields
import SchemaQuery.Proofs.RegisteredOperators
import SchemaQuery.Proofs.SharedJoins
