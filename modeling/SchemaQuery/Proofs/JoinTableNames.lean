import SchemaQuery.Proofs.FieldPaths
import SchemaQuery.Proofs.LoadedTree

/-!
# Names of join tables

A join table is named by the words of both entities and of the attribute, one behind the other with
underscores between, and loading recognises junctions by these names.  The name does not tell where
one part ends and the next begins: it stands for the words as they follow each other, and for
nothing else.  So two junctions share a table if they have the same words in the same order, however
these are divided among the three parts, and one of them may then be left unexpanded because of the
other.
-/

namespace SchemaQuery

open Catalog (Definitions answer)

namespace Text

theorem segments_injective (separator : Char) : Function.Injective (segments separator) :=
  Function.LeftInverse.injective (intercalate_segments separator)

/-- What stands between the underscores of the underscored form of a name. -/
def words (name : String) : List (List Char) :=
  segments '_' (underscored name).toList

theorem words_eq_iff {name other : String} :
    words name = words other ↔ underscored name = underscored other :=
  (segments_injective '_').eq_iff.trans String.toList_inj

end Text

/-- The words of a junction: of its entity, its target and the attribute. -/
def tableWords (source target field : String) : List (List Char) :=
  Text.words source ++ (Text.words target ++ Text.words field)

theorem segments_junctionTableName (source target field : String) :
    Text.segments '_' (junctionTableName source target field).toList =
      tableWords source target field := by
  have spelled : (junctionTableName source target field).toList =
      (Text.underscored source).toList ++ '_' ::
        ((Text.underscored target).toList ++ '_' :: (Text.underscored field).toList) := by
    unfold junctionTableName
    rw [String.toList_intercalate]
    simp [List.intercalate, List.intersperse]
  rw [spelled, Text.segments_append, Text.segments_append]
  rfl

variable {source target field otherSource otherTarget otherField : String}

theorem junctionTableName_eq_iff :
    junctionTableName source target field = junctionTableName otherSource otherTarget otherField ↔
      tableWords source target field = tableWords otherSource otherTarget otherField := by
  rw [← segments_junctionTableName, ← segments_junctionTableName,
    (Text.segments_injective '_').eq_iff, String.toList_inj]

/-- The words of a junction tell its parts apart, given how many each has. -/
theorem underscored_eq_of_tableWords
    (same : tableWords source target field = tableWords otherSource otherTarget otherField)
    (sources : (Text.words source).length = (Text.words otherSource).length)
    (targets : (Text.words target).length = (Text.words otherTarget).length) :
    [source, target, field].map Text.underscored =
      [otherSource, otherTarget, otherField].map Text.underscored := by
  obtain ⟨sameSource, same⟩ := List.append_inj same sources
  obtain ⟨sameTarget, sameField⟩ := List.append_inj same targets
  simp only [List.map_cons, List.map_nil, Text.words_eq_iff.1 sameSource,
    Text.words_eq_iff.1 sameTarget, Text.words_eq_iff.1 sameField]

/-- The words of a junction that belongs to an entity. -/
def TreeMember.words? (member : TreeMember) : Option (List (List Char)) :=
  member.loaded.targetName?.map fun target => tableWords member.owner target member.loaded.field

/-- Whether each junction that is left unexpanded has the words of one that is not. -/
def UnexpandedShareWords (tree : List TreeMember) : Prop :=
  ∀ member ∈ tree, member.loaded.dataType = .junction → member.loaded.isLoaded = false →
    ∃ words, member.words? = some words ∧
      ∃ other ∈ tree, other.loaded.dataType = .junction ∧ other.loaded.isLoaded = true ∧
        other.words? = some words

theorem ExpandsTree.unexpandedShareWords {known : Definitions} {tree : List TreeMember}
    {behind : List String} (expands : ExpandsTree known [] tree behind) :
    UnexpandedShareWords tree := by
  intro member isMember isJunction notLoaded
  cases expands.expanded member isMember with
  | scalar isScalar plain =>
      rw [isJunction] at isScalar
      exact absurd isScalar (by decide)
  | lookup isLookup named found carries => exact absurd (isLookup.symm.trans isJunction) (by decide)
  | junction _ named found tableName columns carries =>
      simp [LoadedAttribute.isLoaded, isJunction, carries] at notLoaded
  | visitedBefore _ named isVisited plain =>
      have isExpanded := expands.visited_perm.subset isVisited
      rw [List.append_nil] at isExpanded
      obtain ⟨other, isOther, target, otherIsJunction, isLoaded, otherNamed, sameTable⟩ :=
        expands.exists_junction isExpanded
      refine ⟨_, congrArg (Option.map _) named, other, isOther, otherIsJunction, isLoaded, ?_⟩
      unfold TreeMember.words?
      rw [otherNamed, Option.map_some, junctionTableName_eq_iff.1 sameTable]

namespace Catalog

/-- Two junctions have the same join table just if they have the same words in the same order. Only
junctions with the words of an expanded one are left unexpanded. -/
theorem join_tables_tell_words_apart (catalog : Catalog) (keyed : catalog.store.KeyedByName) :
    (∀ source target field otherSource otherTarget otherField : String,
      (junctionTableName source target field =
          junctionTableName otherSource otherTarget otherField ↔
        tableWords source target field = tableWords otherSource otherTarget otherField) ∧
      (junctionTableName source target field =
          junctionTableName otherSource otherTarget otherField →
        (Text.words source).length = (Text.words otherSource).length →
        (Text.words target).length = (Text.words otherTarget).length →
        [source, target, field].map Text.underscored =
          [otherSource, otherTarget, otherField].map Text.underscored)) ∧
    (∀ name loaded, answer (loadedEntity name) catalog = .ok loaded →
      UnexpandedShareWords loaded.tree) ∧
    ∀ (entity : LoadedEntity) (member expanded : LoadedAttribute),
      member.relation = .unexpanded →
      TreeMember.IsDeclared catalog.definitions ⟨entity.name, member⟩ →
      answer (expandOne entity member) catalog = .ok expanded →
        UnexpandedShareWords (⟨entity.name, expanded⟩ :: expanded.treeBehind) := by
  refine ⟨fun source target field otherSource otherTarget otherField => ⟨?_, ?_⟩, ?_, ?_⟩
  · exact junctionTableName_eq_iff
  · exact fun same => underscored_eq_of_tableWords (junctionTableName_eq_iff.1 same)
  · intro name loaded made
    obtain ⟨_, _, expands⟩ := loadedEntity_spec keyed made
    exact expands.unexpandedShareWords
  · intro entity member expanded plain declared made
    obtain ⟨_, _, expands⟩ := expandOne_spec keyed plain declared made
    exact expands.unexpandedShareWords

/-- The links of a post to items of tags. -/
def itemLinks : Attribute where
  field := "links"
  dataType := .junction
  options := "TagItem"

/-- Posts have links to tags, and to items of tags. -/
def linkingPost : StoredEntity where
  name := "Post"
  attributes :=
    [.ofColumn "id" .int,
     { field := "item_links", dataType := .junction, options := "Tag" },
     itemLinks]

def linkedTag : StoredEntity where
  name := "Tag"
  attributes := [.ofColumn "id" .int]

def linkedItem : StoredEntity where
  name := "TagItem"
  attributes := [.ofColumn "id" .int]

def linking : Catalog where
  store := .ofEntities [linkingPost, linkedTag, linkedItem]

theorem exists_loaded_linking_post :
    ∃ loaded, answer (loadedEntity "Post") linking = .ok loaded ∧
      loaded.attributes.map (fun member => (member.field, member.isLoaded)) =
        [("id", true), ("item_links", true), ("links", false)] := by
  have shown : (answer (loadedEntity "Post") linking).toOption.map
      (fun loaded => loaded.attributes.map fun member => (member.field, member.isLoaded)) =
        some [("id", true), ("item_links", true), ("links", false)] := by decide +kernel
  cases made : answer (loadedEntity "Post") linking with
  | error refusal => simp [made, Except.toOption] at shown
  | ok loaded =>
      rw [made] at shown
      exact ⟨loaded, rfl, Option.some.inj shown⟩

/-- The links to items are left out, as they have the join table of those to tags. -/
theorem linking_post_leaves_out_links :
    ["Post", "Tag", "item_links"].map Text.underscored ≠
        ["Post", "TagItem", "links"].map Text.underscored ∧
      junctionTableName "Post" "Tag" "item_links" = junctionTableName "Post" "TagItem" "links" ∧
      ∃ loaded, answer (loadedEntity "Post") linking = .ok loaded ∧
        loaded.attributes.map (fun member => (member.field, member.isLoaded)) =
          [("id", true), ("item_links", true), ("links", false)] :=
  ⟨by decide +kernel, by decide +kernel, exists_loaded_linking_post⟩

theorem linking_post_shares_words :
    tableWords "Post" "Tag" "item_links" = tableWords "Post" "TagItem" "links" ∧
      (["BlogPost", "Tag", "tags"].map Text.underscored =
        ["blog-post", "tag", "Tags"].map Text.underscored) ∧
      (∃ loaded, answer (loadedEntity "Post") linking = .ok loaded ∧
        UnexpandedShareWords loaded.tree) ∧
      ∃ expanded, answer (expandOne linkingPost.load (itemLinks.load "post")) linking =
          .ok expanded ∧
        UnexpandedShareWords (⟨"Post", expanded⟩ :: expanded.treeBehind) := by
  obtain ⟨names, loading, expanding⟩ :=
    join_tables_tell_words_apart linking (Store.keyedByName_ofEntities _)
  obtain ⟨alike, _⟩ := names "Post" "Tag" "item_links" "Post" "TagItem" "links"
  obtain ⟨_, apart⟩ := names "BlogPost" "Tag" "tags" "blog-post" "tag" "Tags"
  obtain ⟨loaded, made, _⟩ := exists_loaded_linking_post
  refine ⟨alike.1 (by decide +kernel),
    apart (by decide +kernel) (by decide +kernel) (by decide +kernel),
    ⟨loaded, made, loading _ _ made⟩, ?_⟩
  have declared : TreeMember.IsDeclared linking.definitions ⟨"Post", itemLinks.load "post"⟩ :=
    ⟨linkingPost, rfl, rfl, List.mem_of_getLast? rfl⟩
  have succeeds :
      (answer (expandOne linkingPost.load (itemLinks.load "post")) linking).isOk = true := by
    decide +kernel
  cases expandMade : answer (expandOne linkingPost.load (itemLinks.load "post")) linking with
  | error refusal => simp [expandMade, Except.isOk, Except.toBool] at succeeds
  | ok expanded =>
      exact ⟨expanded, rfl, expanding linkingPost.load _ expanded rfl declared expandMade⟩

end Catalog
end SchemaQuery
