import TrackedQuery.Document.Value
import TrackedQuery.Schema

/-!
# Documents of entities
-/

namespace TrackedQuery

/-- The document of a column. -/
def Column.document (column : Column) : Document :=
  .record [("name", .text column.name), ("storage", .text column.storage),
    ("ty", column.ty.document), ("nullable", .truth column.nullable),
    ("pk", .truth column.primaryKey), ("fill", column.fillValue.document)]

/-- The name of a relation. -/
def Relation.name : Relation → String
  | .oneToOne => "one_to_one"
  | .oneToMany => "one_to_many"
  | .manyToOne => "many_to_one"
  | .manyToMany _ => "many_to_many"

/-- The document of a mapping. -/
def Mapping.document (mapping : Mapping) : Document :=
  .all .text [mapping.entity, mapping.selfProperty, mapping.targetProperty]

/-- The document of a navigation. -/
def Navigation.document (navigation : Navigation) : Document :=
  .record [("name", .text navigation.name), ("target", .text navigation.target),
    ("self", .text navigation.selfProperty), ("to", .text navigation.targetProperty),
    ("kind", .text navigation.relation.name), ("single", .truth navigation.isSingle),
    ("mapping", .option Mapping.document navigation.mapping?)]

/-- The document of a delete mark. -/
def LogicalDelete.document (mark : LogicalDelete) : Document :=
  .all .text [mark.column, mark.strategy.describe]

/-- The document of an entity. -/
def Entity.document (entity : Entity) : Document :=
  .record [("name", .text entity.name), ("table", .text entity.table),
    ("columns", .all Column.document entity.columns),
    ("navs", .all Navigation.document entity.navigations),
    ("primary_key", .all .natural entity.primaryKey),
    ("logical_delete", .option LogicalDelete.document entity.logicalDelete),
    ("logical_delete_index", .option .natural entity.deleteMarkIndex?),
    ("shape", Ty.listDocument entity.shape)]

end TrackedQuery
