import TrackedQuery.Proofs.Plan.Truth
import TrackedQuery.Proofs.Schema.Verification
import TrackedQuery.Proofs.Tracking.Repeatable

/-!
# An update touches its own row

The key of an instance is packed into one value, whether it has one column or several, and an update
unpacks it again into the condition that selects its row.  Nothing is lost on the way: of an entity
of a built schema the condition is true of exactly the rows that have the values of the instance in
all columns of the key (`update_own_row`).  A condition without operands would be true of every row,
but a built schema has no entity without a key.

## Strategy

* The values of a key are those of the columns of the key, in order (`keyFields_eq_map`), so that
  the condition and the equality of keys are both statements about each of these columns
  (`truth_keyCondition_iff`, `EntityKey.equal_iff`).
* The mark of deleted rows is looked up by its name.  Columns of a built schema have distinct names,
  so the column that is found is the only one that the mark can be (`deleteMarkIndex?_eq`).
-/

namespace TrackedQuery

/-! ## The columns of a key -/

/-- The value of a column of a row; `NULL` beyond its end. -/
def Row.field (row : Row) (index : Nat) : Value := row[index]?.getD .null

namespace Entity

variable {entity : Entity} {record : Row}

/-- The row that is evaluated has the values of a record in the columns of the key, as the database
compares them: with `NULL` on either side, it has not. -/
def MatchesKey (entity : Entity) (env : Environment) (record : Row) : Prop :=
  ∀ index ∈ entity.primaryKey, ∃ value, record[index]? = some value ∧
    env.compared .eq (env.column 0 baseAlias index) value = some true

private theorem getElem?_of_mem_primaryKey (wide : record.length = entity.columns.length)
    {index : Nat} (inKey : index ∈ entity.primaryKey) :
    record[index]? = some (Row.field record index) := by
  have inside : index < record.length := wide ▸ lt_of_mem_primaryKey inKey
  rw [Row.field, List.getElem?_eq_getElem inside, Option.getD_some]

theorem keyFields_eq_map {fields : Row}
    (values : entity.primaryKey.map (fun index => record[index]?) = fields.map some) :
    fields = entity.primaryKey.map (Row.field record) := by
  have unwrapped := congrArg (List.map fun value : Option Value => value.getD .null) values
  rw [List.map_map, List.map_map] at unwrapped
  exact (List.map_id fields).symm.trans unwrapped.symm

theorem ofRecord_eq_map (wide : record.length = entity.columns.length) :
    EntityKey.ofRecord entity record =
      .ok ⟨entity.name, EntityKey.keyValue (entity.primaryKey.map (Row.field record))⟩ := by
  obtain ⟨fields, hkey, values⟩ := EntityKey.ofRecord_of_wide wide
  rw [hkey, keyFields_eq_map values]

end Entity

/-! ## Equality of keys -/

namespace EntityKey

/-- Equality of keys, with numbers compared as numbers. -/
def equal (left right : EntityKey) : Bool :=
  left.entity == right.entity && left.key.equal right.key

private theorem equal_keyValue {lefts rights : Row} (length : lefts.length = rights.length) :
    (keyValue lefts).equal (keyValue rights) = Value.equalAll lefts rights := by
  match lefts, rights, length with
  | [], [], _ => rfl
  | [_], [_], _ => simp [keyValue, Value.equalAll]
  | _ :: _ :: _, _ :: _ :: _, _ => rfl

private theorem equalAll_map_iff (positions : List Nat) (left right : Nat → Value) :
    Value.equalAll (positions.map left) (positions.map right) = true ↔
      ∀ index ∈ positions, (left index).equal (right index) = true := by
  induction positions with
  | nil => simp [Value.equalAll]
  | cons index rest ih => simp [Value.equalAll, ih]

/-- Keys of rows of an entity are equal exactly if the rows are in each column of the key. -/
theorem equal_iff {entity : Entity} {left right : Row} {key other : EntityKey}
    (wideLeft : left.length = entity.columns.length)
    (wideRight : right.length = entity.columns.length)
    (hkey : ofRecord entity left = .ok key) (hother : ofRecord entity right = .ok other) :
    key.equal other = true ↔ ∀ index ∈ entity.primaryKey, ∃ first second,
      left[index]? = some first ∧ right[index]? = some second ∧ first.equal second = true := by
  rw [Entity.ofRecord_eq_map wideLeft] at hkey
  rw [Entity.ofRecord_eq_map wideRight] at hother
  cases hkey
  cases hother
  simp only [equal, beq_self_eq_true, Bool.true_and]
  rw [equal_keyValue (by simp), equalAll_map_iff]
  refine forall₂_congr fun index inKey => ?_
  rw [Entity.getElem?_of_mem_primaryKey wideLeft inKey,
    Entity.getElem?_of_mem_primaryKey wideRight inKey]
  simp

end EntityKey

/-! ## The condition on the key -/

private theorem Truth.all_eq_true_iff (truths : List Truth) :
    all truths = some true ↔ ∀ truth ∈ truths, truth = some true := by
  induction truths with
  | nil => simp
  | cons first rest ih =>
      rw [all_cons, List.forall_mem_cons, ← ih]
      rcases first with _ | _ | _ <;> rcases all rest with _ | _ | _ <;> decide

namespace ChangeSet

variable {entity : Entity} {record : Row} {key : EntityKey}

/-- The condition has one equation for each column of the key. -/
theorem keyCondition_eq_map (wide : record.length = entity.columns.length)
    (hkey : EntityKey.ofRecord entity record = .ok key) :
    keyCondition entity key.key =
      .all (entity.primaryKey.map fun index =>
        .equals (.column (.local baseAlias index)) (.value (Row.field record index))) := by
  rw [Entity.ofRecord_eq_map wide] at hkey
  cases hkey
  rw [keyCondition, keyFields_keyValue (by simp), List.zipWith_map_right, List.zipWith_self]

/-- The condition is true of the rows that have the key. -/
theorem truth_keyCondition_iff (wide : record.length = entity.columns.length)
    (hkey : EntityKey.ofRecord entity record = .ok key) (env : Environment) :
    env.truth (keyCondition entity key.key) = some true ↔ entity.MatchesKey env record := by
  rw [keyCondition_eq_map wide hkey, Environment.truth_all, Truth.all_eq_true_iff, List.map_map,
    List.forall_mem_map]
  refine forall₂_congr fun index inKey => ?_
  rw [Entity.getElem?_of_mem_primaryKey wide inKey]
  simp [Environment.truth, Expr.equals, Expr.eval, ColumnRef.local]

end ChangeSet

/-- A row that is `NULL` in a column of the key has no key. -/
theorem Entity.not_matchesKey_of_null {entity : Entity} {env : Environment} {record : Row}
    {index : Nat} (inKey : index ∈ entity.primaryKey)
    (null : env.column 0 baseAlias index = .null ∨ record[index]? = some .null) :
    ¬ entity.MatchesKey env record := by
  intro same
  obtain ⟨value, hvalue, same⟩ := same index inKey
  rcases null with null | null
  · rw [Environment.compared, null] at same
    cases same
  · rw [null] at hvalue
    cases hvalue
    rw [Environment.compared, Value.isNull.eq_def .null, Bool.or_true] at same
    cases same

/-! ## Entities of built schemas -/

/-- What was verified of an entity of a built schema. -/
theorem SchemaBuilder.verifyEntity_of_build {builder : SchemaBuilder} {schema : Schema}
    (built : builder.build = .ok schema) {entity : Entity} (registered : entity ∈ schema.entities) :
    schema.verifyEntity entity = .ok () := by
  obtain ⟨_, verified, same⟩ := Result.bind_eq_ok.mp built
  cases same
  have each : ∀ entities, builder.schema.verifyAll entities = .ok () →
      ∀ entity ∈ entities, builder.schema.verifyEntity entity = .ok () := by
    intro entities verified
    induction entities with
    | nil => simp
    | cons first rest ih =>
        obtain ⟨here, later⟩ := then_eq_ok_iff.mp verified
        exact List.forall_mem_cons.mpr ⟨here, ih later⟩
  exact each _ verified entity registered

namespace Entity

variable {entity : Entity}

/-- Where names are distinct, the mark of deleted rows is the column of its name. -/
theorem deleteMarkIndex?_eq (distinct : (entity.columns.map Column.name).Nodup)
    {mark : LogicalDelete} (declared : entity.logicalDelete = some mark) {index : Nat}
    {column : Column} (found : entity.columns[index]? = some column)
    (named : column.name = mark.column) : entity.deleteMarkIndex? = some index := by
  obtain ⟨inside, rfl⟩ := List.getElem?_eq_some_iff.mp found
  rw [deleteMarkIndex?, declared, Option.bind_some, columnIndex?,
    List.findIdx?_eq_some_iff_getElem]
  refine ⟨inside, beq_iff_eq.mpr named, fun earlier before same => ?_⟩
  refine List.nodup_iff_getElem?_ne_getElem?.mp distinct earlier index before (by simpa) ?_
  rw [List.getElem?_map, List.getElem?_map, found,
    List.getElem?_eq_getElem (Nat.lt_trans before inside)]
  simpa [named] using same

/-- What is written is a column outside the key, and not the mark of deleted rows. -/
theorem writable_of_mem_changesFrom (distinct : (entity.columns.map Column.name).Nodup)
    {known : Option Row} {record : Row} {change : Assignment}
    (mem : change ∈ ChangeSet.changesFrom entity known 0 entity.columns record) :
    ∃ column, entity.columns[change.column]? = some column ∧ change.name = column.name ∧
      column.primaryKey = false ∧ ∀ mark ∈ entity.logicalDelete, change.name ≠ mark.column := by
  obtain ⟨offset, column, found, -, place, name, updatable, -⟩ :=
    ChangeSet.mem_changesFrom.mp mem
  rw [Nat.zero_add] at place
  rw [← place] at found
  obtain ⟨unkeyed, unmarked⟩ := isUpdatable_iff.mp updatable
  refine ⟨column, found, name, ?_, ?_⟩
  · rw [← isPrimaryKey_of_getElem? found, Bool.eq_false_iff, Ne, isPrimaryKey_iff]
    exact unkeyed
  · intro mark declared named
    exact unmarked (deleteMarkIndex?_eq distinct declared found (name.symm.trans named))

end Entity

/-- The update of an instance touches its own row.  Its condition is true of a row exactly if the
row has the key of the instance, column by column; so it is not true of every row, and of none where
a column of the key is `NULL`.  Rows of the entity have equal keys exactly if they are equal in each
column of the key.  No column of the key is written, nor the mark of deleted rows. -/
theorem update_own_row {builder : SchemaBuilder} {connection : Connection}
    (built : builder.build = .ok connection.schema) {subject : Instance} {entity : Entity}
    (registered : connection.schema.resolve subject.entity = .ok entity)
    (wide : subject.record.length = entity.columns.length) (tracking : Tracking)
    (thread : ThreadId) :
    ∃ prepared, connection.prepareUpdate tracking thread subject = .ok prepared ∧
      EntityKey.ofRecord entity subject.record = .ok prepared.key ∧
      (∀ update, prepared.update = some update →
        update.entity = entity.name ∧ update.table = entity.table ∧
        (∀ env : Environment,
          env.truth update.filter = some true ↔ entity.MatchesKey env subject.record) ∧
        entity.primaryKey ≠ [] ∧
        (∀ index ∈ entity.primaryKey, ∀ env : Environment,
          env.column 0 baseAlias index = .null ∨ subject.record[index]? = some .null →
            env.truth update.filter ≠ some true) ∧
        ∀ assignment ∈ update.assignments, ∃ column,
          entity.columns[assignment.column]? = some column ∧ assignment.name = column.name ∧
            column.primaryKey = false ∧
            ∀ mark ∈ entity.logicalDelete, assignment.name ≠ mark.column) ∧
      ∀ other : Row, other.length = entity.columns.length → ∃ key,
        EntityKey.ofRecord entity other = .ok key ∧
          (prepared.key.equal key = true ↔ ∀ index ∈ entity.primaryKey, ∃ first second,
            subject.record[index]? = some first ∧ other[index]? = some second ∧
              first.equal second = true) := by
  -- a schema that was built has checked that the entity has a key and no column twice
  have member := List.mem_of_find?_eq_some (Schema.get?_of_resolve registered)
  obtain ⟨present, verified⟩ :=
    then_eq_ok_iff.mp (SchemaBuilder.verifyEntity_of_build built member)
  obtain ⟨unrepeated, -⟩ := then_eq_ok_iff.mp verified
  have distinct := Schema.verifyColumnNames_eq_ok_iff.mp unrepeated
  obtain ⟨column, columnMem, inKey⟩ := Schema.verifyPrimaryKey_eq_ok_iff.mp present
  obtain ⟨index, found⟩ := List.getElem?_of_mem columnMem
  have keyed : index ∈ entity.primaryKey :=
    Entity.isPrimaryKey_iff.mp ((Entity.isPrimaryKey_of_getElem? found).trans inKey)
  obtain ⟨changes, computed, hkey, -⟩ := Connection.exists_changeSet registered wide tracking thread
  obtain ⟨prepared, ready, key, -, -, update⟩ :=
    Connection.prepareUpdate_of_changeSet registered computed
  refine ⟨prepared, ready, key ▸ hkey, ?_, ?_⟩
  · intro sent written
    rw [update] at written
    split at written
    · cases written
    cases written
    have meaning := ChangeSet.truth_keyCondition_iff wide hkey
    refine ⟨rfl, rfl, meaning, List.ne_nil_of_mem keyed, ?_, ?_⟩
    · intro index inKey env null same
      exact Entity.not_matchesKey_of_null inKey null ((meaning env).mp same)
    · intro assignment mem
      have made := Except.ok.inj
        (computed.symm.trans (Connection.changeSet_of_wide registered wide hkey tracking thread))
      have mem : assignment ∈ changes.changes := mem
      rw [made] at mem
      exact Entity.writable_of_mem_changesFrom distinct mem
  · -- the key of any other row is made of its own key columns
    intro other wideOther
    refine ⟨_, Entity.ofRecord_eq_map wideOther, ?_⟩
    exact EntityKey.equal_iff wide wideOther (key ▸ hkey) (Entity.ofRecord_eq_map wideOther)

namespace Example

/-- A tag of a blog. -/
def taggedBlog : Instance := ⟨"BlogTag", [.string "b", .string "t", .int32 3]⟩

/-- Both columns of its key are in the condition, and the weight alone is written. -/
theorem update_own_row_tagged :
    ∃ prepared update, connection.prepareUpdate .empty 0 taggedBlog = .ok prepared ∧
      prepared.update = some update ∧
      update.assignments = [⟨2, "weight", .int32 3⟩] ∧
      ∀ env : Environment, env.truth update.filter = some true ↔
        env.compared .eq (env.column 0 baseAlias 0) (.string "b") = some true ∧
          env.compared .eq (env.column 0 baseAlias 1) (.string "t") = some true := by
  have built : SchemaBuilder.build ⟨none, entities⟩ = .ok connection.schema := rfl
  have registered : connection.schema.resolve taggedBlog.entity = .ok blogTag := rfl
  obtain ⟨prepared, ready, -, sends, -⟩ := update_own_row built registered rfl .empty 0
  cases ready
  obtain ⟨-, -, meaning, -⟩ := sends _ rfl
  refine ⟨_, _, rfl, rfl, rfl, fun env => (meaning env).trans ?_⟩
  have columns : blogTag.primaryKey = [0, 1] := rfl
  rw [Entity.MatchesKey, columns]
  simp [taggedBlog]

end Example

end TrackedQuery
