import Mathlib.Data.List.Nodup
import TrackedQuery.Proofs.Query.Navigation

/-!
# What verification promises

A schema is built from entities that were registered under distinct names.  `Entity.Consistent` says
what an entity needs without following the checks: a key, columns with distinct names, a delete mark
that its column can carry, and navigations whose sides all exist.  Building succeeds exactly if
every entity is consistent (`SchemaBuilder.build_eq_ok_iff`).

## Strategy

Names are looked up by a search for the first match.  Where names are distinct the first match is
the only one, so a look-up answers exactly the member of that name, and each check becomes the
statement about members that it stands for.  The common first part of the tables is no concern of
any check (`Entity.consistent_storedUnder_iff`).
-/

namespace TrackedQuery

/-! ## What an entity needs -/

/-- The entity has a column of the given name. -/
def Entity.HasColumn (entity : Entity) (name : String) : Prop :=
  ∃ column ∈ entity.columns, column.name = name

/-- Both sides of a navigation exist, and what stands between them if it goes through a mapping. -/
structure Navigation.Complete (registered : List Entity) (entity : Entity)
    (navigation : Navigation) : Prop where
  own : entity.HasColumn navigation.selfProperty
  target : ∃ target ∈ registered, target.name = navigation.target ∧
    target.HasColumn navigation.targetProperty
  middle : ∀ mapping ∈ navigation.mapping?, ∃ middle ∈ registered,
    middle.name = mapping.entity ∧ middle.HasColumn mapping.selfProperty ∧
      middle.HasColumn mapping.targetProperty

/-- A column outside the key can carry the delete mark of the entity. -/
def Entity.Carries (entity : Entity) (mark : LogicalDelete) : Prop :=
  ∃ column ∈ entity.columns, column.name = mark.column ∧ column.primaryKey = false ∧
    mark.strategy.accepts column.ty column.nullable = true

/-- What an entity needs, given the entities that are registered with it. -/
structure Entity.Consistent (registered : List Entity) (entity : Entity) : Prop where
  key : ∃ column ∈ entity.columns, column.primaryKey = true
  columns : (entity.columns.map Column.name).Nodup
  mark : ∀ mark ∈ entity.logicalDelete, entity.Carries mark
  navigations : ∀ navigation ∈ entity.navigations, navigation.Complete registered entity

/-! ## Look-ups -/

namespace Schema

variable {schema : Schema} {name : String} {entity : Entity}

/-- Every registered name resolves. -/
theorem resolve_of_mem (registered : entity ∈ schema.entities) :
    ∃ found, schema.resolve entity.name = .ok found := by
  cases hfound : schema.get? entity.name with
  | none =>
      have unnamed := List.find?_eq_none.mp hfound entity registered
      exact absurd (beq_self_eq_true entity.name) unnamed
  | some found => exact ⟨found, by rw [resolve, hfound]⟩

/-- A name that is given to one entity only resolves to that entity. -/
theorem resolve_eq_ok_iff (distinct : (schema.entities.map Entity.name).Nodup) :
    schema.resolve name = .ok entity ↔ entity ∈ schema.entities ∧ entity.name = name := by
  constructor
  · intro resolved
    exact ⟨List.mem_of_find?_eq_some (get?_of_resolve resolved), name_of_resolve resolved⟩
  · rintro ⟨registered, rfl⟩
    obtain ⟨found, resolved⟩ := resolve_of_mem registered
    have member := List.mem_of_find?_eq_some (get?_of_resolve resolved)
    have same := List.inj_on_of_nodup_map distinct member registered (name_of_resolve resolved)
    rw [resolved, same]

end Schema

namespace Entity

variable {entity : Entity} {name : String} {index : Nat} {column : Column}

private theorem of_resolveColumn (resolved : entity.resolveColumn name = .ok (index, column)) :
    entity.columns[index]? = some column ∧ column.name = name := by
  unfold resolveColumn at resolved
  cases hindex : entity.columnIndex? name with
  | none =>
      rw [hindex] at resolved
      cases resolved
  | some position =>
      obtain ⟨inside, named, -⟩ := List.findIdx?_eq_some_iff_getElem.mp hindex
      rw [hindex] at resolved
      simp only [List.getElem?_eq_getElem inside] at resolved
      cases resolved
      exact ⟨List.getElem?_eq_getElem inside, beq_iff_eq.mp named⟩

/-- The name of a column resolves. -/
theorem hasColumn_iff : entity.HasColumn name ↔
    ∃ resolved, entity.resolveColumn name = .ok resolved := by
  constructor
  · rintro ⟨column, mem, rfl⟩
    cases hindex : entity.columnIndex? column.name with
    | none =>
        exact absurd (List.findIdx?_eq_none_iff.mp hindex column mem) (by simp)
    | some index =>
        obtain ⟨inside, -, -⟩ := List.findIdx?_eq_some_iff_getElem.mp hindex
        exact ⟨(index, entity.columns[index]),
          by simp only [resolveColumn, hindex, List.getElem?_eq_getElem inside]⟩
  · rintro ⟨⟨index, column⟩, resolved⟩
    obtain ⟨found, named⟩ := of_resolveColumn resolved
    exact ⟨column, List.mem_of_getElem? found, named⟩

theorem isPrimaryKey_of_getElem? (found : entity.columns[index]? = some column) :
    entity.isPrimaryKey index = column.primaryKey := by
  obtain ⟨inside, rfl⟩ := List.getElem?_eq_some_iff.mp found
  rw [Bool.eq_iff_iff]
  simp [isPrimaryKey, primaryKey, inside]

end Entity

/-! ## The checks -/

private theorem withContext_eq_ok_iff {α : Type} {result : Result α} {context : Cause} {value : α} :
    Schema.withContext result context = .ok value ↔ result = .ok value := by
  cases result <;> simp [Schema.withContext, Except.mapError]

/-- Two checks in a row pass if both do. -/
theorem then_eq_ok_iff {first second : Result Unit} :
    (first >>= fun _ => second) = .ok () ↔ first = .ok () ∧ second = .ok () := by
  rw [Result.bind_eq_ok]
  exact ⟨fun ⟨_, passed, after⟩ => ⟨passed, after⟩, fun ⟨passed, after⟩ => ⟨(), passed, after⟩⟩

namespace Schema

variable {schema : Schema} {entity : Entity}

theorem verifyPrimaryKey_eq_ok_iff :
    verifyPrimaryKey entity = .ok () ↔ ∃ column ∈ entity.columns, column.primaryKey = true := by
  have present : entity.primaryKey.isEmpty = false ↔
      ∃ column ∈ entity.columns, column.primaryKey = true := by
    rw [List.isEmpty_eq_false_iff_exists_mem]
    constructor
    · rintro ⟨index, mem⟩
      have inside : index < entity.columns.length := by
        simpa using List.mem_of_mem_filter mem
      have found := List.getElem?_eq_getElem inside
      refine ⟨entity.columns[index], List.getElem_mem inside, ?_⟩
      rw [← Entity.isPrimaryKey_of_getElem? found]
      simpa [Entity.isPrimaryKey] using mem
    · rintro ⟨column, mem, inKey⟩
      obtain ⟨index, found⟩ := List.getElem?_of_mem mem
      refine ⟨index, ?_⟩
      rw [← Entity.isPrimaryKey_of_getElem? found] at inKey
      simpa [Entity.isPrimaryKey] using inKey
  rw [← present, verifyPrimaryKey]
  cases entity.primaryKey.isEmpty <;> simp [fail]

private theorem firstRepeat?_eq_none_iff (names before : List String) :
    firstRepeat? before names = none ↔ names.Nodup ∧ ∀ name ∈ names, name ∉ before := by
  induction names generalizing before with
  | nil => simp [firstRepeat?]
  | cons name rest ih =>
      by_cases seen : name ∈ before
      · simp [firstRepeat?, seen]
      · rw [firstRepeat?, if_neg (by simpa using seen), ih]
        simp only [List.nodup_cons, List.mem_cons, not_or, forall_eq_or_imp, seen,
          not_false_eq_true, true_and]
        constructor
        · rintro ⟨distinct, fresh⟩
          exact ⟨⟨fun mem => (fresh name mem).1 rfl, distinct⟩,
            fun other mem => (fresh other mem).2⟩
        · rintro ⟨⟨once, distinct⟩, fresh⟩
          refine ⟨distinct, fun other mem => ⟨?_, fresh other mem⟩⟩
          rintro rfl
          exact once mem

theorem verifyColumnNames_eq_ok_iff :
    verifyColumnNames entity = .ok () ↔ (entity.columns.map Column.name).Nodup := by
  have distinct := firstRepeat?_eq_none_iff (entity.columns.map Column.name) []
  simp only [List.not_mem_nil, not_false_eq_true, implies_true, and_true] at distinct
  rw [← distinct, verifyColumnNames]
  cases firstRepeat? [] (entity.columns.map Column.name) <;> simp [fail]

private theorem verifyLogicalDelete_eq_ok_iff (distinct : (entity.columns.map Column.name).Nodup) :
    verifyLogicalDelete entity = .ok () ↔ ∀ mark ∈ entity.logicalDelete, entity.Carries mark := by
  unfold verifyLogicalDelete
  cases hmark : entity.logicalDelete with
  | none => simp
  | some mark =>
      simp only [Result.bind_eq_ok, withContext_eq_ok_iff, Option.mem_def, Option.some.injEq,
        forall_eq']
      constructor
      · rintro ⟨⟨index, column⟩, resolved, passed⟩
        obtain ⟨found, named⟩ := Entity.of_resolveColumn resolved
        rw [Entity.isPrimaryKey_of_getElem? found] at passed
        split at passed
        · cases passed
        · next carried =>
            obtain ⟨outside, accepted⟩ : column.primaryKey = false ∧
                mark.strategy.accepts column.ty column.nullable = true := by
              simpa using carried
            exact ⟨column, List.mem_of_getElem? found, named, outside, accepted⟩
      · rintro ⟨column, mem, named, outside, accepted⟩
        obtain ⟨⟨index, other⟩, resolved⟩ := Entity.hasColumn_iff.mp ⟨column, mem, named⟩
        obtain ⟨found, otherNamed⟩ := Entity.of_resolveColumn resolved
        -- names are distinct, so the column that is found is the one that carries the mark
        obtain rfl := List.inj_on_of_nodup_map distinct (List.mem_of_getElem? found) mem
          (otherNamed.trans named.symm)
        refine ⟨(index, other), resolved, ?_⟩
        simp [Entity.isPrimaryKey_of_getElem? found, outside, accepted]

private theorem verifyNavigation_eq_ok_iff (distinct : (schema.entities.map Entity.name).Nodup)
    {navigation : Navigation} :
    schema.verifyNavigation entity navigation = .ok () ↔
      navigation.Complete schema.entities entity := by
  -- what is checked of the mapping, if there is one
  have mapped : ∀ mapping : Mapping,
      (∃ middle, schema.resolve mapping.entity = .ok middle ∧
        (∃ first, middle.resolveColumn mapping.selfProperty = .ok first) ∧
        ∃ second, middle.resolveColumn mapping.targetProperty = .ok second) ↔
      ∃ middle ∈ schema.entities, middle.name = mapping.entity ∧
        middle.HasColumn mapping.selfProperty ∧ middle.HasColumn mapping.targetProperty := by
    intro mapping
    simp only [resolve_eq_ok_iff distinct, Entity.hasColumn_iff, and_assoc]
  constructor
  · intro verified
    obtain ⟨target, htarget, verified⟩ := Result.bind_eq_ok.mp verified
    obtain ⟨own, hown, verified⟩ := Result.bind_eq_ok.mp verified
    obtain ⟨other, hother, verified⟩ := Result.bind_eq_ok.mp verified
    obtain ⟨registered, named⟩ := (resolve_eq_ok_iff distinct).mp htarget
    refine ⟨Entity.hasColumn_iff.mpr ⟨own, hown⟩,
      ⟨target, registered, named, Entity.hasColumn_iff.mpr ⟨other, hother⟩⟩, ?_⟩
    intro mapping hmapping
    unfold Navigation.mapping? at hmapping
    split at hmapping
    · next mapping' relation =>
        cases hmapping
        simp only [relation] at verified
        obtain ⟨middle, hmiddle, verified⟩ := Result.bind_eq_ok.mp verified
        obtain ⟨first, hfirst, verified⟩ := Result.bind_eq_ok.mp verified
        obtain ⟨second, hsecond, -⟩ := Result.bind_eq_ok.mp verified
        exact (mapped mapping).mp ⟨middle, hmiddle, ⟨first, hfirst⟩, second, hsecond⟩
    · cases hmapping
  · rintro ⟨own, ⟨target, registered, named, other⟩, middle⟩
    obtain ⟨own, hown⟩ := Entity.hasColumn_iff.mp own
    obtain ⟨other, hother⟩ := Entity.hasColumn_iff.mp other
    refine Result.bind_eq_ok.mpr ⟨target, (resolve_eq_ok_iff distinct).mpr ⟨registered, named⟩, ?_⟩
    refine Result.bind_eq_ok.mpr ⟨own, hown, Result.bind_eq_ok.mpr ⟨other, hother, ?_⟩⟩
    cases relation : navigation.relation with
    | manyToMany mapping =>
        obtain ⟨middle, hmiddle, ⟨first, hfirst⟩, second, hsecond⟩ :=
          (mapped mapping).mpr (middle mapping (by simp [Navigation.mapping?, relation]))
        refine Result.bind_eq_ok.mpr ⟨middle, hmiddle, ?_⟩
        exact Result.bind_eq_ok.mpr ⟨first, hfirst, Result.bind_eq_ok.mpr ⟨second, hsecond, rfl⟩⟩
    | oneToOne | oneToMany | manyToOne => rfl

private theorem verifyNavigations_eq_ok_iff (distinct : (schema.entities.map Entity.name).Nodup)
    (navigations : List Navigation) :
    schema.verifyNavigations entity navigations = .ok () ↔
      ∀ navigation ∈ navigations, navigation.Complete schema.entities entity := by
  induction navigations with
  | nil => simp [verifyNavigations]
  | cons navigation rest ih =>
      rw [verifyNavigations, then_eq_ok_iff, withContext_eq_ok_iff,
        verifyNavigation_eq_ok_iff distinct, ih, List.forall_mem_cons]

private theorem verifyEntity_eq_ok_iff (distinct : (schema.entities.map Entity.name).Nodup) :
    schema.verifyEntity entity = .ok () ↔ entity.Consistent schema.entities := by
  rw [verifyEntity, then_eq_ok_iff, then_eq_ok_iff, then_eq_ok_iff, verifyPrimaryKey_eq_ok_iff,
    verifyColumnNames_eq_ok_iff, verifyNavigations_eq_ok_iff distinct]
  constructor
  · rintro ⟨key, columns, mark, navigations⟩
    exact ⟨key, columns, (verifyLogicalDelete_eq_ok_iff columns).mp mark, navigations⟩
  · rintro ⟨key, columns, mark, navigations⟩
    exact ⟨key, columns, (verifyLogicalDelete_eq_ok_iff columns).mpr mark, navigations⟩

private theorem verifyAll_eq_ok_iff (distinct : (schema.entities.map Entity.name).Nodup)
    (entities : List Entity) :
    schema.verifyAll entities = .ok () ↔
      ∀ entity ∈ entities, entity.Consistent schema.entities := by
  induction entities with
  | nil => simp [verifyAll]
  | cons entity rest ih =>
      rw [verifyAll, then_eq_ok_iff, verifyEntity_eq_ok_iff distinct, ih, List.forall_mem_cons]

end Schema

/-! ## Building -/

/-- The entity as it is stored when all tables start alike. -/
def Entity.storedUnder (tableStart : Option String) (entity : Entity) : Entity :=
  { entity with table := (tableStart.map (· ++ entity.table)).getD entity.table }

namespace Entity

variable {tableStart : Option String} {entity : Entity} {entities : List Entity}

@[simp] theorem name_storedUnder : (entity.storedUnder tableStart).name = entity.name := rfl

@[simp] theorem hasColumn_storedUnder_iff {name : String} :
    (entity.storedUnder tableStart).HasColumn name ↔ entity.HasColumn name := Iff.rfl

theorem names_storedUnder :
    (entities.map (storedUnder tableStart)).map Entity.name = entities.map Entity.name := by
  simp [Function.comp_def]

private theorem complete_storedUnder_iff {navigation : Navigation} :
    navigation.Complete (entities.map (storedUnder tableStart)) (entity.storedUnder tableStart) ↔
      navigation.Complete entities entity := by
  constructor
  · rintro ⟨own, target, middle⟩
    exact ⟨own, by simpa using target, fun mapping mem => by simpa using middle mapping mem⟩
  · rintro ⟨own, target, middle⟩
    exact ⟨own, by simpa using target, fun mapping mem => by simpa using middle mapping mem⟩

theorem consistent_storedUnder_iff :
    (entity.storedUnder tableStart).Consistent (entities.map (storedUnder tableStart)) ↔
      entity.Consistent entities := by
  constructor
  · rintro ⟨key, columns, mark, navigations⟩
    exact ⟨key, columns, mark,
      fun other mem => complete_storedUnder_iff.mp (navigations other mem)⟩
  · rintro ⟨key, columns, mark, navigations⟩
    exact ⟨key, columns, mark,
      fun other mem => complete_storedUnder_iff.mpr (navigations other mem)⟩

end Entity

namespace SchemaBuilder

variable {tableStart : Option String} {entities : List Entity} {schema : Schema}

theorem entities_schema (builder : SchemaBuilder) :
    builder.schema.entities = builder.entities.map (Entity.storedUnder builder.tableStart) := by
  obtain ⟨tableStart, entities⟩ := builder
  cases tableStart with
  | none => exact (List.map_id entities).symm
  | some start => rfl

/-- Entities of distinct names are registered without a complaint. -/
theorem register_all (before : List Entity)
    (distinct : ((before ++ entities).map Entity.name).Nodup) :
    entities.foldlM register ⟨tableStart, before⟩ = .ok ⟨tableStart, before ++ entities⟩ := by
  induction entities generalizing before with
  | nil => simp [pure, Except.pure]
  | cons entity rest ih =>
      have fresh : ¬ (before.any fun registered => registered.name == entity.name) = true := by
        intro taken
        obtain ⟨registered, mem, same⟩ := List.any_eq_true.mp taken
        rw [List.map_append, List.nodup_append] at distinct
        exact distinct.2.2 _ (List.mem_map_of_mem mem) _ List.mem_cons_self (beq_iff_eq.mp same)
      rw [List.append_cons] at distinct ⊢
      rw [List.foldlM_cons, register, if_neg fresh]
      exact ih (before ++ [entity]) distinct

/-- Building answers the registry that was described, if every entity in it is consistent. -/
theorem build_eq_ok_iff (distinct : (entities.map Entity.name).Nodup) :
    build ⟨tableStart, entities⟩ = .ok schema ↔
      schema = SchemaBuilder.schema ⟨tableStart, entities⟩ ∧
        ∀ entity ∈ entities, entity.Consistent entities := by
  have entities_eq := entities_schema ⟨tableStart, entities⟩
  have stored : ((SchemaBuilder.schema ⟨tableStart, entities⟩).entities.map Entity.name).Nodup := by
    rw [entities_eq, Entity.names_storedUnder]
    exact distinct
  have verified : Schema.verify (SchemaBuilder.schema ⟨tableStart, entities⟩) = .ok () ↔
      ∀ entity ∈ entities, entity.Consistent entities := by
    rw [Schema.verify, Schema.verifyAll_eq_ok_iff stored, entities_eq]
    simp only [List.forall_mem_map, Entity.consistent_storedUnder_iff]
  rw [← verified, build, Result.bind_eq_ok]
  constructor
  · rintro ⟨_, passed, built⟩
    cases built
    exact ⟨rfl, passed⟩
  · rintro ⟨rfl, passed⟩
    exact ⟨(), passed, rfl⟩

end SchemaBuilder

end TrackedQuery
