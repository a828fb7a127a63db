import Mathlib.Data.List.Perm.Subperm
import TrackedQuery.Example
import TrackedQuery.Proofs.Query.Meaning
import TrackedQuery.Proofs.Value.Types
import TrackedQuery.Query.Terminal
import TrackedQuery.Session.Script

/-!
# Loading projections as entities

A query that projects distinct columns of its base table can be loaded as instances of the base
entity.  Each projected value belongs in its own column, and the columns left out get their fill
values (`Entity.Holds`).  That is what widening does, in whatever order the columns are projected.
But when the types of the projected columns are, one after the other, such as those of the entity
would accept, the rows are loaded as they are; then each value stays at its position, whatever
column it belongs to (`ProjectedQuery.records_of_entities`).

## Strategy

* `Layout.place_eq_some`: placing distinct columns succeeds, each free column is filled at most once
  and the others stay as they were.
* `Layout.holds_widen`: so a widened row holds the values.
* `Entity.Projects.holds_self_iff`: a projection that is as long as the entity leaves no column out,
  so a row that is loaded as it is holds the values exactly if it holds each at both places.
-/

namespace TrackedQuery

/-! ## Projections of columns -/

/-- The items are the columns of the base table at the given indices, none of them twice. -/
structure Entity.Projects (entity : Entity) (indices : List Nat) (items : List Item) : Prop where
  nodup : indices.Nodup
  items : List.Forall₂ (fun index item => ∃ column ref, entity.columns[index]? = some column ∧
    item = ⟨.column ref, column.ty⟩ ∧ ref.nesting = 0 ∧ ref.table = baseAlias ∧ ref.column = index)
    indices items

/-- The record holds each value of the row in the column that was projected there, and the fill
values of the other columns. -/
structure Entity.Holds (entity : Entity) (indices : List Nat) (row record : Row) : Prop where
  length : record.length = entity.columns.length
  projected : ∀ position index : Nat, indices[position]? = some index →
    record[index]? = row[position]?
  filled : ∀ (index : Nat) column, index ∉ indices → entity.columns[index]? = some column →
    record[index]? = some column.fillValue

theorem Entity.Projects.index_lt {entity : Entity} {indices : List Nat} {items : List Item}
    (projects : entity.Projects indices items) :
    ∀ index ∈ indices, index < entity.columns.length := by
  obtain ⟨-, each⟩ := projects
  induction each with
  | nil => exact fun _ none => absurd none List.not_mem_nil
  | cons first _ ih =>
      obtain ⟨column, _, found, -⟩ := first
      exact List.forall_mem_cons.mpr ⟨(List.getElem?_eq_some_iff.mp found).1, ih⟩

/-- Before anything is placed, every projected column is free. -/
theorem Entity.Projects.free {entity : Entity} {indices : List Nat} {items : List Item}
    (projects : entity.Projects indices items) : ∀ index ∈ indices,
      (List.replicate entity.columns.length (none : Option Nat))[index]? = some none :=
  fun index mem => List.getElem?_replicate_of_lt (projects.index_lt index mem)

/-- A projection that is as long as the entity leaves no column out. -/
theorem Entity.Projects.mem_of_length_eq {entity : Entity} {indices : List Nat} {items : List Item}
    (projects : entity.Projects indices items)
    (length : entity.columns.length = indices.length) {index : Nat}
    (inside : index < entity.columns.length) : index ∈ indices := by
  have within : indices ⊆ List.range entity.columns.length := fun index mem =>
    List.mem_range.mpr (projects.index_lt index mem)
  have perm : indices.Perm (List.range entity.columns.length) :=
    (projects.nodup.subperm within).perm_of_length_le (by simp [length])
  exact perm.mem_iff.mpr (List.mem_range.mpr inside)

namespace Layout

private theorem length_of_acceptsAll {expected found : List Ty}
    (accepted : acceptsAll expected found = true) : expected.length = found.length := by
  induction expected generalizing found with
  | nil =>
      cases found with
      | nil => rfl
      | cons => cases accepted
  | cons ty rest ih =>
      cases found with
      | nil => cases accepted
      | cons other others =>
          rw [acceptsAll, Bool.and_eq_true] at accepted
          rw [List.length_cons, List.length_cons, ih accepted.2]

/-! ## Placing and widening -/

/-- Distinct columns that are free are filled, each from its position, and no other column is
touched. -/
theorem place_eq_some {entity : Entity} {indices : List Nat} {items : List Item}
    (projects : entity.Projects indices items) {sources : List (Option Nat)}
    (free : ∀ index ∈ indices, sources[index]? = some none) (position : Nat) :
    ∃ filled, place entity.columns position sources items = some filled ∧
      filled.length = sources.length ∧
      (∀ offset index : Nat, indices[offset]? = some index →
        filled[index]? = some (some (position + offset))) ∧
      ∀ index : Nat, index ∉ indices → filled[index]? = sources[index]? := by
  obtain ⟨nodup, each⟩ := projects
  induction each generalizing sources position with
  | nil => exact ⟨sources, rfl, rfl, fun _ _ none => by simp at none, fun _ _ => rfl⟩
  | @cons index item indices items first _ ih =>
      obtain ⟨column, ref, hcolumn, rfl, nesting, table, rfl⟩ := first
      obtain ⟨unlisted, nodup⟩ := List.nodup_cons.mp nodup
      obtain ⟨unfilled, free⟩ := List.forall_mem_cons.mp free
      have inside : ref.column < sources.length := (List.getElem?_eq_some_iff.mp unfilled).1
      -- the first column is filled from this position; the others are still free after that
      have others : ∀ index ∈ indices,
          (sources.set ref.column (some position))[index]? = some none := by
        intro index mem
        rw [List.getElem?_set_ne (ne_of_mem_of_not_mem mem unlisted).symm]
        exact free index mem
      obtain ⟨filled, placed, length, placedAt, untouched⟩ := ih others (position + 1) nodup
      refine ⟨filled, ?_, by rw [length, List.length_set], ?_, ?_⟩
      · rw [place, baseColumn?]
        simp only [nesting, table, and_self, if_true, hcolumn, unfilled, Ty.accepts_self]
        exact placed
      · intro offset index found
        cases offset with
        | zero =>
            cases found
            rw [untouched _ unlisted, List.getElem?_set_self inside, Nat.add_zero]
        | succ offset =>
            rw [placedAt offset index found, Nat.add_right_comm, Nat.add_assoc]
      · intro index other
        rw [List.mem_cons, not_or] at other
        obtain ⟨different, unlisted⟩ := other
        rw [untouched index unlisted, List.getElem?_set_ne (Ne.symm different)]

/-- A widened row holds the values. -/
theorem holds_widen {entity : Entity} {indices : List Nat} {items : List Item}
    (projects : entity.Projects indices items) {filled : List (Option Nat)}
    (placed : place entity.columns 0 (List.replicate entity.columns.length none) items =
      some filled) {row : Row} (wide : row.length = indices.length) :
    entity.Holds indices row
      ((List.zipWith origin entity.columns filled).map (valueAt row)) := by
  obtain ⟨found, placed', length, placedAt, untouched⟩ := place_eq_some projects projects.free 0
  obtain rfl : found = filled := Option.some.inj (placed'.symm.trans placed)
  rw [List.length_replicate] at length
  refine ⟨by simp [length], fun position index listed => ?_, fun index column unlisted here => ?_⟩
  · have inside : position < row.length := by
      rw [wide]
      exact (List.getElem?_eq_some_iff.mp listed).1
    have known := projects.index_lt index (List.mem_of_getElem? listed)
    have filledAt := placedAt position index listed
    rw [Nat.zero_add] at filledAt
    simp [List.getElem?_zipWith, List.getElem?_eq_getElem known, filledAt, origin, valueAt,
      List.getElem?_eq_getElem inside]
  · have known : index < entity.columns.length := (List.getElem?_eq_some_iff.mp here).1
    have empty := untouched index unlisted
    rw [List.getElem?_replicate_of_lt known] at empty
    simp [List.getElem?_zipWith, here, empty, origin, valueAt]

/-- A projection of distinct columns that is not taken as it is has a layout. -/
theorem forEntity_eq_ok {entity : Entity} {indices : List Nat} {plan : Plan}
    (projects : entity.Projects indices plan.projection) (base : plan.source.entity = entity.name)
    (mapped : acceptsAll entity.shape plan.shape = false) :
    ∃ layout, forEntity entity plan = .ok (some layout) ∧ ∀ row : Row,
      row.length = indices.length →
        ∃ record, layout.widen row = .ok record ∧ entity.Holds indices row record := by
  obtain ⟨filled, placed, -⟩ := place_eq_some projects projects.free 0
  refine ⟨⟨List.zipWith origin entity.columns filled, plan.projection.length⟩, ?_, ?_⟩
  · unfold forEntity
    rw [if_neg (by simp [mapped]), if_pos base, placed]
  · intro row wide
    refine ⟨_, if_pos ?_, holds_widen projects placed wide⟩
    rw [wide, projects.items.length_eq]

end Layout

/-- A row that is taken as it is, and is as long as the entity, holds the values if it has each of
them also at the index of its column. -/
theorem Entity.Projects.holds_self_iff {entity : Entity} {indices : List Nat} {items : List Item}
    (projects : entity.Projects indices items)
    (length : entity.columns.length = indices.length) {row : Row}
    (wide : row.length = indices.length) :
    entity.Holds indices row row ↔
      ∀ position index : Nat, indices[position]? = some index → row[index]? = row[position]? := by
  constructor
  · exact Holds.projected
  · refine fun same => ⟨by rw [wide, length], same, fun index column unlisted here => ?_⟩
    exact absurd (projects.mem_of_length_eq length (List.getElem?_eq_some_iff.mp here).1) unlisted

/-! ## Running -/

section Running

variable {δ : Type} {schema : Schema} {type : EntityType} {entity : Entity} {plan : Plan}
  {rows : List Row} {world after : World δ}

/-- Rows that are not captured are loaded one after the other, until one fails. -/
theorem loadEach_none (tracking : Tracking)
    (wide : ∀ row ∈ rows, row.length = entity.columns.length) :
    loadEach entity type none tracking rows = (rows.mapM type.load, tracking) := by
  induction rows with
  | nil => rfl
  | cons row rest ih =>
      obtain ⟨first, others⟩ := List.forall_mem_cons.mp wide
      rw [loadEach, if_pos first, List.mapM_cons]
      simp only [captureRow, ih others]
      cases type.load row with
      | error => rfl
      | ok loaded => cases rest.mapM type.load <;> rfl

theorem loadRows_none (registered : schema.resolve type.name = .ok entity)
    (wide : ∀ row ∈ rows, row.length = entity.columns.length) :
    loadRows schema type none rows world = (rows.mapM type.load, world) := by
  unfold loadRows
  rw [registered]
  show ((loadEach entity type none world.tracking rows).1,
    { world with tracking := (loadEach entity type none world.tracking rows).2 }) = _
  rw [loadEach_none world.tracking wide]

/-- What follows an action continues with its answer in the world after it. -/
theorem bind_eq {α β : Type} {action : WorldM δ α} {next : α → WorldM δ β} {answer : α}
    (ran : action world = (answer, after)) : (action >>= next) world = next answer after := by
  show next (action world).1 (action world).2 = _
  rw [ran]

theorem fetchRows_eq (answered : world.send (.query plan) = (.ok (.rows rows), after)) :
    fetchRows plan world = (.ok rows, after) := by
  have sent : sendOperation (.query plan) world = (.ok (.rows rows), after) := answered
  exact bind_eq sent

/-- Rows that have the shape of an entity are loaded as they are. -/
theorem Task.run_load (registered : schema.resolve type.name = .ok entity)
    (answered : world.send (.query plan) = (.ok (.rows rows), after))
    (wide : ∀ row ∈ rows, row.length = entity.columns.length) :
    (Task.load schema type plan none (.ok ∘ Outcome.list)).run world =
      ((rows.mapM type.load).map .list, after) := by
  have loaded : loadPlan schema type plan none world = (rows.mapM type.load, after) :=
    (bind_eq (fetchRows_eq answered)).trans (loadRows_none registered wide)
  refine (bind_eq loaded).trans ?_
  cases rows.mapM type.load <;> rfl

/-- Other rows are widened before they are loaded. -/
theorem Task.run_widen {layout : Layout} {records : List Row}
    (registered : schema.resolve type.name = .ok entity)
    (answered : world.send (.query plan) = (.ok (.rows rows), after))
    (widened : layout.widenAll rows = .ok records)
    (wide : ∀ record ∈ records, record.length = entity.columns.length) :
    (Task.widen schema type plan layout).run world =
      ((records.mapM type.load).map .list, after) := by
  refine (bind_eq (fetchRows_eq answered)).trans ?_
  rw [Except.bind, widened]
  exact bind_eq (loadRows_none registered wide)

/-- Rows of the projected width are all widened. -/
theorem Layout.widenAll_eq_ok {layout : Layout} {holds : Row → Row → Prop}
    (each : ∀ row ∈ rows, ∃ record, layout.widen row = .ok record ∧ holds row record) :
    ∃ records, layout.widenAll rows = .ok records ∧ List.Forall₂ holds rows records := by
  induction rows with
  | nil => exact ⟨[], rfl, .nil⟩
  | cons row rest ih =>
      obtain ⟨first, others⟩ := List.forall_mem_cons.mp each
      obtain ⟨record, hrecord, here⟩ := first
      obtain ⟨records, hrecords, there⟩ := ih others
      exact ⟨record :: records, by rw [widenAll, hrecord, hrecords]; rfl, .cons here there⟩

end Running

/-- What is loaded from the rows of a query that projects distinct columns of its base table, each
row as wide as the projection.  The record that is loaded from a row holds each value in its own
column, unless the rows already have the shape of the entity; then the record is the row itself, and
it does so only where the projected order makes no difference to the row. -/
theorem ProjectedQuery.records_of_entities {query : ProjectedQuery} {context : Context}
    {connection : Connection} (type : EntityType) {entity : Entity} {indices : List Nat}
    {plan : Plan} (home : query.home = some connection)
    (registered : connection.schema.resolve type.name = .ok entity)
    (schema : context.schema = connection.schema) (base : context.base = type.name)
    (projects : entity.Projects indices query.items)
    (compiled : query.clauses.compile context (some query.items) query.grouping = .ok plan) :
    plan.projection = query.items ∧
    ∃ task, query.start context (.entities type) = .ok task ∧
      ∀ {δ : Type} (world after : World δ) (rows : List Row),
        world.send (.query plan) = (.ok (.rows rows), after) →
        (∀ row ∈ rows, row.length = indices.length) →
          ∃ records, task.run world = ((records.mapM type.load).map .list, after) ∧
            List.Forall₂ (fun row record =>
              (Layout.acceptsAll entity.shape plan.shape = true → record = row) ∧
              (entity.Holds indices row record ↔
                (Layout.acceptsAll entity.shape plan.shape = true → ∀ position index : Nat,
                  indices[position]? = some index → row[index]? = row[position]?)))
              rows records := by
  obtain ⟨entity', items, joins, resolved, projected, -, hplan⟩ := Clauses.compile_eq_ok compiled
  have same : entity' = entity := by
    rw [schema, base, registered] at resolved
    exact (Except.ok.inj resolved).symm
  have projection : plan.projection = query.items := by
    rw [hplan]
    unfold projectionOf at projected
    split at projected
    · next none => cases none
    · cases projected
    · next some =>
        cases some
        exact (Except.ok.inj projected).symm
  refine ⟨projection, ?_⟩
  have placed : entity.Projects indices plan.projection := by rwa [projection]
  have length : indices.length = plan.shape.length := by
    rw [Plan.shape, Item.shape, List.length_map, placed.items.length_eq]
  have started : query.start context (.entities type) =
      (Layout.forEntity entity plan).map fun layout =>
        layout.elim (.load connection.schema type plan none (.ok ∘ Outcome.list))
          fun layout => .widen connection.schema type plan layout := by
    unfold start homeOf
    rw [home]
    simp only [bind, Except.bind, compiled, registered]
    cases Layout.forEntity entity plan with
    | error => rfl
    | ok layout => cases layout <;> rfl
  -- the layout is positional as soon as the types are accepted, whatever columns have them
  cases accepted : Layout.acceptsAll entity.shape plan.shape with
  | true =>
      have wide : entity.columns.length = indices.length := by
        rw [length, ← Layout.length_of_acceptsAll accepted, Entity.shape, List.length_map]
      rw [Layout.forEntity, if_pos accepted] at started
      refine ⟨_, started, fun world after rows answered rowsWide => ⟨rows, ?_, ?_⟩⟩
      · exact Task.run_load registered answered fun row mem => (rowsWide row mem).trans wide.symm
      · refine List.forall₂_same.mpr fun row mem => ⟨fun _ => rfl, ?_⟩
        rw [placed.holds_self_iff wide (rowsWide row mem)]
        simp
  | false =>
      have source : plan.source.entity = entity.name := by rw [hplan, same]
      obtain ⟨layout, found, widens⟩ := Layout.forEntity_eq_ok placed source accepted
      rw [found] at started
      refine ⟨_, started, fun world after rows answered rowsWide => ?_⟩
      obtain ⟨records, widened, holds⟩ :=
        Layout.widenAll_eq_ok fun row mem => widens row (rowsWide row mem)
      have wide : ∀ record ∈ records, record.length = entity.columns.length := by
        have held : List.Forall₂ (fun (record : Row) (_ : Row) =>
            record.length = entity.columns.length ∧ True) records rows :=
          List.Forall₂.flip (holds.imp fun _ _ held => ⟨held.length, trivial⟩)
        exact ((List.forall₂_and_left records rows).mp held).1
      refine ⟨records, Task.run_widen registered answered widened wide, holds.imp ?_⟩
      intro row record held
      simp [held]

namespace Example

/-- The tags of blogs, with the key the other way round than it is declared. -/
def taggings : ProjectedQuery :=
  { context := 0
    home := some connection
    clauses := .initial
    items := [⟨.column (.local baseAlias 1), .string⟩, ⟨.column (.local baseAlias 0), .string⟩,
      ⟨.column (.local baseAlias 2), .int32⟩]
    grouping := none }

/-- The context of the query. -/
def taggingContext : Context := .start connection.schema connection.options [] "BlogTag"

/-- The plan of the query. -/
def taggingPlan : Plan :=
  { source := ⟨"BlogTag", "blog_tag", baseAlias, some 0⟩
    joins := []
    filter := none
    projection := taggings.items
    groupBy := []
    having := none
    orderBy := []
    window := none
    arms := [] }

/-- A row of the answer: the tag, the blog that has it, and the weight. -/
def taggingRow : Row := [.string "lean", .string "b1", .int32 3]

/-- A database that answers with that row. -/
def taggingWorld : World Script := ⟨Script.database, ⟨[.ok (.rows [taggingRow])], []⟩, .empty⟩

private theorem projects_taggings : blogTag.Projects [1, 0, 2] taggings.items where
  nodup := by decide
  items := .cons ⟨_, _, rfl, rfl, rfl, rfl, rfl⟩ (.cons ⟨_, _, rfl, rfl, rfl, rfl, rfl⟩
    (.cons ⟨_, _, rfl, rfl, rfl, rfl, rfl⟩ .nil))

/-- The instance has the tag for a blog and the blog for a tag, because both are texts. -/
theorem records_of_entities_taggings :
    ∃ task, taggings.start taggingContext (.entities (.ofEntity "BlogTag" blogTag)) = .ok task ∧
      (task.run taggingWorld).1 = .ok (.list [⟨"BlogTag", taggingRow⟩]) ∧
      ¬ blogTag.Holds [1, 0, 2] taggingRow taggingRow := by
  have compiled : taggings.clauses.compile taggingContext (some taggings.items) taggings.grouping =
      .ok taggingPlan := rfl
  have answered : taggingWorld.send (.query taggingPlan) =
      (.ok (.rows [taggingRow]), (taggingWorld.send (.query taggingPlan)).2) := rfl
  obtain ⟨-, task, started, runs⟩ := ProjectedQuery.records_of_entities
    (.ofEntity "BlogTag" blogTag) rfl rfl rfl rfl projects_taggings compiled
  obtain ⟨records, ran, each⟩ := runs taggingWorld _ _ answered (List.forall_mem_singleton.mpr rfl)
  obtain ⟨record, none, ⟨asIs, holds⟩, rest, rfl⟩ := List.forall₂_cons_left_iff.mp each
  cases rest
  have accepted : Layout.acceptsAll blogTag.shape taggingPlan.shape = true := rfl
  obtain rfl : record = taggingRow := asIs accepted
  refine ⟨task, started, by rw [ran]; rfl, fun held => ?_⟩
  -- the tag was projected first, and the first column is the one of the blog
  exact absurd (holds.mp held accepted 0 1 rfl) (by simp [taggingRow])

end Example

end TrackedQuery
