import RecordSql.Proofs.Resolution
/-! # How renderings are put together

A statement is rendered by primitive steps, one after another. The only step that touches the
registry asks for the model of an entity, and a rendering asks for no entity but those that its
expressions, tables and qualified columns mention. So it only adds registrations of these, and
every model that it asked for stays in force (`Composed.grows`, `Composed.run_again`). -/
set_option autoImplicit false
namespace RecordSql

/-! ## Entities that are mentioned -/

def Column.entities (c : Column) : List Entity := (c.table.map Table.entity).toList

mutual

def Expr.entities : Expr → List Entity
  | .predicate p => p.entities
  | .column c => c.entities
  | .value _ => []
  | .raw _ => []
  | .assignment _ value => value.entities

def Predicate.entities : Predicate → List Entity
  | .compare left _ right => left.entities ++ right.entities
  | .and left right => left.entities ++ right.entities
  | .or left right => left.entities ++ right.entities
  | .not p => p.entities
  | .raw _ => []

end

def Source.entities : Source → List Entity
  | .table t => [t.entity]
  | .join _ left right _ conditions =>
    left.entities ++ right.entities ++ conditions.flatMap Predicate.entities

def Assignable.entities : Assignable → List Entity
  | .assignment a => a.value.entities
  | .column c => c.entities

def Selectable.entities : Selectable → List Entity
  | .column c => c.entities
  | .aggregate _ => []
  | .raw _ => []

def Upsert.entities (u : Upsert) : List Entity := u.assignments.flatMap Assignable.entities

def Select.entities (s : Select) : List Entity :=
  s.projection.flatMap Selectable.entities ++ s.source.toList.flatMap Source.entities ++
    s.conditions.flatMap Predicate.entities ++ s.groupBy.flatMap Column.entities ++
    s.having.flatMap Predicate.entities ++ s.orderBy.flatMap fun key => key.column.entities

/-- The entities that a statement mentions: its own, unless it is raw, and those of its tables
and qualified columns. -/
def Statement.entities {e : Entity} : Statement e → List Entity
  | select s => e :: s.entities
  | insert s => e :: s.upsert.toList.flatMap Upsert.entities
  | update s =>
    e :: (s.assignments.flatMap Assignable.entities ++ s.conditions.flatMap Predicate.entities)
  | delete s => e :: s.conditions.flatMap Predicate.entities
  | raw _ => []

theorem subset_of_flatMap_subset {α : Type} {f : α → List Entity} {items : List α}
    {asked : List Entity} (within : items.flatMap f ⊆ asked) {a : α} (member : a ∈ items) :
    f a ⊆ asked := by
  intro e mentioned
  exact within (List.mem_flatMap.mpr ⟨a, member, mentioned⟩)

/-! ## What a registry gains -/

namespace Registry

/-- The registry after has further registrations, each without options, of one of the entities
that had none. -/
def Grows (asked : List Entity) (before after : Registry) : Prop :=
  ∃ added, after.history = added ++ before.history ∧ ∀ entry ∈ added,
    before.find? entry.entity = none ∧
      ∃ f ∈ asked, f.identity = entry.entity ∧ f.typeName = entry.typeName ∧
        Model.ofEntity f [] = .ok entry.model

variable {asked : List Entity} {before middle after later : Registry} {e : Entity} {model : Model}

theorem grows_refl (r : Registry) : r.Grows asked r := ⟨[], rfl, by simp⟩

theorem find?_of_history {added : List Registration}
    (history : after.history = added ++ before.history) (identity : Nat) :
    after.find? identity =
      ((added.find? fun entry => entry.entity == identity).map Registration.model).or
        (before.find? identity) := by
  rw [find?, history, List.find?_append, Option.map_or, find?]

/-- Whatever model was in force still is: the registrations that are added are of others. -/
theorem Grows.extends (grown : before.Grows asked after) : after.Extends before := by
  intro identity m known
  obtain ⟨added, history, fresh⟩ := grown
  have others : added.find? (fun entry => entry.entity == identity) = none := by
    rw [List.find?_eq_none]
    intro entry member same
    have missing := (fresh entry member).1
    rw [eq_of_beq same, known] at missing
    contradiction
  rw [find?_of_history history, others, Option.map_none, Option.none_or, known]

/-- A model that is new in force is that of a mentioned entity without options. -/
theorem Grows.derives {identity : Nat} (grown : before.Grows asked after)
    (missing : before.find? identity = none) (found : after.find? identity = some model) :
    ∃ f ∈ asked, f.identity = identity ∧ Model.ofEntity f [] = .ok model := by
  obtain ⟨added, history, fresh⟩ := grown
  rw [find?_of_history history, missing, Option.or_none, Option.map_eq_some_iff] at found
  obtain ⟨entry, chosen, rfl⟩ := found
  obtain ⟨-, f, mentioned, same, -, derived⟩ := fresh entry (List.mem_of_find?_eq_some chosen)
  have identified := List.find?_some chosen
  exact ⟨f, mentioned, same.trans (eq_of_beq identified), derived⟩

theorem Grows.trans (first : before.Grows asked middle) (second : middle.Grows asked after) :
    before.Grows asked after := by
  have keeps := first.extends
  obtain ⟨earlier, history, fresh⟩ := first
  obtain ⟨added, further, freshLater⟩ := second
  refine ⟨added ++ earlier, by rw [further, history, List.append_assoc], ?_⟩
  intro entry member
  rcases List.mem_append.mp member with new | old
  · obtain ⟨missing, asks⟩ := freshLater entry new
    refine ⟨?_, asks⟩
    cases known : before.find? entry.entity with
    | none => rfl
    | some m => simp [keeps _ _ known] at missing
  · exact fresh entry old

theorem Grows.eq_of_nil (grown : before.Grows [] after) : after = before := by
  obtain ⟨added, history, fresh⟩ := grown
  cases added with
  | nil => exact congrArg Registry.mk history
  | cons entry rest =>
    obtain ⟨-, f, mentioned, -⟩ := fresh entry List.mem_cons_self
    exact absurd mentioned List.not_mem_nil

theorem grows_get (success : before.get e = .ok (model, after)) (mentioned : e ∈ asked) :
    before.Grows asked after := by
  unfold get at success
  split at success
  next known found =>
    simp only [Except.ok.injEq, Prod.mk.injEq] at success
    obtain ⟨rfl, rfl⟩ := success
    exact grows_refl before
  next missing =>
    unfold register at success
    split at success
    next => simp at success
    next made derived =>
      simp only [Except.ok.injEq, Prod.mk.injEq] at success
      obtain ⟨rfl, rfl⟩ := success
      refine ⟨[⟨e.identity, e.typeName, made⟩], rfl, ?_⟩
      intro entry member
      obtain rfl := List.mem_singleton.mp member
      exact ⟨missing, e, mentioned, rfl, rfl, derived⟩

/-- A model that was had once can be had again, without a registration. -/
theorem get_of_extends (got : before.get e = .ok (model, after)) (grown : later.Extends after) :
    later.get e = .ok (model, later) := by
  have inForce := grown _ _ (extends_get got).2
  rw [get, inForce]

end Registry

open Render

namespace Render

/-- A rendering that is put together from the primitive ones and asks for the models of these
entities only. -/
inductive Composed (asked : List Entity) : {α : Type} → Render α → Prop
  | pure {α : Type} (a : α) : Composed asked (Pure.pure a : Render α)
  | fail {α : Type} (e : Error) : Composed asked (Render.fail e : Render α)
  | ofExcept {α : Type} (x : Except Error α) : Composed asked (Render.ofExcept x)
  | emit (piece : Piece) : Composed asked (Render.emit piece)
  | ownModel : Composed asked Render.ownModel
  | modelOf (e : Entity) (mentioned : e ∈ asked) : Composed asked (Render.modelOf e)
  | bind {α β : Type} {x : Render α} {f : α → Render β} (first : Composed asked x)
      (second : ∀ a, Composed asked (f a)) : Composed asked (x >>= f)

variable {α : Type} {m : Model} {asked : List Entity}

theorem composed_write (s : String) : (write s).Composed asked := .emit (.text s)

theorem composed_quoted (s : String) : (quoted s).Composed asked := .emit (.name s)

theorem composed_ownColumn (field : String) : (ownColumn field).Composed asked :=
  .bind .ownModel fun model => .ofExcept (model.columnOf field)

theorem Composed.parenthesized {x : Render Unit} (inside : x.Composed asked) :
    (parenthesized x).Composed asked :=
  (composed_write "(").bind fun _ => inside.bind fun _ => composed_write ")"

theorem composed_commaTail {item : α → Render Unit} {items : List α}
    (each : ∀ a ∈ items, (item a).Composed asked) : (commaTail item items).Composed asked := by
  induction items with
  | nil => exact .pure ()
  | cons a rest ih =>
    have head := each a List.mem_cons_self
    have tail := ih fun b member => each b (List.mem_cons_of_mem a member)
    exact (composed_write ",").bind fun _ => head.bind fun _ => tail

theorem composed_commaList {item : α → Render Unit} {items : List α}
    (each : ∀ a ∈ items, (item a).Composed asked) : (commaList item items).Composed asked := by
  cases items with
  | nil => exact .pure ()
  | cons a rest =>
    have head := each a List.mem_cons_self
    have tail := composed_commaTail fun b member => each b (List.mem_cons_of_mem a member)
    exact head.bind fun _ => tail

/-- A rendering only adds registrations, of the entities that it asks for. -/
theorem Composed.grows {x : Render α} (composed : x.Composed asked) (r : Registry) :
    r.Grows asked (x m r).registry := by
  induction composed generalizing r with
  | pure a => exact Registry.grows_refl r
  | fail e => exact Registry.grows_refl r
  | ofExcept x => exact Registry.grows_refl r
  | emit piece => exact Registry.grows_refl r
  | ownModel => exact Registry.grows_refl r
  | modelOf e mentioned =>
    cases got : r.get e with
    | error err => simpa only [Render.modelOf, got] using Registry.grows_refl r
    | ok found => simpa only [Render.modelOf, got] using Registry.grows_get got mentioned
  | @bind _ _ x f first second ihFirst ihSecond =>
    have grown := ihFirst r
    cases result : (x m r).result with
    | error e => simpa only [Bind.bind, Render.bind, result] using grown
    | ok a =>
      have further := ihSecond a (x m r).registry
      simpa only [Bind.bind, Render.bind, result] using grown.trans further

/-- Run again where all its models are in force, a rendering writes the same with the same
result and registers nothing. After a failure this is known only of the registry that was
left then, since the model that could not be had may have been registered later. -/
theorem Composed.run_again {x : Render α} (composed : x.Composed asked) {r later : Registry}
    (grown : later.Extends (x m r).registry)
    (failed : ∀ e, (x m r).result = .error e → later = (x m r).registry) :
    x m later = ⟨(x m r).pieces, later, (x m r).result⟩ := by
  induction composed generalizing r later with
  | pure a => rfl
  | fail e => rfl
  | ofExcept x => rfl
  | emit piece => rfl
  | ownModel => rfl
  | modelOf e _ =>
    cases got : r.get e with
    | error err =>
      simp only [Render.modelOf, got] at failed ⊢
      rw [failed err rfl, got]
    | ok found =>
      simp only [Render.modelOf, got] at grown
      simp only [Render.modelOf, got, Registry.get_of_extends got grown]
  | @bind _ _ x f first second ihFirst ihSecond =>
    cases result : (x m r).result with
    | error e =>
      simp only [Bind.bind, Render.bind, result] at grown failed ⊢
      have again := ihFirst grown fun _ _ => failed e rfl
      rw [again, result]
    | ok a =>
      simp only [Bind.bind, Render.bind, result] at grown failed ⊢
      -- What the first rendering registered is still there behind the second one.
      have further := ((second a).grows (m := m) (x m r).registry).extends
      have again := ihFirst (grown.trans further) fun e error => by simp [result] at error
      have next := ihSecond a grown failed
      rw [again, result]
      simp only [next]

end Render

/-! ## Every statement is put together from primitive renderings -/

variable {asked : List Entity}

theorem composed_renderAlias (aliasName : Option String) :
    (renderAlias aliasName).Composed asked := by
  cases aliasName with
  | none => exact .pure ()
  | some name => exact (composed_write " AS ").bind fun _ => composed_quoted name

theorem composed_quotedColumn (field : String) :
    (do quoted (← ownColumn field) : Render Unit).Composed asked :=
  (composed_ownColumn field).bind composed_quoted

theorem Column.composed_render {c : Column} (within : c.entities ⊆ asked) :
    c.render.Composed asked := by
  obtain ⟨field, shown, table⟩ := c
  cases table with
  | none => exact composed_quotedColumn field
  | some t =>
    have mentioned : t.entity ∈ asked := within (List.mem_singleton.mpr rfl)
    refine .bind (.modelOf t.entity mentioned) fun model => .bind (.ofExcept _) fun column => ?_
    cases t.aliasName with
    | none => exact composed_quoted column
    | some name =>
      exact (composed_quoted name).bind fun _ => (composed_write ".").bind fun _ =>
        composed_quoted column

mutual

theorem Expr.composed_renderOperand : (e : Expr) → e.entities ⊆ asked →
    e.renderOperand.Composed asked
  | .predicate p, within => by
    rw [Expr.entities] at within
    rw [Expr.renderOperand]
    exact (p.composed_render within).parenthesized
  | .column c, within => by
    rw [Expr.entities] at within
    rw [Expr.renderOperand]
    exact Column.composed_render within
  | .value v, _ => by
    rw [Expr.renderOperand]
    exact .emit (.bound v)
  | .raw r, _ => by
    rw [Expr.renderOperand]
    exact Composed.parenthesized (.emit (.raw r))
  | .assignment field value, _ => by
    rw [Expr.renderOperand]
    exact .fail (misplacedAssignment field)

theorem Predicate.composed_render : (p : Predicate) → p.entities ⊆ asked →
    p.render.Composed asked
  | .compare left op right, within => by
    rw [Predicate.entities, List.append_subset] at within
    rw [Predicate.render]
    exact (Column.composed_render within.1).bind fun _ => (composed_write _).bind fun _ =>
      right.composed_renderOperand within.2
  | .and left right, within => by
    rw [Predicate.entities, List.append_subset] at within
    rw [Predicate.render]
    exact (left.composed_render within.1).parenthesized.bind fun _ =>
      (composed_write " AND ").bind fun _ => (right.composed_render within.2).parenthesized
  | .or left right, within => by
    rw [Predicate.entities, List.append_subset] at within
    rw [Predicate.render]
    exact (left.composed_render within.1).parenthesized.bind fun _ =>
      (composed_write " OR ").bind fun _ => (right.composed_render within.2).parenthesized
  | .not p, within => by
    rw [Predicate.entities] at within
    rw [Predicate.render]
    exact (composed_write "NOT ").bind fun _ => (p.composed_render within).parenthesized
  | .raw r, _ => by
    rw [Predicate.render]
    exact Composed.parenthesized (.emit (.raw r))

end

theorem Expr.composed_render {e : Expr} (within : e.entities ⊆ asked) :
    e.render.Composed asked := by
  cases e with
  | predicate p =>
    rw [Expr.entities] at within
    rw [Expr.render]
    exact p.composed_render within
  | column c => exact Expr.composed_renderOperand (.column c) within
  | value v => exact Expr.composed_renderOperand (.value v) within
  | raw r => exact Expr.composed_renderOperand (.raw r) within
  | assignment field value => exact Expr.composed_renderOperand (.assignment field value) within

theorem entities_foldl_and (p : Predicate) (rest : List Predicate) :
    (rest.foldl .and p).entities = p.entities ++ rest.flatMap Predicate.entities :=
  flatMap_foldl_and (fun _ _ => by rw [Predicate.entities]) p rest

theorem composed_renderClause (keyword : String) {conditions : List Predicate}
    (within : conditions.flatMap Predicate.entities ⊆ asked) :
    (renderClause keyword conditions).Composed asked := by
  cases conditions with
  | nil => exact .pure ()
  | cons p rest =>
    rw [List.flatMap_cons, ← entities_foldl_and] at within
    exact (composed_write keyword).bind fun _ => Predicate.composed_render _ within

theorem composed_renderList {α : Type} {item : α → Render Unit} {items : List α}
    (each : ∀ a ∈ items, (item a).Composed asked) (keyword : String) :
    (renderList keyword item items).Composed asked := by
  cases items with
  | nil => exact .pure ()
  | cons a rest => exact (composed_write keyword).bind fun _ => composed_commaList each

theorem composed_renderCount (keyword : String) (count : Option UInt64) :
    (renderCount keyword count).Composed asked := by
  cases count with
  | none => exact .pure ()
  | some n => exact (composed_write keyword).bind fun _ => .emit (.bound (.uint n))

theorem Assignment.composed_render {a : Assignment} (within : a.value.entities ⊆ asked) :
    a.render.Composed asked :=
  (composed_ownColumn a.field).bind fun column => (composed_quoted column).bind fun _ =>
    (composed_write "=").bind fun _ => Expr.composed_render within

theorem composed_renderUsing (fields : List String) : (renderUsing fields).Composed asked := by
  cases fields with
  | nil => exact .pure ()
  | cons field rest =>
    exact (composed_write " USING (").bind fun _ =>
      (composed_commaList fun name _ => composed_quotedColumn name).bind fun _ =>
        composed_write ")"

theorem Source.composed_render {s : Source} (within : s.entities ⊆ asked) :
    s.render.Composed asked := by
  induction s with
  | table t =>
    have mentioned : t.entity ∈ asked := within (List.mem_singleton.mpr rfl)
    exact .bind (.modelOf t.entity mentioned) fun model => (composed_quoted model.table).bind
      fun _ => composed_renderAlias t.aliasName
  | join kind left right fields conditions ihLeft ihRight =>
    rw [Source.entities, List.append_subset, List.append_subset] at within
    obtain ⟨⟨inLeft, inRight⟩, inConditions⟩ := within
    rw [Source.render]
    exact (composed_write "(").bind fun _ => (ihLeft inLeft).bind fun _ =>
      (composed_write _).bind fun _ => (ihRight inRight).bind fun _ =>
        (composed_renderUsing fields).bind fun _ =>
          (composed_renderClause " ON " inConditions).bind fun _ => composed_write ")"

theorem composed_renderSource {source : Option Source}
    (within : source.toList.flatMap Source.entities ⊆ asked) :
    (renderSource source).Composed asked := by
  cases source with
  | none => exact .bind .ownModel fun model => composed_quoted model.table
  | some s => exact Source.composed_render (subset_of_flatMap_subset within (by simp))

theorem Selectable.composed_render {s : Selectable} (within : s.entities ⊆ asked) :
    s.render.Composed asked := by
  cases s with
  | column c =>
    exact (Column.composed_render within).bind fun _ => composed_renderAlias c.aliasName
  | aggregate a =>
    exact (composed_write a.function.sql).bind fun _ =>
      (composed_quotedColumn a.field).parenthesized.bind fun _ => composed_renderAlias a.aliasName
  | raw r => exact .emit (.raw r)

theorem SortKey.composed_render {key : SortKey} (within : key.column.entities ⊆ asked) :
    key.render.Composed asked :=
  (Column.composed_render within).bind fun _ => composed_write _

theorem Select.composed_render {s : Select} (within : s.entities ⊆ asked) :
    s.render.Composed asked := by
  simp only [Select.entities, List.append_subset] at within
  obtain ⟨⟨⟨⟨⟨inProjection, inSource⟩, inConditions⟩, inGroups⟩, inHaving⟩, inOrder⟩ := within
  have projection : (renderProjection s.projection).Composed asked := by
    unfold renderProjection
    split
    next => exact composed_write "*"
    next =>
      exact composed_commaList fun item member =>
        Selectable.composed_render (subset_of_flatMap_subset inProjection member)
  have groups := composed_renderList (fun c member =>
    Column.composed_render (subset_of_flatMap_subset inGroups member)) " GROUP BY "
  have order := composed_renderList (fun key member =>
    SortKey.composed_render (subset_of_flatMap_subset inOrder member)) " ORDER BY "
  exact (composed_write "SELECT ").bind fun _ => projection.bind fun _ =>
    (composed_write " FROM ").bind fun _ => (composed_renderSource inSource).bind fun _ =>
      (composed_renderClause " WHERE " inConditions).bind fun _ => groups.bind fun _ =>
        (composed_renderClause " HAVING " inHaving).bind fun _ => order.bind fun _ =>
          (composed_renderCount " LIMIT " s.limit).bind fun _ =>
            composed_renderCount " OFFSET " s.offset

theorem composed_assignableColumn (c : Column) : (assignableColumn c).Composed asked := by
  unfold assignableColumn
  split
  next => exact .fail (.unsupportedAssignable c.name)
  next => exact composed_ownColumn c.name

namespace Upsert

theorem composed_renderItem (before after : String) {item : Assignable}
    (within : item.entities ⊆ asked) : (renderItem before after item).Composed asked := by
  cases item with
  | assignment a => exact Assignment.composed_render within
  | column c =>
    exact (composed_assignableColumn c).bind fun column => (composed_quoted column).bind fun _ =>
      (composed_write before).bind fun _ => (composed_quoted column).bind fun _ =>
        composed_write after

theorem composed_renderItems (before after : String) {u : Upsert} (within : u.entities ⊆ asked) :
    (commaList (renderItem before after) u.assignments).Composed asked :=
  composed_commaList fun _ member =>
    composed_renderItem before after (subset_of_flatMap_subset within member)

theorem composed_renderTarget (u : Upsert) : u.renderTarget.Composed asked := by
  unfold renderTarget
  split
  next => exact composed_write " ON CONFLICT DO UPDATE SET "
  next =>
    exact (composed_write " ON CONFLICT(").bind fun _ =>
      (composed_commaList fun name _ => composed_quotedColumn name).bind fun _ =>
        composed_write ") DO UPDATE SET "

theorem composed_renderConflict {u : Upsert} (within : u.entities ⊆ asked) :
    u.renderConflict.Composed asked :=
  u.composed_renderTarget.bind fun _ => composed_renderItems "=excluded." "" within

theorem composed_render (dialect : Dialect) {u : Upsert} (within : u.entities ⊆ asked) :
    (u.render dialect).Composed asked := by
  unfold render
  split
  next =>
    exact (composed_write " ON DUPLICATE KEY UPDATE ").bind fun _ =>
      composed_renderItems "=VALUES(" ")" within
  next => exact composed_renderConflict within
  next =>
    split
    next => exact .fail _
    next => exact composed_renderConflict within

end Upsert

section Records

variable {e : Entity}

theorem Insert.composed_render (style : Style) {s : Insert e}
    (within : s.upsert.toList.flatMap Upsert.entities ⊆ asked) :
    (s.render style).Composed asked := by
  have cell (r : e.Record) (field : MappedField) :
      (renderCell style.materializer r field).Composed asked :=
    .bind .ownModel fun m => .bind (.ofExcept _) fun v => .emit (.bound v)
  refine .bind .ownModel fun m => .bind (.ofExcept _) fun fields => ?_
  have columns : (commaList (fun field => quoted field.column) fields).Composed asked :=
    composed_commaList fun field _ => composed_quoted field.column
  have row (r : e.Record) : (commaList (renderCell style.materializer r) fields).Composed asked :=
    composed_commaList fun field _ => cell r field
  have rows := composed_commaList fun r (_ : r ∈ s.records) => (row r).parenthesized
  refine (composed_write "INSERT INTO ").bind fun _ => (composed_quoted m.table).bind fun _ =>
    columns.parenthesized.bind fun _ => (composed_write " VALUES ").bind fun _ =>
      rows.bind fun _ => ?_
  split
  next => exact .pure ()
  next upsert given =>
    rw [given] at within
    exact Upsert.composed_render style.dialect (subset_of_flatMap_subset within (by simp))

namespace Update

theorem composed_renderField (k : Materializer) (r : e.Record) (name column : String) :
    (renderField k r name column).Composed asked :=
  .bind .ownModel fun _ => (composed_quoted column).bind fun _ => (composed_write "=").bind fun _ =>
    .bind (.ofExcept _) fun v => .emit (.bound v)

theorem composed_renderItem (k : Materializer) (record : Option e.Record) {item : Assignable}
    (within : item.entities ⊆ asked) : (renderItem k record item).Composed asked := by
  cases item with
  | assignment a => exact Assignment.composed_render within
  | column c =>
    simp only [renderItem]
    split
    next r _ => exact (composed_ownColumn c.name).bind (composed_renderField k r c.name)
    next => exact .fail _

theorem composed_renderAssignments (k : Materializer) {s : Update e}
    (within : s.assignments.flatMap Assignable.entities ⊆ asked) :
    (s.renderAssignments k).Composed asked := by
  unfold renderAssignments
  split
  next => exact .fail .emptyAssignments
  next r _ _ =>
    exact .bind .ownModel fun m => composed_commaList fun field _ =>
      composed_renderField k r field.name field.column
  next listed =>
    rw [listed] at within
    exact composed_commaList fun _ member =>
      composed_renderItem k s.record (subset_of_flatMap_subset within member)

theorem composed_render (style : Style) {s : Update e}
    (inAssignments : s.assignments.flatMap Assignable.entities ⊆ asked)
    (inConditions : s.conditions.flatMap Predicate.entities ⊆ asked) :
    (s.render style).Composed asked := by
  have body (m : Model) : (do
      write "UPDATE "
      quoted m.table
      write " SET "
      renderAssignments style.materializer s
      renderClause " WHERE " s.conditions : Render Unit).Composed asked :=
    (composed_write "UPDATE ").bind fun _ => (composed_quoted m.table).bind fun _ =>
      (composed_write " SET ").bind fun _ =>
        (composed_renderAssignments style.materializer inAssignments).bind fun _ =>
          composed_renderClause " WHERE " inConditions
  refine .bind .ownModel fun m => ?_
  split
  next => exact .bind (.fail .emptyAssignments) fun _ => body m
  next => exact body m

end Update

theorem Delete.composed_render {s : Delete}
    (within : s.conditions.flatMap Predicate.entities ⊆ asked) : s.render.Composed asked :=
  .bind .ownModel fun _ => (composed_write "DELETE FROM ").bind fun _ =>
    (composed_quoted _).bind fun _ => composed_renderClause " WHERE " within

theorem Statement.composed_render (style : Style) (s : Statement e) :
    (s.render style).Composed s.entities := by
  cases s with
  | select s => exact Select.composed_render (List.subset_cons_self _ _)
  | insert s => exact Insert.composed_render style (List.subset_cons_self _ _)
  | update s =>
    obtain ⟨inAssignments, inConditions⟩ :=
      List.append_subset.mp (List.subset_cons_self e (s.assignments.flatMap Assignable.entities ++
        s.conditions.flatMap Predicate.entities))
    exact Update.composed_render style inAssignments inConditions
  | delete s => exact Delete.composed_render (List.subset_cons_self _ _)
  | raw r => exact .emit (.raw r)

end Records

end RecordSql
