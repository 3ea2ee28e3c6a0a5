import RecordSql.Proofs.Bindings.Basic
import RecordSql.Proofs.Models
/-! # Statements write their bindings in order

One lemma for each renderer, from columns up to whole statements. -/
set_option autoImplicit false
namespace RecordSql

open Render

variable {m : Model}

theorem plain_comparison (op : Comparison) : IsPlain (" " ++ op.sql ++ " ") := by
  cases op <;> decide

theorem plain_joinKind (kind : JoinKind) : IsPlain (" " ++ kind.sql ++ " ") := by
  cases kind <;> decide

theorem plain_aggregateFunction (f : AggregateFunction) : IsPlain f.sql := by
  cases f <;> decide

theorem binds_renderAlias (aliasName : Option String) : (renderAlias aliasName).Binds m [] := by
  cases aliasName with
  | none => exact binds_pure
  | some name => exact (binds_write (by decide)).quietly fun _ => binds_quoted

theorem binds_quotedColumn (field : String) :
    (do quoted (← ownColumn field) : Render Unit).Binds m [] :=
  binds_ownColumn.quietly fun _ => binds_quoted

namespace Column

theorem binds_render (c : Column) : c.render.Binds m [] := by
  unfold render
  split
  next => exact binds_quotedColumn c.name
  next t =>
    refine binds_modelOf.quietly fun model => binds_ofExcept.quietly fun column => ?_
    split
    next => exact binds_quoted
    next =>
      exact binds_quoted.quietly fun _ => (binds_write (by decide)).quietly fun _ => binds_quoted

theorem binds_renderProjected (c : Column) : c.renderProjected.Binds m [] :=
  c.binds_render.quietly fun _ => binds_renderAlias c.aliasName

end Column

mutual

theorem Expr.binds_renderOperand : (e : Expr) → e.renderOperand.Binds m e.bindings
  | .predicate p => by
    rw [Expr.renderOperand, Expr.bindings]
    exact binds_parenthesized p.binds_render
  | .column c => by
    rw [Expr.renderOperand, Expr.bindings]
    exact c.binds_render
  | .value v => by
    rw [Expr.renderOperand, Expr.bindings]
    exact binds_bound
  | .raw r => by
    rw [Expr.renderOperand, Expr.bindings]
    exact binds_parenthesized binds_raw
  | .assignment field value => by
    rw [Expr.renderOperand]
    exact binds_fail

theorem Predicate.binds_render : (p : Predicate) → p.render.Binds m p.bindings
  | .compare left op right => by
    rw [Predicate.render, Predicate.bindings]
    exact left.binds_render.quietly fun _ =>
      (binds_write (plain_comparison op)).quietly fun _ => right.binds_renderOperand
  | .and left right => by
    rw [Predicate.render, Predicate.bindings]
    exact (binds_parenthesized left.binds_render).bind fun _ =>
      (binds_write (by decide)).quietly fun _ => binds_parenthesized right.binds_render
  | .or left right => by
    rw [Predicate.render, Predicate.bindings]
    exact (binds_parenthesized left.binds_render).bind fun _ =>
      (binds_write (by decide)).quietly fun _ => binds_parenthesized right.binds_render
  | .not p => by
    rw [Predicate.render, Predicate.bindings]
    exact (binds_write (by decide)).quietly fun _ => binds_parenthesized p.binds_render
  | .raw r => by
    rw [Predicate.render, Predicate.bindings]
    exact binds_parenthesized binds_raw

end

theorem Expr.binds_render (e : Expr) : e.render.Binds m e.bindings := by
  cases e with
  | predicate p =>
    rw [Expr.render, Expr.bindings]
    exact p.binds_render
  | column c => exact Expr.binds_renderOperand (.column c)
  | value v => exact Expr.binds_renderOperand (.value v)
  | raw r => exact Expr.binds_renderOperand (.raw r)
  | assignment field value => exact Expr.binds_renderOperand (.assignment field value)

/-- Joining conditions from the left keeps in order what is listed of each. -/
theorem flatMap_foldl_and {α : Type} {list : Predicate → List α}
    (both : ∀ p q, list (.and p q) = list p ++ list q) (p : Predicate) (rest : List Predicate) :
    list (rest.foldl .and p) = list p ++ rest.flatMap list := by
  induction rest generalizing p with
  | nil => simp
  | cons q rest ih => rw [List.foldl_cons, ih, both, List.flatMap_cons, List.append_assoc]

theorem bindings_foldl_and (p : Predicate) (rest : List Predicate) :
    (rest.foldl .and p).bindings = p.bindings ++ rest.flatMap Predicate.bindings :=
  flatMap_foldl_and (fun _ _ => by rw [Predicate.bindings]) p rest

theorem binds_renderAll (conditions : List Predicate) :
    (renderAll conditions).Binds m (conditions.flatMap Predicate.bindings) := by
  cases conditions with
  | nil => exact binds_pure
  | cons p rest =>
    rw [List.flatMap_cons, ← bindings_foldl_and]
    exact Predicate.binds_render _

theorem binds_renderClause {keyword : String} (plain : IsPlain keyword)
    (conditions : List Predicate) :
    (renderClause keyword conditions).Binds m (conditions.flatMap Predicate.bindings) := by
  cases conditions with
  | nil => exact binds_pure
  | cons p rest => exact (binds_write plain).quietly fun _ => binds_renderAll (p :: rest)

theorem binds_renderList {α : Type} {keyword : String} (plain : IsPlain keyword)
    {item : α → Render Unit} {items : List α} (each : ∀ a ∈ items, (item a).Binds m []) :
    (renderList keyword item items).Binds m [] := by
  cases items with
  | nil => exact binds_pure
  | cons a rest => exact (binds_write plain).quietly fun _ => binds_commaList_nil each

theorem binds_renderCount {keyword : String} (plain : IsPlain keyword) (count : Option UInt64) :
    (renderCount keyword count).Binds m (countBindings count) := by
  cases count with
  | none => exact binds_pure
  | some n => exact (binds_write plain).quietly fun _ => binds_bound

theorem Assignment.binds_render (a : Assignment) : a.render.Binds m a.value.bindings :=
  binds_ownColumn.quietly fun _ => binds_quoted.quietly fun _ =>
    (binds_write (by decide)).quietly fun _ => a.value.binds_render

/-! ## Sources -/

theorem binds_renderUsing (fields : List String) : (renderUsing fields).Binds m [] := by
  cases fields with
  | nil => exact binds_pure
  | cons field rest =>
    exact (binds_write (by decide)).quietly fun _ =>
      (binds_commaList_nil fun name _ => binds_quotedColumn name).quietly fun _ =>
        binds_write (by decide)

theorem Table.binds_render (t : Table) : t.render.Binds m [] :=
  binds_modelOf.quietly fun _ => binds_quoted.quietly fun _ => binds_renderAlias t.aliasName

theorem Source.binds_render (s : Source) : s.render.Binds m s.bindings := by
  induction s with
  | table t => exact t.binds_render
  | join kind left right fields conditions ihLeft ihRight =>
    rw [Source.render, Source.bindings]
    refine (binds_write (by decide)).quietly fun _ => ihLeft.bind fun _ =>
      (binds_write (plain_joinKind kind)).quietly fun _ => ihRight.bind fun _ =>
        (binds_renderUsing fields).quietly fun _ => ?_
    exact (binds_renderClause (by decide) conditions).andThen fun _ => binds_write (by decide)

theorem binds_renderSource (source : Option Source) :
    (renderSource source).Binds m (source.elim [] Source.bindings) := by
  cases source with
  | none => exact binds_ownModel_bind binds_quoted
  | some s => exact s.binds_render

/-! ## Selections -/

theorem Selectable.binds_render (s : Selectable) : s.render.Binds m s.bindings := by
  cases s with
  | column c => exact c.binds_renderProjected
  | aggregate a =>
    exact (binds_write (plain_aggregateFunction a.function)).quietly fun _ =>
      (binds_parenthesized (binds_quotedColumn a.field)).quietly fun _ =>
        binds_renderAlias a.aliasName
  | raw r => exact binds_raw

theorem SortKey.binds_render (key : SortKey) : key.render.Binds m [] := by
  refine key.column.binds_render.quietly fun _ => binds_write ?_
  split <;> decide

theorem Select.binds_renderProjection (items : List Selectable) :
    (renderProjection items).Binds m (items.flatMap Selectable.bindings) := by
  cases items with
  | nil => exact binds_write (by decide)
  | cons item rest =>
    show (commaList Selectable.render (item :: rest)).Binds m _
    exact binds_commaList fun item _ => item.binds_render

theorem Select.binds_render (s : Select) : s.render.Binds m s.bindings :=
  (binds_write (by decide)).quietly fun _ =>
    (binds_renderProjection s.projection).bind fun _ =>
      (binds_write (by decide)).quietly fun _ => (binds_renderSource s.source).bind fun _ =>
        (binds_renderClause (by decide) s.conditions).bind fun _ =>
          (binds_renderList (by decide) fun c _ => c.binds_render).quietly fun _ =>
            (binds_renderClause (by decide) s.having).bind fun _ =>
              (binds_renderList (by decide) fun key _ => key.binds_render).quietly fun _ =>
                (binds_renderCount (by decide) s.limit).bind fun _ =>
                  binds_renderCount (by decide) s.offset

/-! ## Changes -/

theorem binds_assignableColumn (c : Column) : (assignableColumn c).Binds m [] := by
  unfold assignableColumn
  split
  next => exact binds_fail
  next => exact binds_ownColumn

namespace Upsert

theorem binds_renderItem {before after : String} (plainBefore : IsPlain before)
    (plainAfter : IsPlain after) (item : Assignable) :
    (renderItem before after item).Binds m item.bindings := by
  cases item with
  | assignment a => exact a.binds_render
  | column c =>
    exact (binds_assignableColumn c).quietly fun _ => binds_quoted.quietly fun _ =>
      (binds_write plainBefore).quietly fun _ => binds_quoted.quietly fun _ =>
        binds_write plainAfter

theorem binds_renderTarget (u : Upsert) : u.renderTarget.Binds m [] := by
  unfold renderTarget
  split
  next => exact binds_write (by decide)
  next =>
    exact (binds_write (by decide)).quietly fun _ =>
      (binds_commaList_nil fun name _ => binds_quotedColumn name).quietly fun _ =>
        binds_write (by decide)

theorem binds_renderConflict (u : Upsert) :
    u.renderConflict.Binds m (u.assignments.flatMap Assignable.bindings) :=
  u.binds_renderTarget.quietly fun _ =>
    binds_commaList fun item _ => binds_renderItem (by decide) (by decide) item

theorem binds_render (dialect : Dialect) (u : Upsert) :
    (u.render dialect).Binds m (u.assignments.flatMap Assignable.bindings) := by
  unfold render
  split
  next =>
    exact (binds_write (by decide)).quietly fun _ =>
      binds_commaList fun item _ => binds_renderItem (by decide) (by decide) item
  next => exact u.binds_renderConflict
  next =>
    split
    next => exact binds_fail
    next => exact u.binds_renderConflict

end Upsert

section Records

variable {e : Entity} {k : Materializer}

/-- A field's value as a placeholder. -/
theorem binds_fieldValue {r : e.Record} {name : String} :
    (do bound (← ofExcept (k.field m e r name)) : Render Unit).Binds m
      (fieldBindings k m r name) := by
  refine binds_ofExcept_bind fun v found => ?_
  rw [fieldBindings, found]
  exact binds_bound

namespace Insert

theorem field?_name {name : String} {field : MappedField} (found : m.field? name = some field) :
    field.name = name := (mem_of_findRev?_key found).2

theorem map_name_resolveFields {names : List String} {fields : List MappedField}
    (resolved : resolveFields m names = .ok fields) : fields.map MappedField.name = names := by
  induction names generalizing fields with
  | nil =>
    simp only [resolveFields, Except.ok.injEq] at resolved
    simp [← resolved]
  | cons name rest ih =>
    simp only [resolveFields] at resolved
    split at resolved
    next => simp at resolved
    next field found =>
      split at resolved
      next => simp at resolved
      next more tail =>
        simp only [Except.ok.injEq] at resolved
        rw [← resolved, List.map_cons, field?_name found, ih tail]

theorem map_name_targetFields (s : Insert e) {fields : List MappedField}
    (resolved : targetFields m s.fields = .ok fields) :
    fields.map MappedField.name = s.fieldNames m := by
  unfold fieldNames
  split
  next none =>
    simp only [none, targetFields, Except.ok.injEq] at resolved
    rw [resolved]
  next name rest some =>
    rw [some] at resolved ⊢
    exact map_name_resolveFields resolved

theorem binds_renderCell (r : e.Record) (field : MappedField) :
    (renderCell k r field).Binds m (fieldBindings k m r field.name) :=
  binds_ownModel_bind binds_fieldValue

theorem binds_render (style : Style) (s : Insert e) :
    (s.render style).Binds m (s.bindings style.materializer m) := by
  refine binds_ownModel_bind (binds_ofExcept_bind fun fields resolved => ?_)
  -- The fields come from the model, the specification goes by their names.
  have names := s.map_name_targetFields resolved
  have row (r : e.Record) : (parenthesized
      (commaList (renderCell style.materializer r) fields)).Binds m
      ((s.fieldNames m).flatMap (fieldBindings style.materializer m r)) := by
    rw [← names, List.flatMap_map]
    exact binds_parenthesized (binds_commaList fun field _ => binds_renderCell r field)
  refine (binds_write (by decide)).quietly fun _ => binds_quoted.quietly fun _ =>
    (binds_parenthesized (binds_commaList_nil fun _ _ => binds_quoted)).quietly fun _ =>
      (binds_write (by decide)).quietly fun _ =>
        (binds_commaList fun r _ => row r).bind fun _ => ?_
  cases s.upsert with
  | none => exact binds_pure
  | some u => exact u.binds_render style.dialect

end Insert

namespace Update

theorem binds_renderField (r : e.Record) (name column : String) :
    (renderField k r name column).Binds m (fieldBindings k m r name) :=
  binds_ownModel_bind (binds_quoted.quietly fun _ =>
    (binds_write (by decide)).quietly fun _ => binds_fieldValue)

theorem binds_renderItem (record : Option e.Record) (item : Assignable) :
    (renderItem k record item).Binds m (itemBindings k m record item) := by
  cases item with
  | assignment a => exact a.binds_render
  | column c =>
    simp only [renderItem]
    split
    next r own => exact binds_ownColumn.quietly fun column => binds_renderField r c.name column
    next => exact binds_fail

theorem binds_renderAssignments (s : Update e) :
    (s.renderAssignments k).Binds m (s.assignmentBindings k m) := by
  unfold renderAssignments assignmentBindings
  split
  next => exact binds_fail
  next r none some =>
    rw [none, some, Option.elim_some, List.flatMap_map]
    exact binds_ownModel_bind (binds_commaList fun field _ =>
      binds_renderField r field.name field.column)
  next first rest given =>
    rw [given]
    exact binds_commaList fun item _ => binds_renderItem s.record item

theorem binds_render (style : Style) (s : Update e) :
    (s.render style).Binds m (s.bindings style.materializer m) := by
  have body : (do
      write "UPDATE "
      quoted m.table
      write " SET "
      renderAssignments style.materializer s
      renderClause " WHERE " s.conditions : Render Unit).Binds m (s.bindings style.materializer m) :=
    (binds_write (by decide)).quietly fun _ => binds_quoted.quietly fun _ =>
      (binds_write (by decide)).quietly fun _ => s.binds_renderAssignments.bind fun _ =>
        binds_renderClause (by decide) s.conditions
  refine binds_ownModel_bind ?_
  split
  next =>
    have never : (fail .emptyAssignments : Render Unit).Binds m [] := binds_fail
    exact never.quietly fun _ => body
  next => exact body

end Update

theorem Delete.binds_render (s : Delete) :
    s.render.Binds m (s.conditions.flatMap Predicate.bindings) :=
  binds_ownModel_bind ((binds_write (by decide)).quietly fun _ => binds_quoted.quietly fun _ =>
    binds_renderClause (by decide) s.conditions)

theorem Statement.binds_render (style : Style) (s : Statement e) :
    (s.render style).Binds m (s.bindings style.materializer m) := by
  cases s with
  | select s => exact s.binds_render
  | insert s => exact s.binds_render style
  | update s => exact s.binds_render style
  | delete s => exact s.binds_render
  | raw r => exact binds_raw

end Records

end RecordSql
