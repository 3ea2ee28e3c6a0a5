import RecordSql.Proofs.References
import RecordSql.Proofs.Materializers
/-! # Renderings check what they refer to

A rendering succeeds when all its references hold, and fails with the error of the first that
does not (`Render.Checks`). There is one lemma for each way to put a rendering together, and from
these one for each kind of expression, source and statement. -/
set_option autoImplicit false
namespace RecordSql

namespace Render

open Reference

variable {α β : Type} {r : Registry} {m : Model} {refs more : List Reference}

/-- A rendering that fails exactly where one of these references does not hold, in their order.
It may start from any registry that has gained registrations of the entities that are asked
for, and leaves such a registry. -/
def Checks (x : Render α) (r : Registry) (m : Model) (refs : List Reference) : Prop :=
  ∀ asked later, Faithful asked → refs.filterMap entity? ⊆ asked → r.Grows asked later →
    (x m later).result.map (fun _ => ()) = checkAll r m refs ∧ r.Grows asked (x m later).registry

theorem checks_pure {a : α} : (pure a : Render α).Checks r m [] := by
  intro asked later _ _ grown
  exact ⟨rfl, grown⟩

theorem checks_emit {piece : Piece} : (emit piece).Checks r m [] := by
  intro asked later _ _ grown
  exact ⟨rfl, grown⟩

theorem checks_write {s : String} : (write s).Checks r m [] := checks_emit

theorem checks_quoted {s : String} : (quoted s).Checks r m [] := checks_emit

theorem checks_bound {v : Value} : (bound v).Checks r m [] := checks_emit

/-- A failure that one reference stands for, whatever would have come behind it. -/
theorem checks_fail {ref : Reference} {err : Error} (broken : ref.check r m = .error err) :
    (fail err : Render α).Checks r m (ref :: more) := by
  intro asked later _ _ grown
  refine ⟨?_, grown⟩
  simp only [fail, Except.map, checkAll, broken]

theorem Checks.bind {x : Render α} {f : α → Render β} (first : x.Checks r m refs)
    (second : ∀ a, (f a).Checks r m more) : (x >>= f).Checks r m (refs ++ more) := by
  intro asked later faithful within grown
  rw [List.filterMap_append, List.append_subset] at within
  obtain ⟨outcome, grownFirst⟩ := first asked later faithful within.1 grown
  rw [checkAll_append, ← outcome]
  cases result : (x m later).result with
  | error err =>
    simp only [Bind.bind, Render.bind, result, Except.map]
    exact ⟨trivial, grownFirst⟩
  | ok a =>
    obtain ⟨outcomeSecond, grownSecond⟩ := second a asked _ faithful within.2 grownFirst
    simp only [Bind.bind, Render.bind, result, Except.map] at outcomeSecond ⊢
    exact ⟨outcomeSecond, grownSecond⟩

/-- A rendering that cannot fail, before another. -/
theorem Checks.quietly {x : Render α} {f : α → Render β} (first : x.Checks r m [])
    (second : ∀ a, (f a).Checks r m refs) : (x >>= f).Checks r m refs := first.bind second

/-- A rendering that cannot fail, behind another. -/
theorem Checks.andThen {x : Render α} {f : α → Render β} (first : x.Checks r m refs)
    (second : ∀ a, (f a).Checks r m []) : (x >>= f).Checks r m refs := by
  have both := first.bind second
  rwa [List.append_nil] at both

theorem checks_ownModel_bind {f : Model → Render β} (next : (f m).Checks r m refs) :
    (ownModel >>= f).Checks r m refs := by
  intro asked later faithful within grown
  exact next asked later faithful within grown

/-- A result that is judged like these references, and what is rendered with it. -/
theorem checks_ofExcept_bind {x : Except Error α} {f : α → Render β}
    (judged : x.map (fun _ => ()) = checkAll r m refs)
    (next : ∀ a, x = .ok a → (f a).Checks r m more) :
    (ofExcept x >>= f).Checks r m (refs ++ more) := by
  intro asked later faithful within grown
  rw [List.filterMap_append, List.append_subset] at within
  rw [checkAll_append, ← judged]
  cases given : x with
  | error err => exact ⟨rfl, grown⟩
  | ok a =>
    have rest := next a given asked later faithful within.2 grown
    simpa only [Bind.bind, Render.bind, ofExcept, Except.map, List.nil_append] using rest

/-- A result that cannot fail, and what is rendered with it. -/
theorem checks_known_bind {x : Except Error α} {a : α} {f : α → Render β} (known : x = .ok a)
    (next : (f a).Checks r m refs) : (ofExcept x >>= f).Checks r m refs := by
  subst known
  have judged : (Except.ok a : Except Error α).map (fun _ => ()) = checkAll r m [] := rfl
  apply checks_ofExcept_bind judged
  intro b same
  obtain rfl := Except.ok.inj same
  exact next

theorem checks_ownColumn {field : String} : (ownColumn field).Checks r m [.own field] := by
  intro asked later _ _ grown
  refine ⟨?_, grown⟩
  simp only [ownColumn, Bind.bind, Render.bind, ownModel, ofExcept, checkAll, check]
  cases m.columnOf field <;> rfl

theorem checks_ownColumn_bind {field : String} {f : String → Render β}
    (next : ∀ column, m.columnOf field = .ok column → (f column).Checks r m refs) :
    (ownColumn field >>= f).Checks r m (.own field :: refs) := by
  have judged : (m.columnOf field).map (fun _ => ()) = checkAll r m [.own field] := by
    simp only [checkAll, check]
    cases m.columnOf field <;> rfl
  have whole : (ofExcept (m.columnOf field) >>= f).Checks r m (.own field :: refs) :=
    checks_ofExcept_bind judged next
  intro asked later faithful within grown
  have result := whole asked later faithful within grown
  cases found : m.columnOf field with
  | error err =>
    simpa only [found, ownColumn, ownModel, Bind.bind, Render.bind, ofExcept] using result
  | ok column =>
    simpa only [found, ownColumn, ownModel, Bind.bind, Render.bind, ofExcept] using result

theorem checks_quotedColumn {field : String} :
    (do quoted (← ownColumn field) : Render Unit).Checks r m [.own field] :=
  checks_ownColumn.andThen fun _ => checks_quoted

/-- Asking for a model gives what asking before would have given. -/
theorem modelOf_cases {asked : List Entity} {later : Registry} {e : Entity}
    (faithful : Faithful asked) (mentioned : e ∈ asked) (grown : r.Grows asked later) :
    (∃ err, r.get e = .error err ∧ modelOf e m later = ⟨[], later, .error err⟩) ∨
      ∃ model known after, r.get e = .ok (model, known) ∧
        modelOf e m later = ⟨[], after, .ok model⟩ ∧ r.Grows asked after := by
  have same := grown.get_eq faithful mentioned
  cases got : later.get e with
  | error err =>
    left
    refine ⟨err, ?_, by simp only [modelOf, got]⟩
    rw [got] at same
    cases before : r.get e with
    | error other => simpa [before, Except.map] using same.symm
    | ok found => simp [before, Except.map] at same
  | ok found =>
    right
    obtain ⟨model, after⟩ := found
    rw [got] at same
    cases before : r.get e with
    | error other => simp [before, Except.map] at same
    | ok known =>
      obtain ⟨had, registry⟩ := known
      rw [before] at same
      obtain rfl : model = had := Except.ok.inj same
      exact ⟨model, registry, after, rfl, by simp only [modelOf, got],
        grown.trans (Registry.grows_get got mentioned)⟩

theorem checks_modelOf {e : Entity} : (modelOf e).Checks r m [.table e] := by
  intro asked later faithful within grown
  have mentioned : e ∈ asked := within List.mem_cons_self
  rcases modelOf_cases (m := m) faithful mentioned grown with
    ⟨err, before, run⟩ | ⟨model, known, after, before, run, further⟩
  · rw [run]
    simp only [checkAll, check, before, Except.map]
    exact ⟨trivial, grown⟩
  · rw [run]
    simp only [checkAll, check, before, Except.map]
    exact ⟨trivial, further⟩

/-- A column of the model of an entity, and what is written with it. -/
theorem checks_qualified {e : Entity} {field : String} {f : String → Render β}
    (next : ∀ column, (f column).Checks r m []) :
    (modelOf e >>= fun model => ofExcept (model.columnOf field) >>= f).Checks r m
      [.qualified e field] := by
  intro asked later faithful within grown
  have mentioned : e ∈ asked := within List.mem_cons_self
  rcases modelOf_cases (m := m) faithful mentioned grown with
    ⟨err, before, run⟩ | ⟨model, known, after, before, run, further⟩
  · simp only [Bind.bind, Render.bind, run, checkAll, check, before, Except.map]
    exact ⟨trivial, grown⟩
  · cases found : model.columnOf field with
    | error err =>
      simp only [Bind.bind, Render.bind, run, ofExcept, found, checkAll, check, before, Except.map]
      exact ⟨trivial, further⟩
    | ok column =>
      have rest := next column asked after faithful (List.nil_subset asked) further
      simp only [Bind.bind, Render.bind, run, ofExcept, found, checkAll, check, before, Except.map]
        at rest ⊢
      exact rest

theorem Checks.parenthesized {x : Render Unit} (inside : x.Checks r m refs) :
    (parenthesized x).Checks r m refs :=
  checks_write.quietly fun _ => inside.andThen fun _ => checks_write

theorem checks_commaTail {item : α → Render Unit} {listed : α → List Reference} {items : List α}
    (each : ∀ a ∈ items, (item a).Checks r m (listed a)) :
    (commaTail item items).Checks r m (items.flatMap listed) := by
  induction items with
  | nil => exact checks_pure
  | cons a rest ih =>
    have head := each a List.mem_cons_self
    have tail := ih fun b member => each b (List.mem_cons_of_mem a member)
    exact checks_write.quietly fun _ => head.bind fun _ => tail

theorem checks_commaList {item : α → Render Unit} {listed : α → List Reference} {items : List α}
    (each : ∀ a ∈ items, (item a).Checks r m (listed a)) :
    (commaList item items).Checks r m (items.flatMap listed) := by
  cases items with
  | nil => exact checks_pure
  | cons a rest =>
    have head := each a List.mem_cons_self
    have tail := checks_commaTail fun b member => each b (List.mem_cons_of_mem a member)
    exact head.bind fun _ => tail

/-- Items that cannot fail. -/
theorem checks_commaList_nil {item : α → Render Unit} {items : List α}
    (each : ∀ a ∈ items, (item a).Checks r m []) : (commaList item items).Checks r m [] := by
  have listed := checks_commaList each
  rwa [List.flatMap_eq_nil_iff.mpr fun _ _ => rfl] at listed

theorem checks_columns (fields : List String) :
    (commaList (fun field => do quoted (← ownColumn field)) fields).Checks r m
      (fields.map .own) := by
  rw [List.map_eq_flatMap]
  exact checks_commaList fun field _ => checks_quotedColumn

end Render

open Render

variable {r : Registry} {m : Model}

/-! ## Expressions and sources -/

theorem checks_renderAlias (aliasName : Option String) : (renderAlias aliasName).Checks r m [] := by
  cases aliasName with
  | none => exact checks_pure
  | some name => exact checks_write.quietly fun _ => checks_quoted

theorem Column.checks_render (c : Column) : c.render.Checks r m c.references := by
  obtain ⟨field, shown, table⟩ := c
  cases table with
  | none => exact checks_quotedColumn
  | some t =>
    apply checks_qualified
    intro column
    cases t.aliasName with
    | none => exact checks_quoted
    | some name =>
      exact checks_quoted.quietly fun _ => checks_write.quietly fun _ => checks_quoted

-- By induction on the tree; what stands between the operands cannot fail.
mutual

theorem Expr.checks_renderOperand : (e : Expr) → e.renderOperand.Checks r m e.references
  | .predicate p => by
    rw [Expr.renderOperand, Expr.references]
    exact p.checks_render.parenthesized
  | .column c => by
    rw [Expr.renderOperand, Expr.references]
    exact c.checks_render
  | .value v => by
    rw [Expr.renderOperand, Expr.references]
    exact checks_bound
  | .raw fragment => by
    rw [Expr.renderOperand, Expr.references]
    exact Checks.parenthesized checks_emit
  | .assignment field value => by
    rw [Expr.renderOperand, Expr.references]
    exact checks_fail rfl

theorem Predicate.checks_render : (p : Predicate) → p.render.Checks r m p.references
  | .compare left op right => by
    rw [Predicate.render, Predicate.references]
    exact left.checks_render.bind fun _ => checks_write.quietly fun _ => right.checks_renderOperand
  | .and left right => by
    rw [Predicate.render, Predicate.references]
    exact left.checks_render.parenthesized.bind fun _ => checks_write.quietly fun _ =>
      right.checks_render.parenthesized
  | .or left right => by
    rw [Predicate.render, Predicate.references]
    exact left.checks_render.parenthesized.bind fun _ => checks_write.quietly fun _ =>
      right.checks_render.parenthesized
  | .not p => by
    rw [Predicate.render, Predicate.references]
    exact checks_write.quietly fun _ => p.checks_render.parenthesized
  | .raw fragment => by
    rw [Predicate.render, Predicate.references]
    exact Checks.parenthesized checks_emit

end

theorem Expr.checks_render (e : Expr) : e.render.Checks r m e.references := by
  cases e with
  | predicate p =>
    rw [Expr.render, Expr.references]
    exact p.checks_render
  | column c => exact Expr.checks_renderOperand (.column c)
  | value v => exact Expr.checks_renderOperand (.value v)
  | raw fragment => exact Expr.checks_renderOperand (.raw fragment)
  | assignment field value => exact Expr.checks_renderOperand (.assignment field value)

theorem references_foldl_and (p : Predicate) (rest : List Predicate) :
    (rest.foldl .and p).references = p.references ++ rest.flatMap Predicate.references :=
  flatMap_foldl_and (fun _ _ => by rw [Predicate.references]) p rest

theorem checks_renderClause {keyword : String} (conditions : List Predicate) :
    (renderClause keyword conditions).Checks r m (conditions.flatMap Predicate.references) := by
  cases conditions with
  | nil => exact checks_pure
  | cons p rest =>
    rw [List.flatMap_cons, ← references_foldl_and]
    exact checks_write.quietly fun _ => Predicate.checks_render _

theorem checks_renderList {α : Type} {keyword : String} {item : α → Render Unit}
    {listed : α → List Reference} {items : List α}
    (each : ∀ a ∈ items, (item a).Checks r m (listed a)) :
    (renderList keyword item items).Checks r m (items.flatMap listed) := by
  cases items with
  | nil => exact checks_pure
  | cons a rest => exact checks_write.quietly fun _ => checks_commaList each

theorem checks_renderCount {keyword : String} (count : Option UInt64) :
    (renderCount keyword count).Checks r m [] := by
  cases count with
  | none => exact checks_pure
  | some n => exact checks_write.quietly fun _ => checks_bound

theorem Assignment.checks_render (a : Assignment) : a.render.Checks r m a.references :=
  checks_ownColumn.bind fun _ => checks_quoted.quietly fun _ => checks_write.quietly fun _ =>
    a.value.checks_render

theorem checks_renderUsing (fields : List String) :
    (renderUsing fields).Checks r m (fields.map .own) := by
  cases fields with
  | nil => exact checks_pure
  | cons field rest =>
    exact checks_write.quietly fun _ => (checks_columns (field :: rest)).andThen fun _ =>
      checks_write

theorem Source.checks_render (s : Source) : s.render.Checks r m s.references := by
  induction s with
  | table t =>
    exact checks_modelOf.andThen fun _ => checks_quoted.quietly fun _ => checks_renderAlias _
  | join kind left right fields conditions ihLeft ihRight =>
    rw [render, references]
    exact checks_write.quietly fun _ => ihLeft.bind fun _ => checks_write.quietly fun _ =>
      ihRight.bind fun _ => (checks_renderUsing fields).bind fun _ =>
        (checks_renderClause conditions).andThen fun _ => checks_write

theorem checks_renderSource (source : Option Source) :
    (renderSource source).Checks r m (source.toList.flatMap Source.references) := by
  cases source with
  | none => exact checks_ownModel_bind checks_quoted
  | some s =>
    rw [Option.toList_some, List.flatMap_singleton]
    exact s.checks_render

/-! ## Statements -/

theorem Selectable.checks_render (s : Selectable) : s.render.Checks r m s.references := by
  cases s with
  | column c => exact c.checks_render.andThen fun _ => checks_renderAlias c.aliasName
  | aggregate a =>
    exact checks_write.quietly fun _ => (checks_quotedColumn.parenthesized).andThen fun _ =>
      checks_renderAlias a.aliasName
  | raw fragment => exact checks_emit

theorem SortKey.checks_render (key : SortKey) :
    key.render.Checks r m key.column.references :=
  key.column.checks_render.andThen fun _ => checks_write

theorem Select.checks_render (s : Select) : s.render.Checks r m s.references := by
  have projection : (renderProjection s.projection).Checks r m
      (s.projection.flatMap Selectable.references) := by
    unfold renderProjection
    split
    next everything =>
      rw [everything]
      exact checks_write
    next => exact checks_commaList fun item _ => item.checks_render
  exact checks_write.quietly fun _ => projection.bind fun _ => checks_write.quietly fun _ =>
    (checks_renderSource s.source).bind fun _ => (checks_renderClause s.conditions).bind fun _ =>
      (checks_renderList fun c _ => c.checks_render).bind fun _ =>
        (checks_renderClause s.having).bind fun _ =>
          (checks_renderList fun key _ => key.checks_render).andThen fun _ =>
            (checks_renderCount s.limit).quietly fun _ => checks_renderCount s.offset

namespace Upsert

theorem checks_assignableColumn (c : Column) :
    (assignableColumn c).Checks r m (itemReferences (.column c)) := by
  obtain ⟨field, shown, table⟩ := c
  cases table with
  | none => exact checks_ownColumn
  | some t => exact checks_fail rfl

theorem checks_renderItem (before after : String) (item : Assignable) :
    (renderItem before after item).Checks r m (itemReferences item) := by
  cases item with
  | assignment a => exact a.checks_render
  | column c =>
    exact (checks_assignableColumn c).andThen fun _ => checks_quoted.quietly fun _ =>
      checks_write.quietly fun _ => checks_quoted.quietly fun _ => checks_write

theorem checks_renderItems (before after : String) (items : List Assignable) :
    (commaList (renderItem before after) items).Checks r m (items.flatMap itemReferences) :=
  checks_commaList fun item _ => checks_renderItem before after item

theorem checks_renderTarget (u : Upsert) :
    u.renderTarget.Checks r m (u.conflictFields.map .own) := by
  unfold renderTarget
  split
  next untargeted =>
    rw [untargeted]
    exact checks_write
  next =>
    exact checks_write.quietly fun _ => (checks_columns u.conflictFields).andThen fun _ =>
      checks_write

theorem checks_renderConflict (u : Upsert) :
    u.renderConflict.Checks r m
      (u.conflictFields.map .own ++ u.assignments.flatMap itemReferences) :=
  u.checks_renderTarget.bind fun _ => checks_renderItems _ _ _

theorem checks_render (dialect : Dialect) (u : Upsert) :
    (u.render dialect).Checks r m (u.references dialect) := by
  cases dialect with
  | mysql => exact checks_write.quietly fun _ => checks_renderItems _ _ _
  | sqlite => exact u.checks_renderConflict
  | postgres =>
    rw [render, references, targetReferences]
    by_cases empty : u.conflictFields.isEmpty = true
    · rw [if_pos empty, if_pos empty]
      exact checks_fail rfl
    · rw [if_neg empty, if_neg empty]
      exact u.checks_renderConflict

end Upsert

section Records

variable {e : Entity}

/-- The fields of a model are fields of the entity, so a record has a value for each. -/
theorem Materializer.exists_field (derived : e.IsDerived) (lists : m.Lists e) (k : Materializer)
    (record : e.Record) {field : MappedField} (member : field ∈ m.fields) :
    ∃ v, k.field m e record field.name = .ok v := by
  obtain ⟨i, rfl⟩ := lists.exists_fieldAt member
  refine ⟨record.value i, ?_⟩
  rw [field_eq derived lists, (lists.name_index_fieldAt i).1, derived.position?_name i]

theorem exists_of_columnOf {name column : String} (found : m.columnOf name = .ok column) :
    ∃ field ∈ m.fields, field.name = name := by
  rw [Model.columnOf] at found
  cases known : m.field? name with
  | none => simp [known] at found
  | some field => exact ⟨field, mem_of_findRev?_key known⟩

namespace Insert

theorem resolveFields_judged (names : List String) :
    (resolveFields m names).map (fun _ => ()) = Reference.checkAll r m (names.map .own) := by
  induction names with
  | nil => rfl
  | cons name rest ih =>
    rw [resolveFields, List.map_cons, Reference.checkAll, Reference.check, Model.columnOf, ← ih]
    cases m.field? name with
    | none => rfl
    | some field => cases resolveFields m rest <;> rfl

theorem targetFields_judged (names : List String) :
    (targetFields m names).map (fun _ => ()) = Reference.checkAll r m (names.map .own) := by
  cases names with
  | nil => rfl
  | cons name rest => exact resolveFields_judged (name :: rest)

theorem mem_of_resolveFields {names : List String} {fields : List MappedField}
    (resolved : resolveFields m names = .ok fields) : ∀ field ∈ fields, field ∈ m.fields := by
  induction names generalizing fields with
  | nil =>
    obtain rfl : [] = fields := Except.ok.inj resolved
    simp
  | cons name rest ih =>
    rw [resolveFields] at resolved
    cases found : m.field? name with
    | none => simp [found] at resolved
    | some first =>
      cases tail : resolveFields m rest with
      | error err => simp [found, tail] at resolved
      | ok others =>
        simp only [found, tail] at resolved
        obtain rfl : first :: others = fields := Except.ok.inj resolved
        rw [List.forall_mem_cons]
        exact ⟨(mem_of_findRev?_key found).1, ih tail⟩

theorem mem_of_targetFields {names : List String} {fields : List MappedField}
    (resolved : targetFields m names = .ok fields) : ∀ field ∈ fields, field ∈ m.fields := by
  cases names with
  | nil =>
    obtain rfl : m.fields = fields := Except.ok.inj resolved
    exact fun _ member => member
  | cons name rest => exact mem_of_resolveFields resolved

theorem checks_renderCell (derived : e.IsDerived) (lists : m.Lists e) (k : Materializer)
    (record : e.Record) {field : MappedField} (member : field ∈ m.fields) :
    (renderCell k record field).Checks r m [] := by
  obtain ⟨v, read⟩ := Materializer.exists_field derived lists k record member
  apply checks_ownModel_bind
  exact checks_known_bind read checks_bound

theorem checks_render (derived : e.IsDerived) (lists : m.Lists e) (style : Style) (s : Insert e) :
    (s.render style).Checks r m (s.references style.dialect) := by
  apply checks_ownModel_bind
  apply checks_ofExcept_bind (targetFields_judged s.fields)
  intro fields resolved
  have inside := mem_of_targetFields resolved
  have names : (commaList (fun field => quoted field.column) fields).Checks r m [] :=
    checks_commaList_nil fun _ _ => checks_quoted
  have rows : (commaList (fun record => parenthesized
      (commaList (renderCell style.materializer record) fields)) s.records).Checks r m [] :=
    checks_commaList_nil fun record _ => Checks.parenthesized <| checks_commaList_nil
      fun field member => checks_renderCell derived lists _ record (inside field member)
  refine checks_write.quietly fun _ => checks_quoted.quietly fun _ =>
    names.parenthesized.quietly fun _ => checks_write.quietly fun _ => rows.quietly fun _ => ?_
  cases s.upsert with
  | none => exact checks_pure
  | some upsert =>
    rw [Option.toList_some, List.flatMap_singleton]
    exact upsert.checks_render style.dialect

end Insert

namespace Update

theorem checks_renderField (derived : e.IsDerived) (lists : m.Lists e) (k : Materializer)
    (record : e.Record) (column : String) {field : MappedField} (member : field ∈ m.fields) :
    (renderField k record field.name column).Checks r m [] := by
  obtain ⟨v, read⟩ := Materializer.exists_field derived lists k record member
  apply checks_ownModel_bind
  exact checks_quoted.quietly fun _ => checks_write.quietly fun _ =>
    checks_known_bind read checks_bound

theorem checks_renderItem (derived : e.IsDerived) (lists : m.Lists e) (k : Materializer)
    (record : Option e.Record) (item : Assignable) :
    (renderItem k record item).Checks r m (itemReferences record item) := by
  cases item with
  | assignment a => exact a.checks_render
  | column c =>
    obtain ⟨name, shown, table⟩ := c
    cases record with
    | none => exact checks_fail rfl
    | some record =>
      cases table with
      | some t => exact checks_fail rfl
      | none =>
        -- The value of the record is read only once the field is known to the model.
        apply checks_ownColumn_bind
        intro column found
        obtain ⟨field, member, rfl⟩ := exists_of_columnOf found
        exact checks_renderField derived lists k record column member

theorem checks_renderAssignments (derived : e.IsDerived) (lists : m.Lists e) (k : Materializer)
    {s : Update e} (assigns : s.isVoid = false) :
    (s.renderAssignments k).Checks r m (s.assignments.flatMap (itemReferences s.record)) := by
  unfold renderAssignments
  split
  next nothing noRecord => simp [isVoid, nothing, noRecord] at assigns
  next record nothing _ =>
    rw [nothing]
    apply checks_ownModel_bind
    exact checks_commaList_nil fun field member =>
      checks_renderField derived lists k record field.column member
  next listed =>
    rw [listed]
    exact checks_commaList fun item _ => checks_renderItem derived lists k s.record item

theorem checks_render (derived : e.IsDerived) (lists : m.Lists e) (style : Style) {s : Update e}
    (assigns : s.isVoid = false) : (s.render style).Checks r m s.references := by
  apply checks_ownModel_bind
  rw [assigns]
  exact checks_write.quietly fun _ => checks_quoted.quietly fun _ => checks_write.quietly fun _ =>
    (checks_renderAssignments derived lists style.materializer assigns).bind fun _ =>
      checks_renderClause s.conditions

end Update

end Records

end RecordSql
