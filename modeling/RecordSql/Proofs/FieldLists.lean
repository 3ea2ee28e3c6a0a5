import RecordSql.Proofs.Columns
import RecordSql.Proofs.Refusals
/-! # What an omitted list of fields stands for

An insertion without a list of fields and an update without assignments go through the fields of
the model, each with the column that the model gives it. With the list of all fields the names are
looked up one by one instead. Both ways do the same against a model that lists the fields, so the
two statements build to the same, and leave the same registry, whatever the outcome. -/
set_option autoImplicit false
namespace RecordSql

open Render

/-! ## Renderings that do the same against a model -/

namespace Render

variable {α β : Type} {m : Model}

/-- Against this model the two renderings cannot be told apart. -/
def SameIn (m : Model) (x y : Render α) : Prop := ∀ r, x m r = y m r

theorem sameIn_refl (x : Render α) : SameIn m x x := fun _ => rfl

theorem SameIn.bind {x y : Render α} {f g : α → Render β} (first : SameIn m x y)
    (second : ∀ a, SameIn m (f a) (g a)) : SameIn m (x >>= f) (y >>= g) := by
  intro r
  simp only [Bind.bind, Render.bind]
  rw [first r]
  cases (y m r).result with
  | error err => rfl
  | ok a => simp only [second a (y m r).registry]

/-- What comes behind the same rendering. -/
theorem SameIn.behind {x : Render α} {f g : α → Render β} (second : ∀ a, SameIn m (f a) (g a)) :
    SameIn m (x >>= f) (x >>= g) := (sameIn_refl x).bind second

theorem sameIn_ownModel_bind {f g : Model → Render β} (second : SameIn m (f m) (g m)) :
    SameIn m (ownModel >>= f) (ownModel >>= g) := by
  intro r
  have own : ownModel m r = ⟨[], r, .ok m⟩ := rfl
  simp only [Bind.bind, Render.bind, own, second r]

theorem sameIn_ownColumn_bind {field column : String} (known : m.columnOf field = .ok column)
    {f : String → Render β} : SameIn m (ownColumn field >>= f) (f column) := by
  intro r
  have own : ownColumn field m r = ⟨[], r, .ok column⟩ := by
    simp only [ownColumn, ownModel, ofExcept, Bind.bind, Render.bind, known, List.nil_append]
  simp only [Bind.bind, Render.bind, own, List.nil_append]

theorem sameIn_commaTail {f g : α → Render Unit} {items : List α}
    (each : ∀ a ∈ items, SameIn m (f a) (g a)) : SameIn m (commaTail f items) (commaTail g items) := by
  induction items with
  | nil => exact sameIn_refl _
  | cons a rest ih =>
    have head := each a List.mem_cons_self
    have tail := ih fun b member => each b (List.mem_cons_of_mem a member)
    exact .behind fun _ => head.bind fun _ => tail

theorem sameIn_commaList {f g : α → Render Unit} {items : List α}
    (each : ∀ a ∈ items, SameIn m (f a) (g a)) : SameIn m (commaList f items) (commaList g items) := by
  cases items with
  | nil => exact sameIn_refl _
  | cons a rest =>
    have tail := sameIn_commaTail fun b member => each b (List.mem_cons_of_mem a member)
    exact (each a List.mem_cons_self).bind fun _ => tail

end Render

variable {e : Entity} {m : Model} {r : Registry}

/-- Statements build to the same if they render to the same against the model in force. -/
theorem Statement.build_eq_of_sameIn {style : Style} {s t : Statement e}
    (first : s.queryType ≠ .raw ∧ s.lacksRecords = false)
    (second : t.queryType ≠ .raw ∧ t.lacksRecords = false)
    (same : ∀ m after, r.get e = .ok (m, after) → SameIn m (s.render style) (t.render style)) :
    s.build style r = t.build style r := by
  have drafts : s.draft style r = t.draft style r := by
    rw [draft_eq_draftFor first.1 first.2, draft_eq_draftFor second.1 second.2, draftFor, draftFor]
    cases derives : r.get e with
    | error err => rfl
    | ok found =>
      obtain ⟨m, after⟩ := found
      exact (same m after derives).bind (fun _ => sameIn_refl _) after
  rw [build, build, drafts]

/-! ## All fields -/

theorem Model.columnOf_self (lists : m.Lists e) (distinct : (e.fields.map Field.name).Nodup)
    {f : MappedField} (member : f ∈ m.fields) : m.columnOf f.name = .ok f.column := by
  rw [columnOf, lists.field?_self distinct member]

namespace Insert

theorem resolveFields_names (lists : m.Lists e) (distinct : (e.fields.map Field.name).Nodup)
    {fields : List MappedField} (within : fields ⊆ m.fields) :
    resolveFields m (fields.map MappedField.name) = .ok fields := by
  induction fields with
  | nil => rfl
  | cons f rest ih =>
    rw [List.cons_subset] at within
    rw [List.map_cons, resolveFields, lists.field?_self distinct within.1, ih within.2]

/-- The names of all fields stand for the fields of the model, as no names do. -/
theorem targetFields_names (lists : m.Lists e) (distinct : (e.fields.map Field.name).Nodup) :
    targetFields m (e.fields.map Field.name) = targetFields m [] := by
  have resolved := resolveFields_names lists distinct (List.Subset.refl m.fields)
  rw [lists.map_name] at resolved
  cases names : e.fields.map Field.name with
  | nil => rfl
  | cons name rest =>
    rw [names] at resolved
    exact resolved

theorem sameIn_render (lists : m.Lists e) (distinct : (e.fields.map Field.name).Nodup)
    (style : Style) (records : List e.Record) (upsert : Option Upsert) :
    SameIn m (render style ⟨records, [], upsert⟩)
      (render style ⟨records, e.fields.map Field.name, upsert⟩) := by
  refine sameIn_ownModel_bind ?_
  rw [targetFields_names lists distinct]
  exact sameIn_refl _

end Insert

namespace Update

def everyField (e : Entity) : List Assignable :=
  e.fields.map fun field => .column ⟨field.name, none, none⟩

theorem sameIn_renderItem (lists : m.Lists e) (distinct : (e.fields.map Field.name).Nodup)
    (k : Materializer) (record : e.Record) {f : MappedField} (member : f ∈ m.fields) :
    SameIn m (renderField k record f.name f.column)
      (renderItem k (some record) (.column ⟨f.name, none, none⟩)) := by
  intro before
  exact (sameIn_ownColumn_bind (Model.columnOf_self lists distinct member) before).symm

theorem sameIn_renderAssignments (lists : m.Lists e) (distinct : (e.fields.map Field.name).Nodup)
    (k : Materializer) (record : e.Record) (conditions : List Predicate) :
    SameIn m (renderAssignments k ⟨some record, [], conditions⟩)
      (renderAssignments k ⟨some record, everyField e, conditions⟩) := by
  have items : everyField e =
      m.fields.map fun f => (Assignable.column ⟨f.name, none, none⟩ : Assignable) := by
    have names := congrArg (List.map fun name => Assignable.column ⟨name, none, none⟩) lists.map_name
    rw [List.map_map, List.map_map] at names
    exact names.symm
  have each : SameIn m
      (commaList (fun f => renderField k record f.name f.column) m.fields)
      (commaList (fun f => renderItem k (some record) (.column ⟨f.name, none, none⟩)) m.fields) :=
    sameIn_commaList fun f member => sameIn_renderItem lists distinct k record member
  have listedBy : commaList (renderItem k (some record)) (everyField e) =
      commaList (fun f => renderItem k (some record) (.column ⟨f.name, none, none⟩)) m.fields := by
    rw [items, commaList_map]
  -- One way starts with the list of assignments and the other with the fields of the model; an
  -- empty list of the one is an empty list of the other.
  have implicit (before : Registry) :
      renderAssignments k ⟨some record, [], conditions⟩ m before =
        commaList (fun f => renderField k record f.name f.column) m.fields m before := by
    have own : ownModel m before = ⟨[], before, .ok m⟩ := rfl
    simp only [renderAssignments, Bind.bind, Render.bind, own, List.nil_append]
  intro before
  cases listed : everyField e with
  | nil => rfl
  | cons item rest =>
    rw [implicit, each before, ← listedBy, listed]
    rfl

theorem sameIn_render (lists : m.Lists e) (distinct : (e.fields.map Field.name).Nodup)
    (style : Style) (record : e.Record) (conditions : List Predicate) :
    SameIn m (render style ⟨some record, [], conditions⟩)
      (render style ⟨some record, everyField e, conditions⟩) := by
  have assigned := sameIn_renderAssignments lists distinct style.materializer record conditions
  refine sameIn_ownModel_bind ?_
  simp only [isVoid, Option.isNone_some, Bool.and_false, Bool.false_eq_true, if_false]
  exact .behind fun _ => .behind fun _ => .behind fun _ => assigned.bind fun _ => sameIn_refl _

end Update

/-- An insertion without a list of fields builds to the same as the one with all fields in the
order of their declaration, and an update from a record without assignments to the same as the one
that assigns every field as a bare column: the same text and arguments, or the same error, and the
same registry. -/
theorem build_everyField (distinct : (e.fields.map Field.name).Nodup) (models : r.Models e)
    (style : Style) :
    (∀ (records : List e.Record) (upsert : Option Upsert),
      (Statement.insert ⟨records, [], upsert⟩).build style r =
        (Statement.insert ⟨records, e.fields.map Field.name, upsert⟩).build style r) ∧
    ∀ (record : e.Record) (conditions : List Predicate),
      (Statement.update ⟨some record, [], conditions⟩).build style r =
        (Statement.update ⟨some record, Update.everyField e, conditions⟩).build style r := by
  constructor
  · intro records upsert
    cases records with
    | nil => rfl
    | cons record rest =>
      refine Statement.build_eq_of_sameIn ⟨nofun, rfl⟩ ⟨nofun, rfl⟩ ?_
      intro m after derives
      exact Insert.sameIn_render (models.lists derives) distinct style (record :: rest) upsert
  · intro record conditions
    refine Statement.build_eq_of_sameIn ⟨nofun, rfl⟩ ⟨nofun, rfl⟩ ?_
    intro m after derives
    exact Update.sameIn_render (models.lists derives) distinct style record conditions

/-- A field whose column an option has set, behind one that a short accessor table still reaches. -/
theorem build_everyField_shortTable :
    let pair : Entity :=
      { Entity.derived 6 "Pair" "" [⟨"left", .scalar .int64, ""⟩, ⟨"right", .scalar .int64, "column=r"⟩]
        with accessorCount := 1 }
    let r := Registry.empty.run [.register pair [.columnName "right" "Second"]]
    let insertion (fields : List String) : Statement pair :=
      .insert ⟨[.initial], fields, some ⟨[.column ⟨"left", none, none⟩], ["right"]⟩⟩
    let update (items : List Assignable) : Statement pair :=
      .update ⟨some .initial, items, [.compare ⟨"left", none, none⟩ .eq (.value (.int 1))]⟩
    (pair.fields.map Field.name).Nodup ∧ r.Models pair ∧
      (insertion []).build ⟨.sqlite, .reflect⟩ r =
        (insertion ["left", "right"]).build ⟨.sqlite, .reflect⟩ r ∧
      ((insertion []).build ⟨.sqlite, .reflect⟩ r).result = .ok
        ⟨"INSERT INTO `pair`(`left`,`Second`) VALUES (?,?) ON CONFLICT(`Second`) DO UPDATE SET `left`=excluded.`left`;",
          [.int 0, .int 0]⟩ ∧
      (update []).build ⟨.mysql, .accessor⟩ r =
        (update (Update.everyField pair)).build ⟨.mysql, .accessor⟩ r ∧
      ((update []).build ⟨.mysql, .accessor⟩ r).result = .error (.unknownField "right") := by
  intro pair r insertion update
  have distinct : (pair.fields.map Field.name).Nodup := by decide
  have models : r.Models pair := Registry.models_run (by decide)
  obtain ⟨insertions, -⟩ := build_everyField distinct models ⟨.sqlite, .reflect⟩
  obtain ⟨-, updates⟩ := build_everyField distinct models ⟨.mysql, .accessor⟩
  exact ⟨distinct, models, insertions _ _, by decide +kernel, updates _ _, by decide +kernel⟩

end RecordSql
