import RecordSql.Proofs.Composition
/-! # References

A rendering can fail only where it refers to something: a table without a model, a field that a
model does not have, or an item in a place where it may not stand. `references` lists these
places from left to right, without rendering anything, and `check` judges each by the models that
are in force before the first of them. What is registered on the way does not change that: an
entity gets the model that it would have got anyway (`Registry.Grows.get_eq`). -/
set_option autoImplicit false
namespace RecordSql

/-- What is referred to in a place where that may be refused. -/
inductive Reference
  /-- A table, whose model is asked for. -/
  | table (e : Entity)
  /-- A field of the statement's own model. -/
  | own (field : String)
  /-- A field of the model of a table. -/
  | qualified (e : Entity) (field : String)
  /-- An assignment where an operand is expected. -/
  | misplaced (field : String)
  /-- A bare column that nothing can be assigned to. -/
  | unassignable (name : String)
  /-- Fields that recognise a row, where the dialect insists on them and there are none. -/
  | missingTarget

namespace Reference

/-- Whether a reference holds, and if not its error, by the models in force. -/
def check (r : Registry) (m : Model) : Reference → Except Error Unit
  | table e => (r.get e).map fun _ => ()
  | own field => (m.columnOf field).map fun _ => ()
  | qualified e field =>
    match r.get e with
    | .error err => .error err
    | .ok (model, _) => (model.columnOf field).map fun _ => ()
  | misplaced field => .error (misplacedAssignment field)
  | unassignable name => .error (.unsupportedAssignable name)
  | missingTarget => .error (.invalidExpression "postgres upsert requires conflict columns")

def entity? : Reference → Option Entity
  | table e => some e
  | qualified e _ => some e
  | _ => none

/-- The references in order, up to the first that does not hold. -/
def checkAll (r : Registry) (m : Model) : List Reference → Except Error Unit
  | [] => .ok ()
  | ref :: rest =>
    match ref.check r m with
    | .error err => .error err
    | .ok () => checkAll r m rest

variable {r : Registry} {m : Model}

theorem checkAll_append (front back : List Reference) :
    checkAll r m (front ++ back) =
      match checkAll r m front with
      | .error err => .error err
      | .ok () => checkAll r m back := by
  induction front with
  | nil => rfl
  | cons ref rest ih =>
    rw [List.cons_append, checkAll, checkAll]
    cases ref.check r m with
    | error err => rfl
    | ok _ => exact ih

theorem checkAll_eq_ok_iff {refs : List Reference} :
    checkAll r m refs = .ok () ↔ ∀ ref ∈ refs, ref.check r m = .ok () := by
  induction refs with
  | nil => simp [checkAll]
  | cons ref rest ih =>
    rw [checkAll, List.forall_mem_cons]
    cases ref.check r m with
    | error err => simp
    | ok _ => simpa using ih

theorem checkAll_eq_error_iff {refs : List Reference} {err : Error} :
    checkAll r m refs = .error err ↔
      ∃ front ref back, refs = front ++ ref :: back ∧ (∀ earlier ∈ front, earlier.check r m = .ok ()) ∧
        ref.check r m = .error err := by
  constructor
  · intro failed
    induction refs with
    | nil => simp [checkAll] at failed
    | cons ref rest ih =>
      rw [checkAll] at failed
      cases outcome : ref.check r m with
      | error other =>
        rw [outcome] at failed
        exact ⟨[], ref, rest, rfl, by simp, outcome.trans failed⟩
      | ok _ =>
        rw [outcome] at failed
        obtain ⟨front, first, back, rfl, holds, broken⟩ := ih failed
        exact ⟨ref :: front, first, back, rfl, List.forall_mem_cons.mpr ⟨outcome, holds⟩, broken⟩
  · rintro ⟨front, ref, back, rfl, holds, broken⟩
    rw [checkAll_append, checkAll_eq_ok_iff.mpr holds]
    simp only [checkAll, broken]

end Reference

/-! ## What is referred to, from left to right -/

def Column.references (c : Column) : List Reference :=
  match c.table with
  | none => [.own c.name]
  | some t => [.qualified t.entity c.name]

mutual

/-- A misplaced assignment is refused for itself, whatever its value refers to. -/
def Expr.references : Expr → List Reference
  | .predicate p => p.references
  | .column c => c.references
  | .value _ => []
  | .raw _ => []
  | .assignment field _ => [.misplaced field]

def Predicate.references : Predicate → List Reference
  | .compare left _ right => left.references ++ right.references
  | .and left right => left.references ++ right.references
  | .or left right => left.references ++ right.references
  | .not p => p.references
  | .raw _ => []

end

def Source.references : Source → List Reference
  | .table t => [.table t.entity]
  | .join _ left right fields conditions =>
    left.references ++
      (right.references ++ (fields.map .own ++ conditions.flatMap Predicate.references))

def Selectable.references : Selectable → List Reference
  | .column c => c.references
  | .aggregate a => [.own a.field]
  | .raw _ => []

def Assignment.references (a : Assignment) : List Reference := .own a.field :: a.value.references

def Select.references (s : Select) : List Reference :=
  s.projection.flatMap Selectable.references ++ (s.source.toList.flatMap Source.references ++
    (s.conditions.flatMap Predicate.references ++ (s.groupBy.flatMap Column.references ++
      (s.having.flatMap Predicate.references ++
        s.orderBy.flatMap fun key => key.column.references))))

/-- A bare column takes the value that was to be inserted. -/
def Upsert.itemReferences : Assignable → List Reference
  | .assignment a => a.references
  | .column c =>
    match c.table with
    | none => [.own c.name]
    | some _ => [.unassignable c.name]

/-- MySQL recognises a row by its keys and ignores the fields that are listed for that. -/
def Upsert.targetReferences (dialect : Dialect) (fields : List String) : List Reference :=
  match dialect with
  | .mysql => []
  | .sqlite => fields.map .own
  | .postgres => if fields.isEmpty then [.missingTarget] else fields.map .own

def Upsert.references (dialect : Dialect) (u : Upsert) : List Reference :=
  targetReferences dialect u.conflictFields ++ u.assignments.flatMap itemReferences

section Records

variable {e : Entity}

def Insert.references (dialect : Dialect) (s : Insert e) : List Reference :=
  s.fields.map .own ++ s.upsert.toList.flatMap (Upsert.references dialect)

/-- A bare column takes its value from the record. -/
def Update.itemReferences (record : Option e.Record) : Assignable → List Reference
  | .assignment a => a.references
  | .column c =>
    match record, c.table with
    | some _, none => [.own c.name]
    | _, _ => [.unassignable c.name]

def Update.references (s : Update e) : List Reference :=
  s.assignments.flatMap (itemReferences s.record) ++ s.conditions.flatMap Predicate.references

/-- What a statement refers to besides its own entity, in the order of its text. -/
def Statement.references (dialect : Dialect) : Statement e → List Reference
  | select s => s.references
  | insert s => s.references dialect
  | update s => s.references
  | delete s => s.conditions.flatMap Predicate.references
  | raw _ => []

end Records

/-! ## Models that are asked for later -/

/-- Entities of the same identity are the same. -/
def Faithful (entities : List Entity) : Prop :=
  ∀ f ∈ entities, ∀ g ∈ entities, f.identity = g.identity → f = g

instance (entities : List Entity) : Decidable (Faithful entities) :=
  inferInstanceAs (Decidable (∀ f ∈ entities, ∀ g ∈ entities, f.identity = g.identity → f = g))

namespace Registry

variable {before after : Registry} {asked : List Entity} {e : Entity}

/-- An entity has the model that it had before, or would have had: a registration in between
was of the entity itself. -/
theorem Grows.get_eq (grown : before.Grows asked after) (faithful : Faithful asked)
    (mentioned : e ∈ asked) :
    (after.get e).map Prod.fst = (before.get e).map Prod.fst := by
  have unregistered (r : Registry) (missing : r.find? e.identity = none) :
      (r.get e).map Prod.fst = Model.ofEntity e [] := by
    rw [get, missing]
    simp only [register]
    cases Model.ofEntity e [] <;> rfl
  have registered (r : Registry) {model : Model} (found : r.find? e.identity = some model) :
      (r.get e).map Prod.fst = .ok model := by
    rw [get, found]
    rfl
  cases known : before.find? e.identity with
  | some model => rw [registered before known, registered after (grown.extends _ _ known)]
  | none =>
    rw [unregistered before known]
    cases found : after.find? e.identity with
    | none => exact unregistered after found
    | some model =>
      obtain ⟨f, mentionedToo, same, derived⟩ := grown.derives known found
      obtain rfl : f = e := faithful f mentionedToo e mentioned same
      rw [registered after found, derived]

end Registry
end RecordSql
