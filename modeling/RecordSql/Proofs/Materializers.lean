import RecordSql.Proofs.Models
import RecordSql.Proofs.Rendering
/-! # The two materializers do the same

One materializer reaches a field by its name, the other by its position. On a model of a
derived entity both come to the position of the field that the model finds, so they refuse
the same rows for the same reasons, write the same cells and read the same values. -/
set_option autoImplicit false
namespace RecordSql.Materializer

variable {e : Entity} {m : Model}

def target? (m : Model) (e : Entity) (column : String) : Option (Fin e.fields.length) :=
  (m.fieldByColumn? column).bind fun field =>
    if declared : field.index < e.fields.length then some ⟨field.index, declared⟩ else none

def setAt (i : Fin e.fields.length) (column : String) : Setter e := fun r v =>
  match r.set i v with
  | .error refusal => .error (.ofConversion column refusal)
  | .ok after => .ok after

theorem setByName_eq (derived : e.IsDerived) (i : Fin e.fields.length) (column : String) :
    setByName e (e.fields.get i).name column = setAt i column := by
  funext r v
  rw [setByName, setAt, Entity.setField?, derived.position?_name i, Option.map_some]
  cases r.set i v <;> rfl

theorem setter?_eq (derived : e.IsDerived) (lists : m.Lists e) (k : Materializer)
    (column : String) : k.setter? m e column = (target? m e column).map (setAt · column) := by
  cases found : m.fieldByColumn? column with
  | none => cases k <;> simp [setter?, target?, found]
  | some field =>
    obtain ⟨i, rfl⟩ := lists.exists_fieldAt (mem_of_findRev?_key found).1
    obtain ⟨name, index⟩ := lists.name_index_fieldAt i
    have target : target? m e column = some i := by
      simp [target?, found, index]
    rw [target, Option.map_some]
    cases k with
    | reflect => rw [setter?, found, Option.map_some, name, setByName_eq derived]
    | accessor =>
      obtain ⟨a, reached, rfl⟩ := derived.exists_accessor i
      rw [setter?, found, Option.bind_some, index, reached, Option.map_some]
      rfl

theorem setters_eq (derived : e.IsDerived) (lists : m.Lists e) (k l : Materializer)
    (columns : List String) : k.setters m e columns = l.setters m e columns := by
  induction columns with
  | nil => rfl
  | cons column rest ih =>
    rw [setters, setters, setter?_eq derived lists k, setter?_eq derived lists l, ih]

theorem setColumns_eq (derived : e.IsDerived) (lists : m.Lists e) (k l : Materializer)
    (r : e.Record) (row : Row) : k.setColumns m r row = l.setColumns m r row := by
  rw [setColumns, setColumns, setters_eq derived lists k l]

/-- Both materializers read a field at the position of its name. -/
theorem field_eq (derived : e.IsDerived) (lists : m.Lists e) (k : Materializer) (r : e.Record)
    (name : String) :
    k.field m e r name =
      match e.position? name with
      | some i => .ok (r.value i)
      | none => .error (.unknownField name) := by
  cases found : m.field? name with
  | none =>
    have absent : name ∉ e.fields.map Field.name := by
      rw [← lists.map_name]
      exact findRev?_key_eq_none_iff.mp found
    have unreached : e.position? name = none := by
      rw [Entity.position?, derived.visible, if_neg (by simp), List.findFinIdx?_eq_none_iff]
      intro field member same
      exact absent (List.mem_map.mpr ⟨field, member, by simpa using same⟩)
    cases k <;> simp [field, found, unreached]
  | some mapped =>
    obtain ⟨member, rfl⟩ := mem_of_findRev?_key found
    obtain ⟨i, rfl⟩ := lists.exists_fieldAt member
    obtain ⟨declared, index⟩ := lists.name_index_fieldAt i
    have reached : e.position? (lists.fieldAt i).name = some i := by
      rw [declared]
      exact derived.position?_name i
    cases k with
    | reflect => simp [field, found, Entity.fieldValue?, reached]
    | accessor =>
      obtain ⟨a, atIndex, rfl⟩ := derived.exists_accessor i
      rw [← index] at atIndex
      simp [field, found, atIndex, reached, Entity.Accessor.get]

/-- Rows that are written into one record, one after the other and whatever comes out: each
outcome with the record as it is then. -/
def decodings (k : Materializer) (m : Model) (r : e.Record) :
    List Row → List (Except Error Unit × e.Record)
  | [] => []
  | row :: rest =>
    let step := k.setColumns m r row
    step :: k.decodings m step.2 rest

theorem decodings_eq (derived : e.IsDerived) (lists : m.Lists e) (k l : Materializer)
    (r : e.Record) (rows : List Row) : k.decodings m r rows = l.decodings m r rows := by
  induction rows generalizing r with
  | nil => rfl
  | cons row rest ih => rw [decodings, decodings, setColumns_eq derived lists k l, ih]

/-- On every model of a derived entity the materializers give the same outcome and the same
record for every row of a sequence, and the same value or error for every name. -/
theorem reflect_eq_accessor {options : List ModelOption} (derived : e.IsDerived)
    (made : Model.ofEntity e options = .ok m) :
    (∀ (r : e.Record) (rows : List Row),
        reflect.decodings m r rows = accessor.decodings m r rows) ∧
      ∀ (r : e.Record) (name : String), reflect.field m e r name = accessor.field m e r name := by
  have lists := Model.lists_of_ofEntity made
  refine ⟨fun r rows => decodings_eq derived lists reflect accessor r rows, fun r name => ?_⟩
  rw [field_eq derived lists reflect, field_eq derived lists accessor]

theorem isDerived_account : account.IsDerived := Entity.isDerived_derived (by decide)

theorem reflect_eq_accessor_sharedColumn :
    let options : List ModelOption := [.columnName "owner" "id"]
    let m : Model := ⟨"account", [⟨"id", "id", "i64", 0⟩, ⟨"owner", "id", "i64", 1⟩]⟩
    let r : account.Record := Record.initial
    let rows : List Row :=
      [⟨["id", "id"], [.int 3, .text "x"]⟩, ⟨["id", "owner"], [.int 1, .int 2]⟩, ⟨["id"], []⟩]
    account.IsDerived ∧ Model.ofEntity account options = .ok m ∧
      reflect.decodings m r rows = accessor.decodings m r rows ∧
      (reflect.decodings m r rows).map (fun step => (step.1, Record.values step.2)) =
        [(.error (.decode "id" "cannot convert text into i64"), [.int 0, .int 3]),
          (.error (.unknownColumn "owner"), [.int 0, .int 3]),
          (.error (.decode "id" "row has 0 values for 1 columns"), [.int 0, .int 3])] ∧
      reflect.field m account r "owner" = accessor.field m account r "owner" := by
  intro options m r rows
  have made : Model.ofEntity account options = .ok m := by decide +kernel
  obtain ⟨decoded, read⟩ := reflect_eq_accessor isDerived_account made
  exact ⟨isDerived_account, made, decoded r rows, by decide +kernel, read r "owner"⟩

end RecordSql.Materializer
