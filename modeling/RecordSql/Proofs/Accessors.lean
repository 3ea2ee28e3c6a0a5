import Mathlib.Data.List.FinRange
import RecordSql.Declare.Implementation
import RecordSql.Proofs.Models
/-! # Accessors of declared fields

The five lists that are generated for an item grow together, field by field. As the fields of an
item have distinct names, every name in the lists leads back to the field it was written for: the
accessor at the position of a field, and the arms under the name of the field, read and assign
that field and no other. -/
set_option autoImplicit false
namespace RecordSql.Declare

/-! ## The lists grow together -/

/-- The lists have their parts for the fields, in order. -/
structure Expansion.Covers (x : Expansion) (fields : List ItemField) : Prop where
  schema : x.schema.map (fun field => (field.name, field.typeName)) =
    fields.map fun field => (field.name, joined field.type)
  functions : x.functions = fields.flatMap ItemField.functions
  entries : x.entries = fields.map ItemField.entry
  getArms : x.getArms = fields.map ItemField.getArm
  setArms : x.setArms = fields.map ItemField.setArm

theorem Expansion.Covers.add {x y : Expansion} {fields : List ItemField} {field : ItemField}
    (covers : x.Covers fields) (added : x.add field = .ok y) : y.Covers (fields ++ [field]) := by
  rw [Expansion.add] at added
  cases tagged : tagOf field.attributes with
  | error r => simp [tagged, Except.map] at added
  | ok tag =>
    rw [tagged] at added
    obtain rfl := Except.ok.inj added
    constructor
    · simp [covers.schema]
    · simp [covers.functions]
    · simp [covers.entries]
    · simp [covers.getArms]
    · simp [covers.setArms]

theorem Expansion.Covers.addAll {x y : Expansion} {front rest : List ItemField}
    (covers : x.Covers front) (added : x.addAll rest = .ok y) : y.Covers (front ++ rest) := by
  induction rest generalizing x front with
  | nil =>
    obtain rfl := Except.ok.inj added
    simpa using covers
  | cons field rest ih =>
    rw [Expansion.addAll] at added
    split at added
    next => simp at added
    next next one =>
      have whole := ih (covers.add one) added
      simpa using whole

theorem covers_expand {item : Item} {x : Expansion} (accepted : expand item = .ok x) :
    x.Covers item.fields := by
  rw [expand] at accepted
  split at accepted
  · simp at accepted
  · split at accepted
    · split at accepted
      next => simp at accepted
      next table _ =>
        have nothing : Expansion.Covers ⟨item.name, table, [], [], [], [], []⟩ [] :=
          ⟨rfl, rfl, rfl, rfl, rfl⟩
        exact nothing.addAll accepted
    all_goals simp at accepted

/-! ## Names of functions -/

namespace ItemField

theorem getterName_inj {f g : ItemField} : f.getterName = g.getterName ↔ f.name = g.name :=
  String.append_right_inj _

theorem setterName_inj {f g : ItemField} : f.setterName = g.setterName ↔ f.name = g.name :=
  String.append_right_inj _

theorem getterName_ne_setterName (f g : ItemField) : f.getterName ≠ g.setterName := by
  intro same
  have letters := congrArg String.toList same
  simp [getterName, setterName] at letters

end ItemField

theorem nodup_functions {fields : List ItemField}
    (distinct : (fields.map ItemField.name).Nodup) :
    ((fields.flatMap ItemField.functions).map AccessorFunction.name).Nodup := by
  rw [List.map_flatMap, List.nodup_flatMap]
  constructor
  · intro f _
    simp [ItemField.functions, AccessorFunction.name, ItemField.getterName_ne_setterName]
  · rw [List.nodup_iff_pairwise_ne, List.pairwise_map] at distinct
    refine distinct.imp ?_
    intro f g differ
    have crossed := (ItemField.getterName_ne_setterName f g).symm
    simp [Function.onFun, ItemField.functions, AccessorFunction.name, ItemField.getterName_inj,
      ItemField.setterName_inj, ItemField.getterName_ne_setterName, Ne.symm differ, crossed]

/-! ## Names lead to fields -/

variable {fields : List ItemField} {x : Expansion}

theorem name_injective (distinct : (fields.map ItemField.name).Nodup) {i j : Fin fields.length}
    (same : (fields.get i).name = (fields.get j).name) : i = j := by
  have equal : fields.get i = fields.get j :=
    List.inj_on_of_nodup_map distinct (List.get_mem _ i) (List.get_mem _ j) same
  have unrepeated : fields.Nodup := .of_map _ distinct
  exact unrepeated.injective_get equal

theorem place?_identifier (distinct : (fields.map ItemField.name).Nodup)
    (i : Fin fields.length) : place? fields (fields.get i).identifier = some i := by
  rw [place?, List.findFinIdx?_eq_some_iff]
  refine ⟨beq_self_eq_true _, ?_⟩
  intro j before same
  have equal : j = i := name_injective distinct (eq_of_beq same)
  omega

theorem target?_identifier (distinct : (fields.map ItemField.name).Nodup)
    (i : Fin fields.length) :
    target? fields (fields.get i).identifier (fields.get i).type = some i := by
  rw [target?, place?_identifier distinct]
  simp

def Accessor.ofField (scope : Scope) (i : Fin fields.length) : Accessor scope fields :=
  ⟨(fields.get i).name, fun o => o.value i, Object.assign i⟩

namespace Expansion.Covers

theorem find?_function (covers : x.Covers fields) (distinct : (fields.map ItemField.name).Nodup)
    (i : Fin fields.length) {function : AccessorFunction}
    (own : function ∈ (fields.get i).functions) :
    x.functions.find? (fun other => other.name == function.name) = some function := by
  rw [covers.functions]
  apply find?_key (nodup_functions distinct)
  exact List.mem_flatMap.mpr ⟨fields.get i, List.get_mem _ _, own⟩

theorem getter?_name (covers : x.Covers fields) (distinct : (fields.map ItemField.name).Nodup)
    (scope : Scope) (i : Fin fields.length) :
    x.getter? (fields.get i).getterName = some fun o : Object scope fields => o.value i := by
  have found : x.functions.find? (fun other => other.name == (fields.get i).getterName) =
      some (.getter (fields.get i).getterName (fields.get i).identifier) :=
    covers.find?_function distinct i List.mem_cons_self
  rw [getter?, found]
  simp only [place?_identifier distinct, Option.map_some]

theorem setter?_name (covers : x.Covers fields) (distinct : (fields.map ItemField.name).Nodup)
    (scope : Scope) (i : Fin fields.length) :
    x.setter? (fields.get i).setterName = some (Object.assign i : Setter scope fields) := by
  have found : x.functions.find? (fun other => other.name == (fields.get i).setterName) =
      some (.setter (fields.get i).setterName (fields.get i).identifier (fields.get i).type) :=
    covers.find?_function distinct i (List.mem_cons_of_mem _ List.mem_cons_self)
  rw [setter?, found]
  simp only [target?_identifier distinct, Option.map_some]

theorem accessor?_entry (covers : x.Covers fields)
    (distinct : (fields.map ItemField.name).Nodup) (scope : Scope) (i : Fin fields.length) :
    x.accessor? (fields.get i).entry = some (Accessor.ofField scope i) := by
  have get := covers.getter?_name distinct scope i
  have set := covers.setter?_name distinct scope i
  simp only [accessor?, ItemField.entry, get, set]
  rfl

end Expansion.Covers

theorem mapM_map {α β γ : Type} {f : α → β} {g : β → Option γ} {h : α → γ} (entries : List α)
    (each : ∀ a, g (f a) = some (h a)) : (entries.map f).mapM g = some (entries.map h) := by
  induction entries with
  | nil => rfl
  | cons a rest ih => simp [each, ih]

def places (fields : List ItemField) : List (String × Fin fields.length) :=
  (List.finRange fields.length).map fun i => ((fields.get i).name, i)

/-- The implementation in which every entry and every arm is for the field at its position. -/
def Implementation.ofSchema (scope : Scope) (fields : List ItemField)
    (schema : List SchemaField) : Implementation scope fields :=
  { schema
    accessors := (List.finRange fields.length).map (Accessor.ofField scope)
    getArms := places fields
    setArms := places fields }

theorem map_eq_map_finRange {β : Type} (part : ItemField → β) :
    fields.map part = (List.finRange fields.length).map fun i => part (fields.get i) := by
  conv => left; rw [← List.map_get_finRange fields]
  rw [List.map_map]
  rfl

theorem Expansion.Covers.link?_eq (covers : x.Covers fields)
    (distinct : (fields.map ItemField.name).Nodup) (scope : Scope) :
    x.link? scope fields = some (.ofSchema scope fields x.schema) := by
  have functions : (x.functions.map AccessorFunction.name).Nodup := by
    rw [covers.functions]
    exact nodup_functions distinct
  have accessors : x.entries.mapM x.accessor? =
      some ((List.finRange fields.length).map (Accessor.ofField scope)) := by
    rw [covers.entries, map_eq_map_finRange]
    exact mapM_map _ fun i => covers.accessor?_entry distinct scope i
  have getArms : (x.getArms.mapM fun arm => (place? fields arm.identifier).map (arm.name, ·)) =
      some (places fields) := by
    rw [covers.getArms, map_eq_map_finRange]
    apply mapM_map
    intro i
    rw [Option.map_eq_some_iff]
    exact ⟨i, place?_identifier distinct i, rfl⟩
  have setArms : (x.setArms.mapM fun arm =>
      (target? fields arm.identifier arm.type).map (arm.name, ·)) = some (places fields) := by
    rw [covers.setArms, map_eq_map_finRange]
    apply mapM_map
    intro i
    rw [Option.map_eq_some_iff]
    exact ⟨i, target?_identifier distinct i, rfl⟩
  rw [link?, accessors, getArms, setArms]
  simp [guard, functions, Implementation.ofSchema]

/-! ## The two ways to a field -/

theorem find?_place (distinct : (fields.map ItemField.name).Nodup) (i : Fin fields.length) :
    (places fields).find? (fun arm => arm.1 == (fields.get i).name) =
      some ((fields.get i).name, i) := by
  have names : ((places fields).map Prod.fst).Nodup := by
    rw [map_eq_map_finRange] at distinct
    rw [places, List.map_map]
    exact distinct
  have listed : ((fields.get i).name, i) ∈ places fields :=
    List.mem_map.mpr ⟨i, List.mem_finRange i, rfl⟩
  exact find?_key names listed

theorem find?_place_eq_none {name : String} (unknown : name ∉ fields.map ItemField.name) :
    (places fields).find? (fun arm => arm.1 == name) = none := by
  rw [List.find?_eq_none]
  intro arm listed same
  obtain ⟨i, -, rfl⟩ := List.mem_map.mp listed
  apply unknown
  rw [List.mem_map]
  exact ⟨fields.get i, List.get_mem _ _, eq_of_beq same⟩

variable {scope : Scope}

/-- The two spellings of an assignment are the same. -/
theorem Object.run_assign (i : Fin fields.length) (v : Value) :
    ((Object.assign : _ → Setter scope fields) i v).run = mapAssign i v := by
  rw [assign, mapAssign]
  cases converted : (scope.typeOf i).ofValue v with
  | error refusal => rfl
  | ok c => rfl

theorem Object.mapAssign_ok {i : Fin fields.length} {v : Value} {c : (scope.typeOf i).Content}
    (converted : (scope.typeOf i).ofValue v = .ok c) (o : Object scope fields) :
    (mapAssign i v).run o = (.ok (), o.put i c) := by
  rw [mapAssign, converted]
  rfl

theorem Object.mapAssign_error {i : Fin fields.length} {v : Value} {refusal : ConversionError}
    (refused : (scope.typeOf i).ofValue v = .error refusal) (o : Object scope fields) :
    (mapAssign i v).run o = (.error refusal, o) := by
  rw [mapAssign, refused]
  rfl

theorem Object.value_put (o : Object scope fields) (i : Fin fields.length)
    (c : (scope.typeOf i).Content) : (o.put i c).value i = (scope.typeOf i).toValue c := by
  rw [value, content_put_self]
  exact (scope.typeOf i).toValue_copy c

namespace Implementation

variable {schema : List SchemaField}

theorem map_name_accessors :
    (ofSchema scope fields schema).accessors.map Accessor.name = fields.map ItemField.name := by
  rw [map_eq_map_finRange, ofSchema, List.map_map]
  rfl

theorem getElem?_accessors (i : Fin fields.length) :
    (ofSchema scope fields schema).accessors[i.val]? = some (.ofField scope i) := by
  simp [ofSchema]

theorem fieldValue?_name (distinct : (fields.map ItemField.name).Nodup)
    (o : Object scope fields) (i : Fin fields.length) :
    (ofSchema scope fields schema).fieldValue? o (fields.get i).name = some (o.value i) := by
  have arm : (ofSchema scope fields schema).getArms.find?
      (fun arm => arm.1 == (fields.get i).name) = some ((fields.get i).name, i) :=
    find?_place distinct i
  rw [fieldValue?, arm]
  rfl

theorem setFieldValue?_name (distinct : (fields.map ItemField.name).Nodup)
    (i : Fin fields.length) (v : Value) :
    (ofSchema scope fields schema).setFieldValue? (fields.get i).name v =
      some <$> Object.mapAssign i v := by
  have arm : (ofSchema scope fields schema).setArms.find?
      (fun arm => arm.1 == (fields.get i).name) = some ((fields.get i).name, i) :=
    find?_place distinct i
  rw [setFieldValue?, arm]
  rfl

theorem fieldValue?_of_notMem {name : String} (unknown : name ∉ fields.map ItemField.name)
    (o : Object scope fields) : (ofSchema scope fields schema).fieldValue? o name = none := by
  have arm : (ofSchema scope fields schema).getArms.find? (fun arm => arm.1 == name) = none :=
    find?_place_eq_none unknown
  rw [fieldValue?, arm]
  rfl

theorem setFieldValue?_of_notMem {name : String} (unknown : name ∉ fields.map ItemField.name)
    (v : Value) : (ofSchema scope fields schema).setFieldValue? name v = pure none := by
  have arm : (ofSchema scope fields schema).setArms.find? (fun arm => arm.1 == name) = none :=
    find?_place_eq_none unknown
  rw [setFieldValue?, arm]

end Implementation

theorem Object.value_eq (o : Object scope fields) (i : Fin fields.length) :
    o.value i = (scope.typeOf i).toValue (o.content i) :=
  (scope.typeOf i).toValue_copy (o.content i)

/-- The code that is generated for an accepted item, in which no two fields may share a name, can
be resolved. The accessor at a position is the one for the field there: it reads and sets the
same as the arms for the field's name do, a value that is set reads back as converted, and no
other field changes, nor does any field when the value is refused or the name is none of a
field. -/
theorem link?_expand {item : Item} (scope : Scope) (accepted : expand item = .ok x)
    (distinct : (item.fields.map ItemField.name).Nodup) :
    ∃ code : Implementation scope item.fields, x.link? scope item.fields = some code ∧
      code.schema = x.schema ∧
      code.schema.map SchemaField.name = item.fields.map ItemField.name ∧
      code.accessors.map Accessor.name = code.schema.map SchemaField.name ∧
      (∀ i : Fin item.fields.length, ∃ a, code.accessors[i.val]? = some a ∧
        ∀ o : Object scope item.fields,
          a.get o = (scope.typeOf i).toValue (o.content i) ∧
          code.fieldValue? o (item.fields.get i).name = some (a.get o) ∧
          ∀ v, (code.setFieldValue? (item.fields.get i).name v).run o =
              (some ((a.set v).run.run o).1, ((a.set v).run.run o).2) ∧
            match (scope.typeOf i).ofValue v with
            | .error refusal => (a.set v).run.run o = (.error refusal, o)
            | .ok c => ∃ after, (a.set v).run.run o = (.ok (), after) ∧
                a.get after = (scope.typeOf i).toValue c ∧
                ∀ j, j ≠ i → after.content j = o.content j) ∧
      ∀ name, name ∉ item.fields.map ItemField.name → ∀ o : Object scope item.fields,
        code.fieldValue? o name = none ∧
        ∀ v, (code.setFieldValue? name v).run o = (none, o) := by
  have covers := covers_expand accepted
  have names : x.schema.map SchemaField.name = item.fields.map ItemField.name := by
    have firsts := congrArg (List.map Prod.fst) covers.schema
    rw [List.map_map, List.map_map] at firsts
    exact firsts
  refine ⟨.ofSchema scope item.fields x.schema, covers.link?_eq distinct scope, rfl, names,
    Implementation.map_name_accessors.trans names.symm, ?_, ?_⟩
  · intro i
    have same (v : Value) : ((Accessor.ofField scope i).set v).run = Object.mapAssign i v :=
      Object.run_assign i v
    refine ⟨.ofField scope i, Implementation.getElem?_accessors i, ?_⟩
    intro o
    refine ⟨o.value_eq i, Implementation.fieldValue?_name distinct o i, ?_⟩
    intro v
    rw [Implementation.setFieldValue?_name distinct, same]
    refine ⟨rfl, ?_⟩
    cases converted : (scope.typeOf i).ofValue v with
    | error refusal => exact Object.mapAssign_error converted o
    | ok c =>
      refine ⟨o.put i c, Object.mapAssign_ok converted o, o.value_put i c, ?_⟩
      intro j other
      exact o.content_put_of_ne c other
  · intro name unknown o
    refine ⟨Implementation.fieldValue?_of_notMem unknown o, ?_⟩
    intro v
    rw [Implementation.setFieldValue?_of_notMem unknown]
    rfl

theorem link?_expand_rawName :
    let item : Item := ⟨.namedStruct, "Entry", false, [], [⟨"r#type", [.word "i64"], []⟩,
      ⟨"note", [.word "Option", .mark '<' false, .word "String", .mark '>' false], []⟩]⟩
    let scope : Scope := fun
      | [_] => .ofFieldType (.scalar .int64)
      | _ => .ofFieldType (.optional (.scalar .text))
    let o : Object scope item.fields := ⟨fun
      | ⟨0, _⟩ => (0 : Int64)
      | ⟨1, _⟩ => (none : Option String)⟩
    (item.fields.map ItemField.name).Nodup ∧
      ∃ x code, expand item = .ok x ∧ x.link? scope item.fields = some code ∧
        code.accessors.map Accessor.name = ["type", "note"] ∧
        code.fieldValue? o "type" = some (.int 0) ∧ code.fieldValue? o "r#type" = none ∧
        (∃ after, (code.setFieldValue? "type" (.int 7)).run o = (some (.ok ()), after) ∧
          code.fieldValue? after "type" = some (.int 7) ∧
          code.fieldValue? after "note" = some .null) ∧
        (code.setFieldValue? "note" (.bool true)).run o =
          (some (.error ⟨"String", "bool"⟩), o) := by
  intro item scope o
  have distinct : (item.fields.map ItemField.name).Nodup := by decide +kernel
  obtain ⟨x, accepted⟩ : ∃ x, expand item = .ok x := ⟨_, rfl⟩
  obtain ⟨code, linked, -, names, aligned, each, unknown⟩ := link?_expand scope accepted distinct
  have named : item.fields.map ItemField.name = ["type", "note"] := by decide +kernel
  have typed : (item.fields.get ⟨0, by decide⟩).name = "type" := by decide +kernel
  have noted : (item.fields.get ⟨1, by decide⟩).name = "note" := by decide +kernel
  obtain ⟨a, -, number⟩ := each ⟨0, by decide⟩
  obtain ⟨b, -, text⟩ := each ⟨1, by decide⟩
  simp only [typed, noted] at number text
  obtain ⟨zero, readZero, setNumber⟩ := number o
  obtain ⟨set, after, done, seven, others⟩ := setNumber (.int 7)
  obtain ⟨refused, unchanged⟩ := (text o).2.2 (.bool true)
  rw [done] at set
  rw [unchanged] at refused
  refine ⟨distinct, x, code, accepted, linked, ?_, ?_, ?_, ⟨after, set, ?_, ?_⟩, refused⟩
  · rw [aligned, names, named]
  · rw [readZero, zero]
    rfl
  · exact (unknown "r#type" (by rw [named]; decide +kernel) o).1
  · rw [(number after).2.1, seven]
    rfl
  · have kept := others ⟨1, by decide⟩ (by decide)
    rw [(text after).2.1, (text after).1, kept]
    rfl

end RecordSql.Declare
