import RecordSql.Proofs.Accessors
/-! # Entities of generated code

An item whose field types are those that records have by themselves gives an entity. The
accessors of the entity, and its ways to reach a field by name, do to a record what the code
does that is generated for the item. -/
set_option autoImplicit false
namespace RecordSql.Declare

variable {scope : Scope} {fields : List ItemField} {declared : List Field}

/-- The names of the types that records have by themselves stand for these. -/
def Scope.IsPlain (scope : Scope) : Prop :=
  ∀ written t, FieldType.ofName? (joined written) = some t → scope written = .ofFieldType t

/-- The declared fields are those of an item, with what their types stand for. -/
structure Declares (scope : Scope) (fields : List ItemField) (declared : List Field) : Prop where
  length : fields.length = declared.length
  name : ∀ (i : Fin fields.length) (j : Fin declared.length), i.val = j.val →
    (fields.get i).name = (declared.get j).name
  type : ∀ (i : Fin fields.length) (j : Fin declared.length), i.val = j.val →
    scope.typeOf i = .ofFieldType (declared.get j).type

theorem map_toFields? {schema : List SchemaField}
    (read : SchemaField.toFields? schema = some declared) :
    (schema.map fun field => (field.name, FieldType.ofName? field.typeName)) =
      declared.map fun field => (field.name, some field.type) := by
  induction schema generalizing declared with
  | nil =>
    obtain rfl := Option.some.inj read
    rfl
  | cons field rest ih =>
    rw [SchemaField.toFields?] at read
    split at read
    next type others known later =>
      obtain rfl := Option.some.inj read
      rw [List.map_cons, List.map_cons, ih later, known]
    next => simp at read

theorem declares_of_toFields? {x : Expansion} (plain : scope.IsPlain) (covers : x.Covers fields)
    (read : SchemaField.toFields? x.schema = some declared) : Declares scope fields declared := by
  have written : (fields.map fun field => (field.name, FieldType.ofName? (joined field.type))) =
      declared.map fun field => (field.name, some field.type) := by
    have parts := congrArg (List.map (Prod.map id FieldType.ofName?)) covers.schema
    rw [List.map_map, List.map_map] at parts
    exact parts.symm.trans (map_toFields? read)
  have length : fields.length = declared.length := by simpa using congrArg List.length written
  have each (i : Fin fields.length) (j : Fin declared.length) (same : i.val = j.val) :
      (fields.get i).name = (declared.get j).name ∧
        FieldType.ofName? (joined (fields.get i).type) = some (declared.get j).type := by
    obtain ⟨i, inside⟩ := i
    obtain ⟨j, within⟩ := j
    obtain rfl : i = j := same
    have part := List.getElem_of_eq written (by simpa using inside)
    simpa using part
  exact ⟨length, fun i j same => (each i j same).1,
    fun i j same => plain _ _ (each i j same).2⟩

structure Object.Represents (o : Object scope fields) (r : Record declared) : Prop where
  content : ∀ (i : Fin fields.length) (j : Fin declared.length), i.val = j.val →
    HEq (o.content i) (r.content j)

/-- Setting a field had the same effect, or was refused for the same reason without any. -/
def Object.Agrees (o : Object scope fields) :
    Except ConversionError Unit × Object scope fields →
      Except ConversionError (Record declared) → Prop
  | (.ok (), after), .ok s => after.Represents s
  | (.error refusal, after), .error reason => refusal = reason ∧ after = o
  | _, _ => False

/-- The same for the field of a name, which there may be none of. -/
def Object.AgreesByName (o : Object scope fields) :
    Option (Except ConversionError Unit) × Object scope fields →
      Option (Except ConversionError (Record declared)) → Prop
  | (some outcome, after), some result => o.Agrees (outcome, after) result
  | (none, after), none => after = o
  | _, _ => False

namespace Object.Represents

variable {o : Object scope fields} {r : Record declared} {i : Fin fields.length}
  {j : Fin declared.length}

theorem value_eq (represents : o.Represents r) (declares : Declares scope fields declared)
    (same : i.val = j.val) : o.value i = r.value j := by
  have general {A : Convertible} {t : FieldType} (equal : A = .ofFieldType t) (a : A.Content)
      (c : t.Content) (content : HEq a c) : A.toValue a = t.toValue c := by
    subst equal
    rw [eq_of_heq content]
    rfl
  rw [o.value_eq]
  exact general (declares.type i j same) _ _ (represents.content i j same)

theorem put (represents : o.Represents r) (same : i.val = j.val)
    {c : (scope.typeOf i).Content} {d : (declared.get j).type.Content} (content : HEq c d) :
    (o.put i c).Represents (r.put j d) := by
  constructor
  intro k l equal
  by_cases own : k = i
  · subst own
    obtain rfl : l = j := Fin.ext (equal.symm.trans same)
    rw [content_put_self, Record.content_put_self]
    exact content
  · have other : l ≠ j := by
      intro met
      subst met
      exact own (Fin.ext (equal.trans same.symm))
    rw [o.content_put_of_ne c own, r.content_put_of_ne d other]
    exact represents.content k l equal

theorem agrees_mapAssign (represents : o.Represents r) (declares : Declares scope fields declared)
    (same : i.val = j.val) (v : Value) : o.Agrees ((mapAssign i v).run o) (r.set j v) := by
  have general {A : Convertible} {t : FieldType} (equal : A = .ofFieldType t) :
      (∃ refusal, A.ofValue v = .error refusal ∧ t.ofValue v = .error refusal) ∨
        ∃ c d, A.ofValue v = .ok c ∧ t.ofValue v = .ok d ∧ HEq c d := by
    subst equal
    cases converted : t.ofValue v with
    | error refusal => exact .inl ⟨refusal, converted, rfl⟩
    | ok c => exact .inr ⟨c, c, converted, rfl, HEq.rfl⟩
  obtain ⟨refusal, refused, known⟩ | ⟨c, d, converted, known, content⟩ :=
    general (declares.type i j same)
  · have set : r.set j v = .error refusal := congrArg (Except.map (r.put j)) known
    rw [mapAssign_error refused, set]
    exact ⟨rfl, rfl⟩
  · have set : r.set j v = .ok (r.put j d) := congrArg (Except.map (r.put j)) known
    rw [mapAssign_ok converted, set]
    exact represents.put same content

end Object.Represents

theorem Declares.exists_represents (declares : Declares scope fields declared)
    (r : Record declared) : ∃ o : Object scope fields, o.Represents r := by
  let place (i : Fin fields.length) : Fin declared.length := i.cast declares.length
  have content (i : Fin fields.length) :
      (declared.get (place i)).type.Content = (scope.typeOf i).Content := by
    rw [declares.type i (place i) rfl]
    rfl
  refine ⟨⟨fun i => cast (content i) (r.content (place i))⟩, ⟨?_⟩⟩
  intro i j same
  obtain rfl : place i = j := Fin.ext same
  exact cast_heq _ _

theorem Declares.map_name (declares : Declares scope fields declared) :
    declared.map Field.name = fields.map ItemField.name := by
  apply List.ext_getElem
  · simp [declares.length]
  · intro i within inside
    rw [List.length_map] at within inside
    rw [List.getElem_map, List.getElem_map]
    exact (declares.name ⟨i, inside⟩ ⟨i, within⟩ rfl).symm

theorem position?_of_notMem {e : Entity} {name : String}
    (unknown : name ∉ e.fields.map Field.name) : e.position? name = none := by
  rw [Entity.position?]
  split
  · rfl
  · rw [List.findFinIdx?_eq_none_iff]
    intro field listed same
    exact unknown (List.mem_map.mpr ⟨field, listed, eq_of_beq same⟩)

section Entities

variable {e : Entity} {o : Object scope fields} {r : e.Record}

theorem Object.Represents.agrees_accessor (represents : o.Represents r) (derived : e.IsDerived)
    (declares : Declares scope fields e.fields) (i : Fin fields.length) :
    ∃ b, e.accessor? i.val = some b ∧ (Accessor.ofField scope i).name = b.name ∧
      (Accessor.ofField scope i).get o = b.get r ∧
      ∀ v, o.Agrees (((Accessor.ofField scope i).set v).run.run o) (b.set r v) := by
  obtain ⟨b, found, placed⟩ := derived.exists_accessor ⟨i.val, declares.length ▸ i.isLt⟩
  have same : i.val = b.position.val := by rw [placed]
  refine ⟨b, found, declares.name i b.position same, represents.value_eq declares same, ?_⟩
  intro v
  have spelled : ((Accessor.ofField scope i).set v).run = mapAssign i v := run_assign i v
  rw [spelled]
  exact represents.agrees_mapAssign declares same v

theorem Object.Represents.agrees_name (represents : o.Represents r) (derived : e.IsDerived)
    (declares : Declares scope fields e.fields) (distinct : (fields.map ItemField.name).Nodup)
    (schema : List SchemaField) (name : String) :
    let code := Implementation.ofSchema scope fields schema
    code.fieldValue? o name = e.fieldValue? r name ∧
      ∀ v, o.AgreesByName ((code.setFieldValue? name v).run o) (e.setField? r name v) := by
  by_cases listed : name ∈ fields.map ItemField.name
  · obtain ⟨i, rfl⟩ : ∃ i : Fin fields.length, (fields.get i).name = name := by
      obtain ⟨field, member, named⟩ := List.mem_map.mp listed
      obtain ⟨i, rfl⟩ := List.get_of_mem member
      exact ⟨i, named⟩
    let j : Fin e.fields.length := ⟨i.val, declares.length ▸ i.isLt⟩
    have position : e.position? (fields.get i).name = some j := by
      rw [declares.name i j rfl]
      exact derived.position?_name j
    have value : o.value i = r.value j := represents.value_eq declares rfl
    constructor
    · rw [Implementation.fieldValue?_name distinct o i, Entity.fieldValue?, position, value]
      rfl
    · intro v
      rw [Implementation.setFieldValue?_name distinct i, Entity.setField?, position]
      exact represents.agrees_mapAssign declares rfl v
  · have unknown : name ∉ e.fields.map Field.name := by
      rw [declares.map_name]
      exact listed
    rw [Entity.fieldValue?, position?_of_notMem unknown]
    refine ⟨Implementation.fieldValue?_of_notMem listed o, ?_⟩
    intro v
    rw [Implementation.setFieldValue?_of_notMem listed, Entity.setField?,
      position?_of_notMem unknown]
    rfl

end Entities

/-- Where the types of an accepted item can be mapped, the generated code does to a record what
the entity of the item does, at every position of the accessor table and under every name. -/
theorem entity?_agrees {item : Item} {schema : Schema} {identity : Nat} {e : Entity}
    (plain : scope.IsPlain) (accepted : derive item = .ok schema)
    (distinct : (item.fields.map ItemField.name).Nodup) (made : schema.entity? identity = some e) :
    e.IsDerived ∧ ∃ x code, expand item = .ok x ∧ x.link? scope item.fields = some code ∧
      (∀ r : e.Record, ∃ o : Object scope item.fields, o.Represents r) ∧
      ∀ (o : Object scope item.fields) (r : e.Record), o.Represents r →
        (∀ (i : Fin item.fields.length), ∃ a b, code.accessors[i.val]? = some a ∧
          e.accessor? i.val = some b ∧ a.name = b.name ∧ a.get o = b.get r ∧
          ∀ v, o.Agrees ((a.set v).run.run o) (b.set r v)) ∧
        ∀ name, code.fieldValue? o name = e.fieldValue? r name ∧
          ∀ v, o.AgreesByName ((code.setFieldValue? name v).run o) (e.setField? r name v) := by
  rw [derive] at accepted
  cases expanded : expand item with
  | error refusal => simp [expanded, Except.map] at accepted
  | ok x =>
    rw [expanded] at accepted
    obtain rfl := Except.ok.inj accepted
    obtain ⟨declared, read, same⟩ := Option.map_eq_some_iff.mp made
    have covers := covers_expand expanded
    have declares : Declares scope item.fields e.fields := by
      rw [← same]
      exact declares_of_toFields? plain covers read
    have derived : e.IsDerived := by
      rw [← declares.map_name, ← same] at distinct
      rw [← same]
      exact Entity.isDerived_derived distinct
    refine ⟨derived, x, _, rfl, covers.link?_eq distinct scope, declares.exists_represents, ?_⟩
    intro o r represents
    constructor
    · intro i
      obtain ⟨b, found, agrees⟩ := represents.agrees_accessor derived declares i
      exact ⟨.ofField scope i, b, Implementation.getElem?_accessors i, found, agrees⟩
    · intro name
      exact represents.agrees_name derived declares distinct x.schema name

end RecordSql.Declare
