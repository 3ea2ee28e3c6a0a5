import RecordSql.Model.Index
import RecordSql.Proofs.Columns
/-! # The model of an entity, exactly

A model is refused for what stands in its way first: an entity without fields, the first tag that
is malformed, or the first option for a field that is not declared. A model that is made has the
declared fields in their order, and of several options for one name the last counts. Lookups find
what is there now, also through the tables of positions that go with the model. -/
set_option autoImplicit false
namespace RecordSql

/-! ## The first obstacle -/

/-- One of the items is bad, and all in front of it are good. -/
def First {α : Type} (good bad : α → Prop) (items : List α) : Prop :=
  ∃ front a back, items = front ++ a :: back ∧ (∀ b ∈ front, good b) ∧ bad a

section First

variable {α : Type} {good bad : α → Prop}

theorem first_nil : ¬ First good bad [] := by
  rintro ⟨front, a, back, split, -⟩
  simp at split

theorem first_cons {a : α} {rest : List α} :
    First good bad (a :: rest) ↔ bad a ∨ good a ∧ First good bad rest := by
  constructor
  · rintro ⟨front, b, back, split, before, here⟩
    rcases List.cons_eq_append_iff.mp split with ⟨rfl, same⟩ | ⟨more, rfl, rfl⟩
    · obtain ⟨rfl, -⟩ := List.cons.inj same
      exact .inl here
    · exact .inr ⟨before a List.mem_cons_self, more, b, back, rfl,
        fun c member => before c (List.mem_cons_of_mem a member), here⟩
  · rintro (here | ⟨own, front, b, back, rfl, before, here⟩)
    · exact ⟨[], a, rest, rfl, by simp, here⟩
    · exact ⟨a :: front, b, back, rfl, List.forall_mem_cons.mpr ⟨own, before⟩, here⟩

end First

def Field.IsTagged (f : Field) : Prop := ∃ tag, Tag.parse f.tag = .ok tag

namespace ModelOption

def AppliesTo (e : Entity) : ModelOption → Prop
  | tableName _ => True
  | columnName name _ => name ∈ e.fields.map Field.name

def Misses (e : Entity) (name : String) : ModelOption → Prop
  | tableName _ => False
  | columnName field _ => field = name ∧ name ∉ e.fields.map Field.name

def table? : ModelOption → Option String
  | tableName name => some name
  | columnName _ _ => none

def columnOf? (name : String) : ModelOption → Option String
  | tableName _ => none
  | columnName field column => if field = name then some column else none

def lastTable? (options : List ModelOption) : Option String := (options.filterMap table?).getLast?

def lastColumn? (name : String) (options : List ModelOption) : Option String :=
  (options.filterMap (columnOf? name)).getLast?

end ModelOption

/-- What stands in the way of a model of the entity. -/
inductive Entity.Obstacle (e : Entity) (options : List ModelOption) : Error → Prop
  | noFields (without : e.fields = []) : Obstacle e options (.invalidType e.typeName)
  | tag {err : Error}
      (first : First Field.IsTagged (fun f => Tag.parse f.tag = .error err) e.fields) :
      Obstacle e options err
  | option {name : String} (some : e.fields ≠ []) (tags : ∀ f ∈ e.fields, f.IsTagged)
      (first : First (ModelOption.AppliesTo e) (ModelOption.Misses e name) options) :
      Obstacle e options (.unknownField name)

namespace Model

variable {e : Entity} {m after : Model} {options : List ModelOption}

theorem exists_mapFields_iff (start : Nat) (fields : List Field) :
    (∃ mapped, mapFields start fields = .ok mapped) ↔ ∀ f ∈ fields, f.IsTagged := by
  induction fields generalizing start with
  | nil => simp [mapFields]
  | cons f rest ih =>
    rw [List.forall_mem_cons, ← ih (start + 1), mapFields, Field.IsTagged]
    cases Tag.parse f.tag with
    | error err => simp
    | ok tag => cases mapFields (start + 1) rest <;> simp

theorem mapFields_eq_error_iff (start : Nat) (fields : List Field) (err : Error) :
    mapFields start fields = .error err ↔
      First Field.IsTagged (fun f => Tag.parse f.tag = .error err) fields := by
  induction fields generalizing start with
  | nil => simp [mapFields, first_nil]
  | cons f rest ih =>
    rw [first_cons, ← ih (start + 1), mapFields, Field.IsTagged]
    cases Tag.parse f.tag with
    | error other => simp
    | ok tag => cases mapFields (start + 1) rest <;> simp

theorem Lists.field?_eq_none_iff (lists : m.Lists e) (name : String) :
    m.field? name = none ↔ name ∉ e.fields.map Field.name := by
  rw [field?, findRev?_key_eq_none_iff, lists.map_name]

theorem Lists.exists_applyOption_iff (lists : m.Lists e) {option : ModelOption} :
    (∃ after, m.applyOption option = .ok after) ↔ option.AppliesTo e := by
  cases option with
  | tableName name => simp [Model.applyOption, ModelOption.AppliesTo]
  | columnName name column =>
    have unknown := lists.field?_eq_none_iff name
    rw [Model.applyOption, ModelOption.AppliesTo]
    cases found : m.field? name with
    | none => simpa [found] using unknown
    | some f => simpa [found] using unknown

theorem Lists.applyOption_eq_error_iff (lists : m.Lists e) (option : ModelOption) (err : Error) :
    m.applyOption option = .error err ↔
      ∃ name, err = .unknownField name ∧ option.Misses e name := by
  cases option with
  | tableName name => simp [Model.applyOption, ModelOption.Misses]
  | columnName name column =>
    have unknown := lists.field?_eq_none_iff name
    simp only [Model.applyOption, ModelOption.Misses]
    cases found : m.field? name with
    | none =>
      simp only [found, true_iff] at unknown
      constructor
      · intro refused
        exact ⟨name, (Except.error.inj refused).symm, rfl, unknown⟩
      · rintro ⟨_, rfl, rfl, -⟩
        rfl
    | some f =>
      simp only [found, reduceCtorEq, false_iff] at unknown
      constructor
      · intro refused
        contradiction
      · rintro ⟨_, -, rfl, absent⟩
        exact absurd absent unknown

theorem Lists.exists_applyOptions_iff (lists : m.Lists e) (options : List ModelOption) :
    (∃ after, m.applyOptions options = .ok after) ↔ ∀ o ∈ options, o.AppliesTo e := by
  induction options generalizing m with
  | nil => simp [Model.applyOptions]
  | cons option rest ih =>
    rw [List.forall_mem_cons, ← lists.exists_applyOption_iff, Model.applyOptions]
    cases step : m.applyOption option with
    | error err => simp
    | ok next => simpa using ih (lists.applyOption step)

theorem Lists.applyOptions_eq_error_iff (lists : m.Lists e) {err : Error} :
    m.applyOptions options = .error err ↔ ∃ name, err = .unknownField name ∧
      First (ModelOption.AppliesTo e) (ModelOption.Misses e name) options := by
  induction options generalizing m with
  | nil => simp [Model.applyOptions, first_nil]
  | cons option rest ih =>
    simp only [first_cons, ← lists.exists_applyOption_iff, Model.applyOptions]
    have refused := lists.applyOption_eq_error_iff option err
    cases step : m.applyOption option with
    | error other =>
      rw [step] at refused
      simpa using refused
    | ok next =>
      have later := ih (lists.applyOption step)
      have misses (name : String) : ¬ option.Misses e name := by
        intro missed
        have failed := (lists.applyOption_eq_error_iff option (.unknownField name)).mpr
          ⟨name, rfl, missed⟩
        rw [step] at failed
        contradiction
      simpa [misses] using later

/-! ## What options leave -/

theorem Lists.nodup_name (lists : m.Lists e) (distinct : (e.fields.map Field.name).Nodup) :
    (m.fields.map MappedField.name).Nodup := lists.map_name ▸ distinct

theorem Lists.index_eq_iff (lists : m.Lists e) (distinct : (e.fields.map Field.name).Nodup)
    {f g : MappedField} (here : f ∈ m.fields) (there : g ∈ m.fields) :
    f.index = g.index ↔ f.name = g.name := by
  obtain ⟨i, rfl⟩ := lists.exists_fieldAt here
  obtain ⟨j, rfl⟩ := lists.exists_fieldAt there
  constructor
  · intro same
    rw [(lists.name_index_fieldAt i).2, (lists.name_index_fieldAt j).2] at same
    rw [Fin.ext same]
  · intro same
    rw [List.inj_on_of_nodup_map (lists.nodup_name distinct) here there same]

/-- One option sets the table, or the column of the field with its name. -/
theorem Lists.applyOption_eq (lists : m.Lists e) (distinct : (e.fields.map Field.name).Nodup)
    {option : ModelOption} (done : m.applyOption option = .ok after) :
    after.table = option.table?.getD m.table ∧
      after.fields = m.fields.map fun f =>
        { f with column := (option.columnOf? f.name).getD f.column } := by
  cases option with
  | tableName name =>
    obtain rfl := Except.ok.inj done
    simp [ModelOption.table?, ModelOption.columnOf?]
  | columnName name column =>
    rw [Model.applyOption] at done
    cases found : m.field? name with
    | none => simp [found] at done
    | some g =>
      rw [found] at done
      obtain rfl := Except.ok.inj done
      obtain ⟨member, named⟩ := mem_of_findRev?_key found
      refine ⟨rfl, List.map_congr_left fun f inside => ?_⟩
      have same := lists.index_eq_iff distinct inside member
      rw [named] at same
      by_cases own : f.name = name
      · rw [if_pos (same.mpr own), ModelOption.columnOf?, if_pos own.symm, Option.getD_some]
      · rw [if_neg (mt same.mp own), ModelOption.columnOf?, if_neg (Ne.symm own), Option.getD_none]

theorem getLast?_filterMap_cons {α β : Type} (f : α → Option β) (a : α) (rest : List α)
    (start : β) : (((a :: rest).filterMap f).getLast?).getD start =
      ((rest.filterMap f).getLast?).getD ((f a).getD start) := by
  rw [List.filterMap_cons]
  cases f a with
  | none => rfl
  | some b => rw [List.getLast?_cons, Option.getD_some, Option.getD_some]

/-- After all options, the last one for the table and the last one for each field count. -/
theorem Lists.applyOptions_eq (lists : m.Lists e) (distinct : (e.fields.map Field.name).Nodup)
    (done : m.applyOptions options = .ok after) :
    after.table = (ModelOption.lastTable? options).getD m.table ∧
      after.fields = m.fields.map fun f =>
        { f with column := (ModelOption.lastColumn? f.name options).getD f.column } := by
  induction options generalizing m with
  | nil =>
    obtain rfl := Except.ok.inj done
    simp [ModelOption.lastTable?, ModelOption.lastColumn?]
  | cons option rest ih =>
    rw [Model.applyOptions] at done
    cases step : m.applyOption option with
    | error err => simp [step] at done
    | ok next =>
      rw [step] at done
      obtain ⟨table, fields⟩ := lists.applyOption_eq distinct step
      obtain ⟨lastTable, lastFields⟩ := ih (lists.applyOption step) done
      constructor
      · rw [lastTable, table, ModelOption.lastTable?, ModelOption.lastTable?,
          getLast?_filterMap_cons]
      · rw [lastFields, fields, List.map_map]
        refine List.map_congr_left fun f _ => ?_
        simp only [Function.comp_apply, ModelOption.lastColumn?, getLast?_filterMap_cons]

/-- The model is what the entity and the options say: the table and the columns of its declaration,
as far as no option gives another one. -/
structure IsModelOf (m : Model) (e : Entity) (options : List ModelOption) : Prop where
  table : m.table = (ModelOption.lastTable? options).getD
    (if e.tableHook = "" then underscoreName e.typeName else e.tableHook)
  length : m.fields.length = e.fields.length
  fields : ∀ (i : Nat) (f : Field), e.fields[i]? = some f → ∃ tag, Tag.parse f.tag = .ok tag ∧
    m.fields[i]? = some
      { name := f.name
        column := (ModelOption.lastColumn? f.name options).getD
          (underscoreName (((tag.get? "column").filter (· ≠ "")).getD f.name))
        typeName := f.type.name
        index := i }

/-- A name leads to the field of that name, and a column to the last field stored in it now. -/
structure FindsFields (m : Model) : Prop where
  byName : ∀ name f, m.field? name = some f ↔ f ∈ m.fields ∧ f.name = name
  byColumn : ∀ column f, m.fieldByColumn? column = some f ↔ f ∈ m.fields ∧ f.column = column ∧
    ∀ g ∈ m.fields, f.index < g.index → g.column ≠ column
  noColumn : ∀ column, m.fieldByColumn? column = none ↔ ∀ f ∈ m.fields, f.column ≠ column

theorem declaredTable_eq (e : Entity) : declaredTable e =
    if e.tableHook = "" then underscoreName e.typeName else e.tableHook := by
  simp only [declaredTable, String.isEmpty_iff]

theorem declaredColumn_eq (tag : Tag) (name : String) : declaredColumn tag name =
    underscoreName (((tag.get? "column").filter (· ≠ "")).getD name) := by
  rw [declaredColumn]
  cases tag.get? "column" with
  | none => rfl
  | some column =>
    rw [Option.filter_some]
    by_cases empty : column = ""
    · simp [empty]
    · simp [empty]

theorem ofEntity_eq_ok (made : ofEntity e options = .ok m) :
    ∃ mapped, mapFields 0 e.fields = .ok mapped ∧
      applyOptions ⟨declaredTable e, mapped⟩ options = .ok m := by
  rw [ofEntity] at made
  split at made
  · contradiction
  · cases mapped : mapFields 0 e.fields with
    | error err => simp [mapped] at made
    | ok fields =>
      rw [mapped] at made
      exact ⟨fields, rfl, made⟩

theorem isModelOf_of_ofEntity (distinct : (e.fields.map Field.name).Nodup)
    (made : ofEntity e options = .ok m) : m.IsModelOf e options := by
  obtain ⟨mapped, declared, changed⟩ := ofEntity_eq_ok made
  have start : (Model.mk (declaredTable e) mapped).Lists e := map_mapFields declared
  obtain ⟨table, fields⟩ := start.applyOptions_eq distinct changed
  refine ⟨by rw [table, declaredTable_eq], (lists_of_ofEntity made).length_eq, ?_⟩
  intro i f here
  obtain ⟨tag, parsed, found⟩ := getElem?_mapFields declared here
  refine ⟨tag, parsed, ?_⟩
  rw [fields, List.getElem?_map, found, declaredColumn_eq, Nat.zero_add]
  rfl

theorem Lists.findsFields (lists : m.Lists e) (distinct : (e.fields.map Field.name).Nodup) :
    m.FindsFields := by
  refine ⟨fun name f => ?_, fun column f => ?_, fun column => ?_⟩
  · constructor
    · exact mem_of_findRev?_key
    · rintro ⟨member, rfl⟩
      exact lists.field?_self distinct member
  · rw [lists.fieldByColumn?_eq_some_iff]
    constructor
    · rintro ⟨member, rfl, last⟩
      exact ⟨member, rfl, last⟩
    · rintro ⟨member, rfl, last⟩
      exact ⟨member, rfl, last⟩
  · rw [fieldByColumn?, findRev?_key_eq_none_iff, List.mem_map]
    constructor
    · intro absent f member same
      exact absent ⟨f, member, same⟩
    · rintro absent ⟨f, member, same⟩
      exact absent f member same

end Model

/-! ## The tables of positions -/

namespace IndexedModel

variable {e : Entity} {m : Model}

theorem getElem?_index (lists : m.Lists e) {f : MappedField} (member : f ∈ m.fields) :
    m.fields[f.index]? = some f := by
  obtain ⟨i, rfl⟩ := lists.exists_fieldAt member
  rw [(lists.name_index_fieldAt i).2]
  exact List.getElem?_eq_getElem (i.cast lists.length_eq.symm).isLt

theorem zipIdx_fields (lists : m.Lists e) :
    m.fields.zipIdx = m.fields.map fun f => (f, f.index) := by
  refine List.ext_getElem (by simp) fun i inside _ => ?_
  rw [List.length_zipIdx] at inside
  have own := (lists.name_index_fieldAt ((⟨i, inside⟩ : Fin m.fields.length).cast lists.length_eq)).2
  rw [List.getElem_zipIdx, List.getElem_map, Nat.zero_add]
  exact congrArg (Prod.mk m.fields[i]) own.symm

/-- A table leads from a key to the position of the last field with it. -/
theorem getElem?_positionsBy_fields (lists : m.Lists e) (key : MappedField → String) (k : String) :
    (positionsBy key m.fields)[k]? =
      (m.fields.findRev? fun f => key f == k).map MappedField.index := by
  rw [getElem?_positionsBy, zipIdx_fields lists, List.findRev?_eq_find?_reverse,
    List.findRev?_eq_find?_reverse, ← List.map_reverse, List.find?_map, Option.map_map]
  rfl

/-- A position that a table gives is in range, and at it is the field that a search finds. -/
theorem lookup_positionsBy (lists : m.Lists e) (key : MappedField → String) (k : String) :
    ((positionsBy key m.fields)[k]?.map fun i => m.fields[i]?) =
      (m.fields.findRev? fun f => key f == k).map some := by
  rw [getElem?_positionsBy_fields lists]
  cases found : m.fields.findRev? fun f => key f == k with
  | none => rfl
  | some f =>
    obtain ⟨member, -⟩ := mem_of_findRev?_key found
    exact congrArg some (getElem?_index lists member)

theorem modify_eq_setColumn (lists : m.Lists e) (i : Nat) (column : String) :
    { m with fields := m.fields.modify i fun field => { field with column } } =
      m.setColumn i column := by
  rw [Model.setColumn]
  congr 1
  refine List.ext_getElem (by simp) fun j inside _ => ?_
  rw [List.length_modify] at inside
  have own : m.fields[j].index = j :=
    (lists.name_index_fieldAt ((⟨j, inside⟩ : Fin m.fields.length).cast lists.length_eq)).2
  rw [List.getElem_modify, List.getElem_map, own]
  by_cases here : i = j
  · rw [if_pos here, if_pos here.symm]
  · rw [if_neg here, if_neg (Ne.symm here)]

/-- An option keeps the tables in step with the fields. -/
theorem applyOption_ofModel (lists : m.Lists e) (option : ModelOption) :
    (ofModel m).applyOption option = (m.applyOption option).map ofModel := by
  cases option with
  | tableName name => rfl
  | columnName name column =>
    have position : (ofModel m).byName[name]? = (m.field? name).map MappedField.index :=
      getElem?_positionsBy_fields lists MappedField.name name
    rw [applyOption, Model.applyOption, position]
    cases m.field? name with
    | none => rfl
    | some f =>
      exact congrArg (fun n => Except.ok (ofModel n)) (modify_eq_setColumn lists f.index column)

theorem applyOptions_ofModel (lists : m.Lists e) (options : List ModelOption) :
    (ofModel m).applyOptions options = (m.applyOptions options).map ofModel := by
  induction options generalizing m with
  | nil => rfl
  | cons option rest ih =>
    rw [applyOptions, applyOption_ofModel lists, Model.applyOptions]
    cases step : m.applyOption option with
    | error err => rfl
    | ok next => exact ih (lists.applyOption step)

theorem ofEntity_eq (e : Entity) (options : List ModelOption) :
    ofEntity e options = (Model.ofEntity e options).map ofModel := by
  rw [ofEntity, Model.ofEntity]
  split
  · rfl
  · cases mapped : Model.mapFields 0 e.fields with
    | error err => rfl
    | ok fields =>
      have start : (Model.mk (Model.declaredTable e) fields).Lists e := Model.map_mapFields mapped
      exact applyOptions_ofModel start options

end IndexedModel

namespace Model

variable {e : Entity} {options : List ModelOption}

theorem exists_ofEntity_iff : (∃ m, ofEntity e options = .ok m) ↔
    e.fields ≠ [] ∧ (∀ f ∈ e.fields, f.IsTagged) ∧ ∀ o ∈ options, o.AppliesTo e := by
  rw [← exists_mapFields_iff 0, ofEntity]
  by_cases without : e.fields = []
  · simp [without]
  · rw [if_neg (by simpa using without)]
    cases mapped : mapFields 0 e.fields with
    | error err => simp
    | ok fields =>
      have start : (Model.mk (declaredTable e) fields).Lists e := map_mapFields mapped
      simpa [without] using start.exists_applyOptions_iff options

theorem ofEntity_eq_error_iff {err : Error} :
    ofEntity e options = .error err ↔ e.Obstacle options err := by
  have tagged := exists_mapFields_iff 0 e.fields
  have untagged (err : Error) := mapFields_eq_error_iff 0 e.fields err
  rw [ofEntity]
  by_cases without : e.fields = []
  · rw [if_pos (by simpa using without)]
    constructor
    · intro refused
      obtain rfl := Except.error.inj refused
      exact .noFields without
    · rintro (_ | first | ⟨some, _, _⟩)
      · rfl
      · rw [without] at first
        exact absurd first first_nil
      · exact absurd without some
  · rw [if_neg (by simpa using without)]
    cases mapped : mapFields 0 e.fields with
    | error other =>
      have first := (untagged other).mp mapped
      constructor
      · intro refused
        obtain rfl := Except.error.inj refused
        exact .tag first
      · rintro (none | another | ⟨_, tags, _⟩)
        · exact absurd none without
        · have refused := (untagged err).mpr another
          rw [mapped] at refused
          obtain rfl := Except.error.inj refused
          rfl
        · obtain ⟨fields, made⟩ := tagged.mpr tags
          rw [mapped] at made
          contradiction
    | ok fields =>
      have start : (Model.mk (declaredTable e) fields).Lists e := map_mapFields mapped
      have tags : ∀ f ∈ e.fields, f.IsTagged := tagged.mp ⟨fields, mapped⟩
      rw [start.applyOptions_eq_error_iff]
      constructor
      · rintro ⟨name, rfl, first⟩
        exact .option without tags first
      · rintro (none | first | ⟨_, _, first⟩)
        · exact absurd none without
        · have refused := (untagged err).mpr first
          rw [mapped] at refused
          contradiction
        · exact ⟨_, rfl, first⟩

/-- The model of an entity is made unless something stands in its way, and then refused for what
comes first. What is made is what the entity and the options say; names and columns lead to its
fields as they are now, and the tables of positions lead to the same fields and never out of
range. -/
theorem ofEntity_outcome (distinct : (e.fields.map Field.name).Nodup) :
    ((∃ m, ofEntity e options = .ok m) ↔
      e.fields ≠ [] ∧ (∀ f ∈ e.fields, f.IsTagged) ∧ ∀ o ∈ options, o.AppliesTo e) ∧
    (∀ err, ofEntity e options = .error err ↔ e.Obstacle options err) ∧
    (∀ m, ofEntity e options = .ok m → m.IsModelOf e options ∧ m.FindsFields) ∧
    (IndexedModel.ofEntity e options).map IndexedModel.model = ofEntity e options ∧
    ∀ x, IndexedModel.ofEntity e options = .ok x →
      (∀ name, x.field? name = (x.model.field? name).map some) ∧
        ∀ column, x.fieldByColumn? column = (x.model.fieldByColumn? column).map some := by
  refine ⟨exists_ofEntity_iff, fun err => ofEntity_eq_error_iff, ?_, ?_, ?_⟩
  · intro m made
    exact ⟨isModelOf_of_ofEntity distinct made, (lists_of_ofEntity made).findsFields distinct⟩
  · rw [IndexedModel.ofEntity_eq]
    cases ofEntity e options <;> rfl
  · intro x indexed
    rw [IndexedModel.ofEntity_eq] at indexed
    cases made : ofEntity e options with
    | error err => simp [made, Except.map] at indexed
    | ok m =>
      rw [made] at indexed
      obtain rfl := Except.ok.inj indexed
      have lists := lists_of_ofEntity made
      exact ⟨fun name => IndexedModel.lookup_positionsBy lists MappedField.name name,
        fun column => IndexedModel.lookup_positionsBy lists MappedField.column column⟩

/-- Options that are repeated and give a field the column that another one had, and one for a field
that is not declared. -/
theorem ofEntity_outcome_repeatedOption :
    let e : Entity := .derived 9 "Person" "" [⟨"id", .scalar .int64, ""⟩,
      ⟨"firstName", .scalar .int64, "note=x, column = GivenName"⟩, ⟨"age", .scalar .int64, "column="⟩]
    let options : List ModelOption := [.columnName "id" "age", .tableName "A",
      .columnName "age" "Years", .columnName "id" "Key", .tableName "B"]
    let m : Model := ⟨"B", [⟨"id", "Key", "i64", 0⟩, ⟨"firstName", "given_name", "i64", 1⟩,
      ⟨"age", "Years", "i64", 2⟩]⟩
    (e.fields.map Field.name).Nodup ∧ ofEntity e options = .ok m ∧ m.IsModelOf e options ∧
      m.fieldByColumn? "age" = none ∧
      (∃ x, IndexedModel.ofEntity e options = .ok x ∧ x.fieldByColumn? "age" = none ∧
        x.field? "age" = some (some ⟨"age", "Years", "i64", 2⟩)) ∧
      e.Obstacle (options ++ [.columnName "lost" "x", .columnName "gone" "y"])
        (.unknownField "lost") := by
  intro e options m
  have distinct : (e.fields.map Field.name).Nodup := by decide
  have made : ofEntity e options = .ok m := by decide +kernel
  obtain ⟨-, -, described, same, leads⟩ := @ofEntity_outcome e options distinct
  obtain ⟨-, refused, -⟩ := @ofEntity_outcome e
    (options ++ [.columnName "lost" "x", .columnName "gone" "y"]) distinct
  obtain ⟨isModel, finds⟩ := described m made
  have gone : m.fieldByColumn? "age" = none := (finds.noColumn "age").mpr (by decide)
  refine ⟨distinct, made, isModel, gone, ?_, (refused _).mp (by decide +kernel)⟩
  rw [made] at same
  cases indexed : IndexedModel.ofEntity e options with
  | error err => simp [indexed, Except.map] at same
  | ok x =>
    rw [indexed] at same
    have current : x.model = m := Except.ok.inj same
    obtain ⟨byName, byColumn⟩ := leads x indexed
    have found : m.field? "age" = some ⟨"age", "Years", "i64", 2⟩ :=
      (finds.byName _ _).mpr (by decide)
    refine ⟨x, rfl, ?_, ?_⟩
    · rw [byColumn, current, gone]
      rfl
    · rw [byName, current, found]
      rfl

end Model

end RecordSql
