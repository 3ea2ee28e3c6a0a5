import Mathlib.Data.List.Nodup
import RecordSql.Materializer
/-! # Models of derived entities

A model lists the fields of its entity under their names and positions, in the order of their
declaration. Options change the table and the columns, never this list. In an entity as a
derivation makes it, the name and the position of a listed field lead to the same content of
a record. -/
set_option autoImplicit false
namespace RecordSql

section Keys

variable {α κ : Type} [DecidableEq κ] {key : α → κ} {entries : List α} {k : κ} {a : α}

theorem mem_of_findRev?_key (found : entries.findRev? (fun b => key b == k) = some a) :
    a ∈ entries ∧ key a = k := by
  rw [List.findRev?_eq_find?_reverse] at found
  have member := List.mem_of_find?_eq_some found
  have matched := List.find?_some found
  exact ⟨List.mem_reverse.mp member, by simpa using matched⟩

theorem findRev?_key_eq_none_iff :
    entries.findRev? (fun b => key b == k) = none ↔ k ∉ entries.map key := by
  rw [List.findRev?_eq_find?_reverse, List.find?_eq_none]
  simp

/-- Where keys are distinct, the last entry with a key is the only one. -/
theorem findRev?_key (distinct : (entries.map key).Nodup) (member : a ∈ entries) :
    entries.findRev? (fun b => key b == key a) = some a := by
  cases found : entries.findRev? (fun b => key b == key a) with
  | none => exact absurd (List.mem_map_of_mem member) (findRev?_key_eq_none_iff.mp found)
  | some b =>
    obtain ⟨inside, same⟩ := mem_of_findRev?_key found
    rw [List.inj_on_of_nodup_map distinct inside member same]

end Keys

theorem find?_key {α κ : Type} [BEq κ] [LawfulBEq κ] {key : α → κ} {entries : List α} {a : α}
    (distinct : (entries.map key).Nodup) (member : a ∈ entries) :
    entries.find? (fun b => key b == key a) = some a := by
  cases found : entries.find? (fun b => key b == key a) with
  | none =>
    have differs := List.find?_eq_none.mp found a member
    simp at differs
  | some b =>
    have inside := List.mem_of_find?_eq_some found
    have same : key b = key a := by simpa using List.find?_some found
    rw [List.inj_on_of_nodup_map distinct inside member same]

/-- An entity as a derivation makes it: every field has an accessor, no name is hidden, and no
two fields share their name. -/
structure Entity.IsDerived (e : Entity) : Prop where
  reached : e.accessorCount = e.fields.length
  visible : e.hidden = []
  distinct : (e.fields.map Field.name).Nodup

theorem Entity.isDerived_derived {identity : Nat} {typeName hook : String} {fields : List Field}
    (distinct : (fields.map Field.name).Nodup) :
    (Entity.derived identity typeName hook fields).IsDerived := ⟨rfl, rfl, distinct⟩

namespace Entity.IsDerived

variable {e : Entity}

theorem name_injective (derived : e.IsDerived) :
    Function.Injective fun i : Fin e.fields.length => (e.fields.get i).name := by
  intro i j same
  have fields : e.fields.get i = e.fields.get j :=
    List.inj_on_of_nodup_map derived.distinct (List.get_mem _ i) (List.get_mem _ j) same
  have unrepeated : e.fields.Nodup := .of_map _ derived.distinct
  exact unrepeated.injective_get fields

theorem position?_name (derived : e.IsDerived) (i : Fin e.fields.length) :
    e.position? (e.fields.get i).name = some i := by
  have first :
      e.fields.findFinIdx? (fun field => field.name == (e.fields.get i).name) = some i := by
    rw [List.findFinIdx?_eq_some_iff]
    refine ⟨beq_self_eq_true _, fun j before same => ?_⟩
    have equal : j = i := derived.name_injective (by simpa using same)
    omega
  rw [position?, derived.visible, if_neg (by simp), first]

theorem exists_accessor (derived : e.IsDerived) (i : Fin e.fields.length) :
    ∃ a : e.Accessor, e.accessor? i.val = some a ∧ a.position = i := by
  have inside : i.val < e.accessorCount := by
    rw [derived.reached]
    exact i.isLt
  exact ⟨⟨i, inside⟩, by rw [accessor?, dif_pos i.isLt, dif_pos inside], rfl⟩

end Entity.IsDerived

namespace Model

variable {m after : Model} {e : Entity}

def Lists (m : Model) (e : Entity) : Prop :=
  m.fields.map (fun field => (field.name, field.index)) = (e.fields.map Field.name).zipIdx

theorem map_mapFields {start : Nat} {fields : List Field} {mapped : List MappedField}
    (done : mapFields start fields = .ok mapped) :
    mapped.map (fun field => (field.name, field.index)) =
      (fields.map Field.name).zipIdx start := by
  induction fields generalizing start mapped with
  | nil =>
    simp only [mapFields, Except.ok.injEq] at done
    subst done
    rfl
  | cons field rest ih =>
    simp only [mapFields] at done
    split at done
    next => simp at done
    next tag _ =>
      split at done
      next => simp at done
      next more tail =>
        simp only [Except.ok.injEq] at done
        subst done
        rw [List.map_cons, List.map_cons, List.zipIdx_cons, ih tail]

theorem getElem?_mapFields {start i : Nat} {fields : List Field} {mapped : List MappedField}
    {f : Field} (made : mapFields start fields = .ok mapped) (declared : fields[i]? = some f) :
    ∃ tag, Tag.parse f.tag = .ok tag ∧
      mapped[i]? = some ⟨f.name, declaredColumn tag f.name, f.type.name, start + i⟩ := by
  induction fields generalizing start mapped i with
  | nil => simp at declared
  | cons first rest ih =>
    rw [mapFields] at made
    cases parsed : Tag.parse first.tag with
    | error err => simp [parsed] at made
    | ok tag =>
      cases later : mapFields (start + 1) rest with
      | error err => simp [parsed, later] at made
      | ok others =>
        rw [parsed, later] at made
        obtain rfl := Except.ok.inj made
        cases i with
        | zero =>
          obtain rfl : first = f := by simpa using declared
          exact ⟨tag, parsed, rfl⟩
        | succ i =>
          rw [List.getElem?_cons_succ] at declared ⊢
          rw [Nat.add_comm i 1, ← Nat.add_assoc]
          exact ih later declared

theorem Lists.setColumn (lists : m.Lists e) (index : Nat) (column : String) :
    (m.setColumn index column).Lists e := by
  rw [Lists, ← lists, Model.setColumn, List.map_map]
  refine List.map_congr_left fun field _ => ?_
  by_cases here : field.index = index
  · simp [here]
  · simp [here]

theorem Lists.applyOption (lists : m.Lists e) {option : ModelOption}
    (done : m.applyOption option = .ok after) : after.Lists e := by
  cases option with
  | tableName name =>
    simp only [Model.applyOption, Except.ok.injEq] at done
    subst done
    exact lists
  | columnName name column =>
    simp only [Model.applyOption] at done
    split at done
    next field _ =>
      simp only [Except.ok.injEq] at done
      subst done
      exact lists.setColumn field.index column
    next => simp at done

theorem Lists.applyOptions (lists : m.Lists e) {options : List ModelOption}
    (done : m.applyOptions options = .ok after) : after.Lists e := by
  induction options generalizing m with
  | nil =>
    simp only [Model.applyOptions, Except.ok.injEq] at done
    exact done ▸ lists
  | cons option rest ih =>
    simp only [Model.applyOptions] at done
    split at done
    next => simp at done
    next changed step => exact ih (lists.applyOption step) done

/-- Every model of an entity lists its fields, whatever the options. -/
theorem lists_of_ofEntity {options : List ModelOption} (made : ofEntity e options = .ok m) :
    m.Lists e := by
  unfold ofEntity at made
  split at made
  · simp at made
  · split at made
    next => simp at made
    next fields mapped =>
      have start : (Model.mk (declaredTable e) fields).Lists e := map_mapFields mapped
      exact start.applyOptions made

theorem Lists.map_name (lists : m.Lists e) :
    m.fields.map MappedField.name = e.fields.map Field.name := by
  have names := congrArg (List.map Prod.fst) lists
  rw [List.map_map, List.zipIdx_map_fst] at names
  exact names

theorem Lists.length_eq (lists : m.Lists e) : m.fields.length = e.fields.length := by
  have lengths := congrArg List.length lists.map_name
  simpa using lengths

def Lists.fieldAt (lists : m.Lists e) (i : Fin e.fields.length) : MappedField :=
  m.fields[i.cast lists.length_eq.symm]

theorem Lists.fieldAt_mem (lists : m.Lists e) (i : Fin e.fields.length) :
    lists.fieldAt i ∈ m.fields := List.getElem_mem _

theorem Lists.name_index_fieldAt (lists : m.Lists e) (i : Fin e.fields.length) :
    (lists.fieldAt i).name = (e.fields.get i).name ∧ (lists.fieldAt i).index = i.val := by
  have inside : i.val < m.fields.length := (i.cast lists.length_eq.symm).isLt
  have listed : (m.fields.map fun field => (field.name, field.index))[i.val]? =
      (e.fields.map Field.name).zipIdx[i.val]? := by rw [lists]
  simpa [inside, fieldAt] using listed

theorem Lists.map_fieldAt (lists : m.Lists e) :
    (List.finRange e.fields.length).map lists.fieldAt = m.fields := by
  refine List.ext_getElem (by simp [lists.length_eq]) fun i _ _ => ?_
  simp [fieldAt]

theorem Lists.exists_fieldAt (lists : m.Lists e) {field : MappedField} (member : field ∈ m.fields) :
    ∃ i, lists.fieldAt i = field := by
  rw [← lists.map_fieldAt, List.mem_map] at member
  obtain ⟨i, -, same⟩ := member
  exact ⟨i, same⟩

theorem Lists.field?_name (lists : m.Lists e) (derived : e.IsDerived) (i : Fin e.fields.length) :
    m.field? (e.fields.get i).name = some (lists.fieldAt i) := by
  have distinct : (m.fields.map MappedField.name).Nodup := by
    rw [lists.map_name]
    exact derived.distinct
  have found := findRev?_key distinct (lists.fieldAt_mem i)
  rw [(lists.name_index_fieldAt i).1] at found
  exact found

end Model

end RecordSql
