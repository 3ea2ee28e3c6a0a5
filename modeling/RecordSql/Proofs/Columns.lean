import RecordSql.Proofs.Materializers
/-! # What a column leads to

Fields may share a column: nothing keeps two tags, a tag and a name, or an option and any of
these apart. A lookup by column then finds the field that is declared last, so a column leads
back to its field exactly when no later field is stored in it. -/
set_option autoImplicit false
namespace RecordSql

/-- The entry that a search from the end finds has the key, and none behind it has. -/
theorem findRev?_key_eq_some_iff {α κ : Type} [DecidableEq κ] {key : α → κ} {entries : List α}
    {k : κ} {a : α} :
    entries.findRev? (fun b => key b == k) = some a ↔
      key a = k ∧ ∃ front back, entries = front ++ a :: back ∧ k ∉ back.map key := by
  rw [List.findRev?_eq_find?_reverse, List.find?_eq_some_iff_append]
  constructor
  · rintro ⟨own, behind, front, split, others⟩
    refine ⟨by simpa using own, front.reverse, behind.reverse, ?_, ?_⟩
    · rw [List.reverse_eq_append_iff] at split
      simpa using split
    · intro listed
      obtain ⟨b, member, same⟩ := List.mem_map.mp listed
      have differs := others b (List.mem_reverse.mp member)
      simp [same] at differs
  · rintro ⟨own, front, back, split, others⟩
    refine ⟨by simpa using own, back.reverse, front.reverse, by simp [split], ?_⟩
    intro b member
    have differs : key b ≠ k := fun same =>
      others (List.mem_map.mpr ⟨b, List.mem_reverse.mp member, same⟩)
    simpa using differs

namespace Model

variable {m : Model} {e : Entity}

theorem Lists.pairwise_index (lists : m.Lists e) :
    m.fields.Pairwise fun f g => f.index < g.index := by
  have positions := congrArg (List.map Prod.snd) lists
  rw [List.map_map, List.zipIdx_map_snd] at positions
  have ordered : (m.fields.map MappedField.index).Pairwise (· < ·) := by
    rw [show m.fields.map MappedField.index = _ from positions]
    exact List.pairwise_lt_range'
  exact List.pairwise_map.mp ordered

/-- No field that is declared behind this one is stored in the same column. -/
def IsLastInColumn (m : Model) (f : MappedField) : Prop :=
  ∀ g ∈ m.fields, f.index < g.index → g.column ≠ f.column

instance (m : Model) (f : MappedField) : Decidable (m.IsLastInColumn f) :=
  inferInstanceAs (Decidable (∀ g ∈ m.fields, f.index < g.index → g.column ≠ f.column))

theorem Lists.fieldByColumn?_eq_some_iff (lists : m.Lists e) {column : String} {f : MappedField} :
    m.fieldByColumn? column = some f ↔
      f ∈ m.fields ∧ f.column = column ∧ m.IsLastInColumn f := by
  rw [fieldByColumn?, findRev?_key_eq_some_iff]
  constructor
  · rintro ⟨own, front, back, split, others⟩
    have ordered := lists.pairwise_index
    rw [split] at ordered
    refine ⟨by simp [split], own, ?_⟩
    intro g member later same
    rw [split, List.mem_append, List.mem_cons] at member
    obtain before | rfl | behind := member
    · have earlier := (List.pairwise_append.mp ordered).2.2 g before f List.mem_cons_self
      omega
    · omega
    · exact others (List.mem_map.mpr ⟨g, behind, same.trans own⟩)
  · rintro ⟨member, own, last⟩
    obtain ⟨front, back, split⟩ := List.append_of_mem member
    refine ⟨own, front, back, split, ?_⟩
    intro listed
    obtain ⟨g, behind, same⟩ := List.mem_map.mp listed
    have ordered := lists.pairwise_index
    rw [split] at ordered
    have later := (List.pairwise_cons.mp (List.pairwise_append.mp ordered).2.1).1 g behind
    exact last g (by simp [split, behind]) later (same.trans own.symm)

theorem Lists.field?_self (lists : m.Lists e) (distinct : (e.fields.map Field.name).Nodup)
    {f : MappedField} (member : f ∈ m.fields) : m.field? f.name = some f := by
  rw [← lists.map_name] at distinct
  exact findRev?_key distinct member

theorem Lists.nodup_column_iff (lists : m.Lists e) :
    (m.fields.map MappedField.column).Nodup ↔ ∀ f ∈ m.fields, m.IsLastInColumn f := by
  constructor
  · intro distinct f member g other later same
    have equal := List.inj_on_of_nodup_map distinct other member same
    rw [equal] at later
    exact Nat.lt_irrefl _ later
  · intro last
    rw [List.nodup_iff_pairwise_ne, List.pairwise_map]
    refine lists.pairwise_index.imp_of_mem ?_
    intro f g here there later same
    exact last f here g there later same.symm

/-- The last field in the column of a declared field is what its column leads to. -/
theorem Lists.exists_fieldByColumn? (lists : m.Lists e) {f : MappedField}
    (member : f ∈ m.fields) :
    ∃ g ∈ m.fields, m.fieldByColumn? f.column = some g ∧ g.column = f.column ∧
      f.index ≤ g.index ∧ m.IsLastInColumn g := by
  cases found : m.fieldByColumn? f.column with
  | none => exact absurd (List.mem_map_of_mem member) (findRev?_key_eq_none_iff.mp found)
  | some g =>
    obtain ⟨inside, same, last⟩ := lists.fieldByColumn?_eq_some_iff.mp found
    refine ⟨g, inside, rfl, same, ?_, last⟩
    by_contra before
    exact last f member (by omega) same.symm

theorem Lists.setter?_eq_setAt (lists : m.Lists e) (derived : e.IsDerived) {column : String}
    {g : MappedField} (found : m.fieldByColumn? column = some g) :
    ∃ j : Fin e.fields.length, j.val = g.index ∧
      ∀ k : Materializer, k.setter? m e column = some (Materializer.setAt j column) := by
  obtain ⟨j, rfl⟩ := lists.exists_fieldAt (lists.fieldByColumn?_eq_some_iff.mp found).1
  have index := (lists.name_index_fieldAt j).2
  refine ⟨j, index.symm, ?_⟩
  intro k
  rw [Materializer.setter?_eq derived lists, Materializer.target?, found]
  simp [index]

/-- The column of a declared field leads to the last field that is declared with it, and a cell
under it is written into that field. All columns lead back to their fields exactly when no two
fields share one. -/
theorem fieldByColumn?_column {options : List ModelOption}
    (distinct : (e.fields.map Field.name).Nodup) (made : ofEntity e options = .ok m) :
    m.fields.map MappedField.name = e.fields.map Field.name ∧
      (∀ f ∈ m.fields, m.columnOf f.name = .ok f.column ∧
        ∃ g ∈ m.fields, m.fieldByColumn? f.column = some g ∧ g.column = f.column ∧
          f.index ≤ g.index ∧ m.IsLastInColumn g ∧ (g = f ↔ m.IsLastInColumn f) ∧
          (e.IsDerived → ∃ j : Fin e.fields.length, j.val = g.index ∧
            ∀ k : Materializer, k.setter? m e f.column = some (Materializer.setAt j f.column))) ∧
      ((∀ f ∈ m.fields, m.fieldByColumn? f.column = some f) ↔
        (m.fields.map MappedField.column).Nodup) := by
  have lists := lists_of_ofEntity made
  refine ⟨lists.map_name, ?_, ?_⟩
  · intro f member
    obtain ⟨g, inside, found, same, order, last⟩ := lists.exists_fieldByColumn? member
    refine ⟨?_, g, inside, found, same, order, last, ?_, ?_⟩
    · rw [columnOf, lists.field?_self distinct member]
    · constructor
      · rintro rfl
        exact last
      · intro lastToo
        have own := lists.fieldByColumn?_eq_some_iff.mpr ⟨member, rfl, lastToo⟩
        exact Option.some.inj (found.symm.trans own)
    · intro derived
      exact lists.setter?_eq_setAt derived found
  · rw [lists.nodup_column_iff]
    constructor
    · intro leads f member
      exact (lists.fieldByColumn?_eq_some_iff.mp (leads f member)).2.2
    · intro last f member
      exact lists.fieldByColumn?_eq_some_iff.mpr ⟨member, rfl, last f member⟩

theorem fieldByColumn?_column_option :
    let options : List ModelOption := [.columnName "owner" "id"]
    let m : Model := ⟨"account", [⟨"id", "id", "i64", 0⟩, ⟨"owner", "id", "i64", 1⟩]⟩
    (account.fields.map Field.name).Nodup ∧ ofEntity account options = .ok m ∧
      (m.fieldByColumn? "id").map MappedField.index = some 1 ∧
      ¬ (m.fields.map MappedField.column).Nodup := by
  intro options m
  have distinct : (account.fields.map Field.name).Nodup := by decide
  have made : ofEntity account options = .ok m := by decide +kernel
  obtain ⟨-, -, separate⟩ := fieldByColumn?_column distinct made
  refine ⟨distinct, made, by decide +kernel, ?_⟩
  rw [← separate]
  decide +kernel

/-- An option, and also a tag, is accepted that gives two fields one column. A lookup by the
column of the first then finds the second, and cells for the first are written there. -/
theorem fieldByColumn?_column_ne :
    let tagged : Entity := .derived 0 "Tagged" "" [⟨"b", .scalar .int64, ""⟩,
      ⟨"a", .scalar .int64, "column=b"⟩]
    let options : List ModelOption := [.columnName "owner" "id"]
    let found (e : Entity) (options : List ModelOption) (name : String) :=
      (ofEntity e options).toOption.bind fun m =>
        (m.columnOf name).toOption.bind fun column =>
          (m.fieldByColumn? column).map MappedField.name
    let decoded (k : Materializer) := (ofEntity account options).toOption.map fun m =>
      (k.setColumns m (Record.initial : account.Record) ⟨["id"], [.int 7]⟩).2.values
    (account.fields.map Field.name).Nodup ∧ found account options "id" = some "owner" ∧
      (tagged.fields.map Field.name).Nodup ∧ found tagged [] "b" = some "a" ∧
      decoded .reflect = some [.int 0, .int 7] ∧ decoded .accessor = some [.int 0, .int 7] := by
  decide +kernel

end Model

end RecordSql
