import RecordSql.Proofs.Columns
/-! # What a row does to a record

A row is refused as a whole when it is uneven or has an unknown column. Otherwise its cells are
written from left to right up to the first that does not convert. `Effect` says this without the
setters, and `setColumns_eq_iff` that it is all that either materializer does. -/
set_option autoImplicit false
namespace RecordSql

variable {e : Entity} {m : Model} {column : String} {i j : Nat}

/-- Cells of the column belong to the field at this position. -/
def Model.Stores (m : Model) (column : String) (i : Nat) : Prop :=
  ∃ f ∈ m.fields, f.column = column ∧ f.index = i ∧ m.IsLastInColumn f

instance (m : Model) (column : String) (i : Nat) : Decidable (m.Stores column i) :=
  inferInstanceAs (Decidable (∃ f ∈ m.fields, f.column = column ∧ f.index = i ∧ m.IsLastInColumn f))

theorem Model.Stores.unique (first : m.Stores column i) (second : m.Stores column j) : i = j := by
  obtain ⟨f, here, own, rfl, last⟩ := first
  obtain ⟨g, there, same, rfl, lastToo⟩ := second
  by_contra differ
  rcases Nat.lt_or_gt_of_ne differ with before | behind
  · exact last g there before (same.trans own.symm)
  · exact lastToo f here behind (own.trans same.symm)

theorem Model.Stores.listed (stores : m.Stores column i) :
    column ∈ m.fields.map MappedField.column := by
  obtain ⟨f, here, own, -, -⟩ := stores
  exact List.mem_map.mpr ⟨f, here, own⟩

/-- Two ways to find the first element without a property find the same. -/
theorem first_unique {α : Type} {P : α → Prop} {front front' back back' : List α} {a a' : α}
    (same : front ++ a :: back = front' ++ a' :: back') (holds : ∀ b ∈ front, P b) (fails : ¬ P a)
    (holds' : ∀ b ∈ front', P b) (fails' : ¬ P a') : front = front' ∧ a = a' := by
  induction front generalizing front' with
  | nil =>
    cases front' with
    | nil => exact ⟨rfl, (List.cons.inj same).1⟩
    | cons b rest =>
      obtain ⟨rfl, -⟩ := List.cons.inj same
      exact absurd (holds' a List.mem_cons_self) fails
  | cons b rest ih =>
    cases front' with
    | nil =>
      obtain ⟨rfl, -⟩ := List.cons.inj same
      exact absurd (holds b List.mem_cons_self) fails'
    | cons b' rest' =>
      obtain ⟨rfl, tails⟩ := List.cons.inj same
      obtain ⟨rfl, found⟩ := ih tails (fun c member => holds c (List.mem_cons_of_mem b member))
        (fun c member => holds' c (List.mem_cons_of_mem b member))
      exact ⟨rfl, found⟩

namespace Materializer

/-! ## Cells -/

section Cells

variable (e m) (cell : String × Value)

def Converts : Prop :=
  ∃ i : Fin e.fields.length, m.Stores cell.1 i ∧
    ∃ c : e.fields[i].type.Content, e.fields[i].type.ofValue cell.2 = .ok c

def Refuses (refusal : ConversionError) : Prop :=
  ∃ i : Fin e.fields.length, m.Stores cell.1 i ∧ e.fields[i].type.ofValue cell.2 = .error refusal

variable {e m cell}

theorem Refuses.not_converts {refusal : ConversionError} (refuses : Refuses e m cell refusal) :
    ¬ Converts e m cell := by
  rintro ⟨i, stores, c, converted⟩
  obtain ⟨j, storesToo, failed⟩ := refuses
  obtain rfl : i = j := Fin.ext (stores.unique storesToo)
  have both := converted.symm.trans failed
  contradiction

theorem Refuses.unique {refusal refusal' : ConversionError} (first : Refuses e m cell refusal)
    (second : Refuses e m cell refusal') : refusal = refusal' := by
  obtain ⟨i, stores, failed⟩ := first
  obtain ⟨j, storesToo, failedToo⟩ := second
  obtain rfl : i = j := Fin.ext (stores.unique storesToo)
  exact Except.error.inj (failed.symm.trans failedToo)

end Cells

/-- What the record after holds: the content of the last cell of each field, and what the record
held before where a field has no cell. -/
structure Written (m : Model) (cells : List (String × Value)) (r after : e.Record) : Prop where
  last : ∀ front column v back, cells = front ++ (column, v) :: back →
    ∀ i : Fin e.fields.length, m.Stores column i → (∀ cell ∈ back, ¬ m.Stores cell.1 i) →
      e.fields[i].type.ofValue v = .ok (after.content i)
  untouched : ∀ i : Fin e.fields.length, (∀ cell ∈ cells, ¬ m.Stores cell.1 i) →
    after.content i = r.content i

namespace Written

variable {cells : List (String × Value)} {r after after' : e.Record}

theorem nil (r : e.Record) : Written m [] r r := ⟨by simp, fun _ _ => rfl⟩

/-- One more cell in front. -/
theorem cons {i : Fin e.fields.length} {v : Value} {c : e.fields[i].type.Content}
    (stores : m.Stores column i) (converted : e.fields[i].type.ofValue v = .ok c)
    (rest : Written m cells (Record.put r i c) after) : Written m ((column, v) :: cells) r after := by
  constructor
  · intro front column' v' back split j own others
    cases front with
    | nil =>
      obtain ⟨head, rfl⟩ := List.cons.inj split
      obtain ⟨rfl, rfl⟩ := Prod.mk.inj head
      obtain rfl : i = j := Fin.ext (stores.unique own)
      rw [rest.untouched i others, Record.content_put_self, converted]
    | cons cell front =>
      obtain ⟨-, tail⟩ := List.cons.inj split
      exact rest.last front column' v' back tail j own others
  · intro j others
    have other : j ≠ i := by
      rintro rfl
      exact others (column, v) List.mem_cons_self stores
    rw [rest.untouched j fun cell member => others cell (List.mem_cons_of_mem _ member),
      Record.content_put_of_ne r c other]

/-- A field with cells has a last one. -/
theorem exists_last {i : Nat} (some : ∃ cell ∈ cells, m.Stores cell.1 i) :
    ∃ front cell back, cells = front ++ cell :: back ∧ m.Stores cell.1 i ∧
      ∀ other ∈ back, ¬ m.Stores other.1 i := by
  induction cells with
  | nil => simp at some
  | cons cell rest ih =>
    by_cases later : ∃ other ∈ rest, m.Stores other.1 i
    · obtain ⟨front, found, back, rfl, stores, others⟩ := ih later
      exact ⟨cell :: front, found, back, rfl, stores, others⟩
    · obtain ⟨found, member, stores⟩ := some
      have none : ∀ other ∈ rest, ¬ m.Stores other.1 i := by simpa using later
      rcases List.mem_cons.mp member with rfl | behind
      · exact ⟨[], found, rest, rfl, stores, none⟩
      · exact absurd stores (none found behind)

theorem unique (first : Written m cells r after) (second : Written m cells r after') :
    after = after' := by
  apply Record.ext_content
  intro i
  by_cases some : ∃ cell ∈ cells, m.Stores cell.1 i
  · obtain ⟨front, ⟨column, v⟩, back, split, stores, others⟩ := exists_last some
    have held := first.last front column v back split i stores others
    have heldToo := second.last front column v back split i stores others
    exact Except.ok.inj (held.symm.trans heldToo)
  · have none : ∀ cell ∈ cells, ¬ m.Stores cell.1 i := by simpa using some
    rw [first.untouched i none, second.untouched i none]

end Written

/-- What becomes of a record that a row is written into. -/
inductive Effect (m : Model) (r : e.Record) (row : Row) : Except Error Unit → e.Record → Prop
  | uneven (lengths : row.columns.length ≠ row.values.length) :
      Effect m r row (.error (.decode (blamedColumn row) ("row has " ++ toString row.values.length ++
        " values for " ++ toString row.columns.length ++ " columns"))) r
  | unknown {front back : List String} {column : String}
      (lengths : row.columns.length = row.values.length)
      (split : row.columns = front ++ column :: back)
      (known : ∀ c ∈ front, c ∈ m.fields.map MappedField.column)
      (missing : column ∉ m.fields.map MappedField.column) :
      Effect m r row (.error (.unknownColumn column)) r
  | refused {front back : List (String × Value)} {column : String} {v : Value}
      {refusal : ConversionError} {after : e.Record}
      (lengths : row.columns.length = row.values.length)
      (known : ∀ c ∈ row.columns, c ∈ m.fields.map MappedField.column)
      (split : row.columns.zip row.values = front ++ (column, v) :: back)
      (converts : ∀ cell ∈ front, Converts e m cell) (refuses : Refuses e m (column, v) refusal)
      (written : Written m front r after) :
      Effect m r row (.error (.decode column refusal.message)) after
  | accepted {after : e.Record} (lengths : row.columns.length = row.values.length)
      (known : ∀ c ∈ row.columns, c ∈ m.fields.map MappedField.column)
      (converts : ∀ cell ∈ row.columns.zip row.values, Converts e m cell)
      (written : Written m (row.columns.zip row.values) r after) :
      Effect m r row (.ok ()) after

/-- The situations exclude each other, so a row has one effect. -/
theorem Effect.unique {r after after' : e.Record} {row : Row} {outcome outcome' : Except Error Unit}
    (first : Effect m r row outcome after) (second : Effect m r row outcome' after') :
    outcome = outcome' ∧ after = after' := by
  have inside {front back : List String} {c : String} (split : row.columns = front ++ c :: back) :
      c ∈ row.columns := by simp [split]
  cases first with
  | uneven lengths =>
    cases second with
    | uneven => exact ⟨rfl, rfl⟩
    | unknown even => exact absurd even lengths
    | refused even => exact absurd even lengths
    | accepted even => exact absurd even lengths
  | unknown lengths split known missing =>
    cases second with
    | uneven uneven => exact absurd lengths uneven
    | unknown _ split' known' missing' =>
      obtain ⟨-, rfl⟩ := first_unique (split.symm.trans split') known missing known' missing'
      exact ⟨rfl, rfl⟩
    | refused _ all => exact absurd (all _ (inside split)) missing
    | accepted _ all => exact absurd (all _ (inside split)) missing
  | refused lengths known split converts refuses written =>
    cases second with
    | uneven uneven => exact absurd lengths uneven
    | unknown _ split' _ missing => exact absurd (known _ (inside split')) missing
    | refused _ _ split' converts' refuses' written' =>
      obtain ⟨rfl, same⟩ := first_unique (split.symm.trans split') converts refuses.not_converts
        converts' refuses'.not_converts
      obtain ⟨rfl, rfl⟩ := Prod.mk.inj same
      obtain rfl := refuses.unique refuses'
      exact ⟨rfl, written.unique written'⟩
    | accepted _ _ all => exact absurd (all _ (by simp [split])) refuses.not_converts
  | accepted lengths known converts written =>
    cases second with
    | uneven uneven => exact absurd lengths uneven
    | unknown _ split _ missing => exact absurd (known _ (inside split)) missing
    | refused _ _ split _ refuses => exact absurd (converts _ (by simp [split])) refuses.not_converts
    | accepted _ _ _ written' => exact ⟨rfl, written.unique written'⟩

/-! ## The setters -/

def Sets (m : Model) (column : String) (setter : Setter e) : Prop :=
  ∃ i : Fin e.fields.length, m.Stores column i ∧ setter = setAt i column

theorem setter?_eq_none (missing : column ∉ m.fields.map MappedField.column) (k : Materializer) :
    k.setter? m e column = none := by
  have nothing : m.fieldByColumn? column = none := findRev?_key_eq_none_iff.mpr missing
  cases k <;> simp [setter?, nothing]

theorem exists_setter (derived : e.IsDerived) (lists : m.Lists e)
    (listed : column ∈ m.fields.map MappedField.column) (k : Materializer) :
    ∃ setter, k.setter? m e column = some setter ∧ Sets m column setter := by
  obtain ⟨f, here, rfl⟩ := List.mem_map.mp listed
  obtain ⟨g, there, found, same, -, last⟩ := lists.exists_fieldByColumn? here
  obtain ⟨i, index, setter⟩ := lists.setter?_eq_setAt derived found
  exact ⟨_, setter k, i, ⟨g, there, same, index.symm, last⟩, rfl⟩

/-- Either all columns have setters, or the first unknown column is the error. -/
theorem setters_cases (derived : e.IsDerived) (lists : m.Lists e) (k : Materializer)
    (columns : List String) :
    (∃ front column back, columns = front ++ column :: back ∧
        (∀ c ∈ front, c ∈ m.fields.map MappedField.column) ∧
        column ∉ m.fields.map MappedField.column ∧
        k.setters m e columns = .error (.unknownColumn column)) ∨
      (∀ c ∈ columns, c ∈ m.fields.map MappedField.column) ∧
        ∃ setters, k.setters m e columns = .ok setters ∧ List.Forall₂ (Sets m) columns setters := by
  induction columns with
  | nil => exact .inr ⟨by simp, [], rfl, .nil⟩
  | cons column rest ih =>
    by_cases listed : column ∈ m.fields.map MappedField.column
    · obtain ⟨setter, found, sets⟩ := exists_setter derived lists listed k
      rcases ih with ⟨front, missing, back, rfl, known, unknown, failed⟩ | ⟨known, setters, all, each⟩
      · refine .inl ⟨column :: front, missing, back, rfl, ?_, unknown, ?_⟩
        · exact List.forall_mem_cons.mpr ⟨listed, known⟩
        · rw [setters, found, failed]
      · refine .inr ⟨List.forall_mem_cons.mpr ⟨listed, known⟩, setter :: setters, ?_, .cons sets each⟩
        rw [Materializer.setters, found, all]
    · refine .inl ⟨[], column, rest, rfl, by simp, listed, ?_⟩
      rw [setters, setter?_eq_none listed]

section SetAt

variable {r : e.Record} {i : Fin e.fields.length} {v : Value}

theorem setAt_ok {c : e.fields[i].type.Content} (converted : e.fields[i].type.ofValue v = .ok c) :
    setAt i column r v = .ok (Record.put r i c) := by
  rw [setAt, Record.set, converted]
  rfl

theorem setAt_error {refusal : ConversionError}
    (failed : e.fields[i].type.ofValue v = .error refusal) :
    setAt i column r v = .error (.ofConversion column refusal) := by
  rw [setAt, Record.set, failed]
  rfl

end SetAt

/-- Cells are written up to the first that does not convert. -/
theorem writeCells_cases {columns : List String} {setters : List (Setter e)}
    (each : List.Forall₂ (Sets m) columns setters) (r : e.Record) (values : List Value) :
    (∃ front column v back refusal after,
        columns.zip values = front ++ (column, v) :: back ∧ (∀ cell ∈ front, Converts e m cell) ∧
        Refuses e m (column, v) refusal ∧ Written m front r after ∧
        writeCells r (setters.zip values) = (.error (.decode column refusal.message), after)) ∨
      (∀ cell ∈ columns.zip values, Converts e m cell) ∧
        ∃ after, Written m (columns.zip values) r after ∧
          writeCells r (setters.zip values) = (.ok (), after) := by
  induction each generalizing r values with
  | nil => exact .inr ⟨by simp, r, .nil r, rfl⟩
  | @cons column setter columns setters sets _ ih =>
    cases values with
    | nil => exact .inr ⟨by simp, r, .nil r, rfl⟩
    | cons v values =>
      obtain ⟨i, stores, rfl⟩ := sets
      cases converted : e.fields[i].type.ofValue v with
      | error refusal =>
        refine .inl ⟨[], column, v, columns.zip values, refusal, r, rfl, by simp,
          ⟨i, stores, converted⟩, .nil r, ?_⟩
        rw [List.zip_cons_cons, writeCells, setAt_error converted, Error.ofConversion]
      | ok c =>
        have own : Converts e m (column, v) := ⟨i, stores, c, converted⟩
        have step : writeCells r ((setAt i column :: setters).zip (v :: values)) =
            writeCells (Record.put r i c) (setters.zip values) := by
          rw [List.zip_cons_cons, writeCells, setAt_ok converted]
        rw [step]
        rcases ih (Record.put r i c) values with
          ⟨front, stopped, w, back, refusal, after, split, converts, refuses, written, run⟩ |
          ⟨converts, after, written, run⟩
        · refine .inl ⟨(column, v) :: front, stopped, w, back, refusal, after, ?_,
            List.forall_mem_cons.mpr ⟨own, converts⟩, refuses, written.cons stores converted, run⟩
          rw [List.zip_cons_cons, split, List.cons_append]
        · exact .inr ⟨List.forall_mem_cons.mpr ⟨own, converts⟩, after,
            written.cons stores converted, run⟩

theorem effect_setColumns (derived : e.IsDerived) (lists : m.Lists e) (k : Materializer)
    (r : e.Record) (row : Row) :
    Effect m r row (k.setColumns m r row).1 (k.setColumns m r row).2 := by
  rw [setColumns]
  by_cases lengths : row.columns.length = row.values.length
  · rw [if_neg (not_not_intro lengths)]
    rcases setters_cases derived lists k row.columns with
      ⟨front, column, back, split, known, missing, failed⟩ | ⟨known, setters, all, each⟩
    · rw [failed]
      exact .unknown lengths split known missing
    · rw [all]
      rcases writeCells_cases each r row.values with
        ⟨front, column, v, back, refusal, after, split, converts, refuses, written, run⟩ |
        ⟨converts, after, written, run⟩
      · simp only [run]
        exact .refused lengths known split converts refuses written
      · simp only [run]
        exact .accepted lengths known converts written
  · rw [if_pos lengths]
    exact .uneven lengths

/-- Either materializer does to a record what the effect of the row says, and nothing else. -/
theorem setColumns_eq_iff {options : List ModelOption} (derived : e.IsDerived)
    (made : Model.ofEntity e options = .ok m) (k : Materializer) (r : e.Record) (row : Row)
    (outcome : Except Error Unit) (after : e.Record) :
    k.setColumns m r row = (outcome, after) ↔ Effect m r row outcome after := by
  have effect := effect_setColumns derived (Model.lists_of_ofEntity made) k r row
  constructor
  · intro run
    rw [run] at effect
    exact effect
  · intro described
    obtain ⟨result, record⟩ := effect.unique described
    rw [← result, ← record]

/-- A column that comes twice and does not convert the second time. -/
theorem setColumns_eq_iff_repeatedColumn :
    let m : Model := ⟨"account", [⟨"id", "id", "i64", 0⟩, ⟨"owner", "owner", "i64", 1⟩]⟩
    let r : account.Record := Record.initial
    let row : Row := ⟨["owner", "id", "owner"], [.int 5, .int 6, .text "x"]⟩
    let outcome : Except Error Unit := .error (.decode "owner" "cannot convert text into i64")
    account.IsDerived ∧ Model.ofEntity account [] = .ok m ∧
      ∃ after : account.Record, accessor.setColumns m r row = (outcome, after) ∧
        Effect m r row outcome after ∧ Record.values after = [.int 6, .int 5] := by
  intro m r row outcome
  have made : Model.ofEntity account [] = .ok m := by decide +kernel
  have failed : (accessor.setColumns m r row).1 = outcome := by decide +kernel
  have run : accessor.setColumns m r row = (outcome, (accessor.setColumns m r row).2) :=
    Prod.ext failed rfl
  have effect := (setColumns_eq_iff isDerived_account made accessor r row _ _).mp run
  exact ⟨isDerived_account, made, _, run, effect, by decide +kernel⟩

end Materializer

end RecordSql
