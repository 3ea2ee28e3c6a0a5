import Mathlib.Data.List.Basic
import RecordSql.Proofs.Conversion
import RecordSql.Proofs.Materializers
/-! # A row gives back what an insertion binds

An insertion of records of a derived entity writes one group of placeholders for each record
and binds the values of the listed fields in the order of the list. Read as a row under the
columns of those fields, the values of one record make any other record agree with it on the
listed fields, as long as no two fields share a column and no field type loses its content. -/
set_option autoImplicit false
namespace RecordSql

open Render

/-! ## Lists with commas -/

theorem sqlOf_intercalate (quote : Char) (parts : List (List Piece)) :
    sqlOf quote ([Piece.text ","].intercalate parts) =
      ",".intercalate (parts.map (sqlOf quote)) := by
  induction parts with
  | nil => rfl
  | cons part rest ih =>
    cases rest with
    | nil => simp
    | cons next rest =>
      have comma : sqlOf quote [Piece.text ","] = "," := by simp [sqlOf, Piece.sql]
      rw [List.intercalate_cons_cons, sqlOf_append, sqlOf_append, ih, comma]
      simp only [List.map_cons, String.intercalate_cons_cons]

theorem argsOf_intercalate (parts : List (List Piece)) :
    argsOf ([Piece.text ","].intercalate parts) = parts.flatMap argsOf := by
  induction parts with
  | nil => rfl
  | cons part rest ih =>
    cases rest with
    | nil => simp
    | cons next rest =>
      rw [List.intercalate_cons_cons, argsOf_append, argsOf_append, ih, List.flatMap_cons]
      simp [argsOf, Piece.args]

/-- One of the equal parts of a list that was put together from them. -/
theorem take_drop_flatMap {α β : Type} {f : α → List β} {k : Nat} (uniform : ∀ a, (f a).length = k)
    {items : List α} {i : Nat} (inside : i < items.length) :
    ((items.flatMap f).drop (i * k)).take k = f items[i] := by
  induction items generalizing i with
  | nil => simp at inside
  | cons a rest ih =>
    rw [List.flatMap_cons]
    cases i with
    | zero =>
      rw [Nat.zero_mul, List.drop_zero, ← uniform a, List.take_left]
      rfl
    | succ i =>
      have tail : i < rest.length := by simpa using inside
      rw [Nat.succ_mul, Nat.add_comm, ← uniform a, List.drop_length_add_append, uniform a, ih tail]
      rfl

/-! ## Writing the values of one record into another -/

section Records

variable {e : Entity} {m : Model}

/-- The values that a record has at some positions, written into another record at these
positions. -/
theorem writeCells_values
    (lossless : ∀ i : Fin e.fields.length, (e.fields.get i).type.isLossless = true)
    (column : Fin e.fields.length → String) (source r : e.Record)
    (positions : List (Fin e.fields.length)) :
    ∃ after, Materializer.writeCells r
        ((positions.map fun i => Materializer.setAt i (column i)).zip
          (positions.map fun i => Record.value source i)) = (.ok (), after) ∧
      (∀ j ∈ positions, Record.content after j = Record.content source j) ∧
        ∀ j ∉ positions, Record.content after j = Record.content r j := by
  induction positions generalizing r with
  | nil => exact ⟨r, rfl, by simp, fun _ _ => rfl⟩
  | cons i rest ih =>
    have written : Materializer.setAt i (column i) r (Record.value source i) =
        .ok (Record.put r i (Record.content source i)) := by
      rw [Materializer.setAt, Record.set_value (lossless i)]
    obtain ⟨after, run, agrees, untouched⟩ := ih (Record.put r i (Record.content source i))
    refine ⟨after, ?_, fun j listed => ?_, fun j unlisted => ?_⟩
    · simp only [List.map_cons, List.zip_cons_cons, Materializer.writeCells, written, run]
    · by_cases later : j ∈ rest
      · exact agrees j later
      · obtain rfl : j = i := (List.mem_cons.mp listed).resolve_right later
        rw [untouched j later, Record.content_put_self]
    · obtain ⟨here, later⟩ : j ≠ i ∧ j ∉ rest := by simpa using unlisted
      rw [untouched j later, Record.content_put_of_ne r _ here]

/-- A row under the columns of some positions with the values of a record there. -/
theorem setColumns_values (derived : e.IsDerived) (lists : m.Lists e)
    (lossless : ∀ i : Fin e.fields.length, (e.fields.get i).type.isLossless = true)
    (separate : (m.fields.map MappedField.column).Nodup) (k : Materializer) (source r : e.Record)
    (positions : List (Fin e.fields.length)) :
    ∃ after, k.setColumns m r ⟨positions.map fun i => (lists.fieldAt i).column,
        positions.map fun i => Record.value source i⟩ = (.ok (), after) ∧
      (∀ j ∈ positions, Record.content after j = Record.content source j) ∧
        ∀ j ∉ positions, Record.content after j = Record.content r j := by
  have target (i : Fin e.fields.length) :
      Materializer.target? m e (lists.fieldAt i).column = some i := by
    have found : m.fieldByColumn? (lists.fieldAt i).column = some (lists.fieldAt i) :=
      findRev?_key separate (lists.fieldAt_mem i)
    simp [Materializer.target?, found, (lists.name_index_fieldAt i).2]
  have setters : k.setters m e (positions.map fun i => (lists.fieldAt i).column) =
      .ok (positions.map fun i => Materializer.setAt i (lists.fieldAt i).column) := by
    induction positions with
    | nil => rfl
    | cons i rest ih =>
      rw [List.map_cons, Materializer.setters, Materializer.setter?_eq derived lists, target, ih]
      rfl
  obtain ⟨after, run, agrees⟩ :=
    writeCells_values lossless (fun i => (lists.fieldAt i).column) source r positions
  refine ⟨after, ?_, agrees⟩
  simp only [Materializer.setColumns, List.length_map, ne_eq, not_true_eq_false, if_false, setters,
    run]

/-! ## The text and the arguments of an insertion -/

namespace Insert

def rowPieces (positions : List (Fin e.fields.length)) (r : e.Record) : List Piece :=
  .text "(" :: [Piece.text ","].intercalate (positions.map fun i => [.bound (Record.value r i)]) ++
    [.text ")"]

def insertionPieces (lists : m.Lists e) (positions : List (Fin e.fields.length))
    (records : List e.Record) : List Piece :=
  [.text "INSERT INTO ", .name m.table, .text "("] ++
    ([Piece.text ","].intercalate (positions.map fun i => [.name (lists.fieldAt i).column]) ++
      ([.text ")", .text " VALUES "] ++
        [Piece.text ","].intercalate (records.map (rowPieces positions))))

theorem argsOf_rowPieces (positions : List (Fin e.fields.length)) (r : e.Record) :
    argsOf (rowPieces positions r) = positions.map fun i => Record.value r i := by
  rw [rowPieces, List.cons_append, argsOf, argsOf_append, argsOf_intercalate, List.flatMap_map,
    List.map_eq_flatMap]
  simp [argsOf, Piece.args]

theorem sqlOf_rowPieces (quote : Char) (positions : List (Fin e.fields.length)) (r : e.Record) :
    sqlOf quote (rowPieces positions r) =
      "(" ++ ",".intercalate (List.replicate positions.length "?") ++ ")" := by
  rw [rowPieces, List.cons_append, sqlOf, sqlOf_append, sqlOf_intercalate, List.map_map]
  simp [sqlOf, Piece.sql, Function.comp_def, String.append_assoc, List.map_const']

theorem argsOf_insertionPieces (lists : m.Lists e) (positions : List (Fin e.fields.length))
    (records : List e.Record) :
    argsOf (insertionPieces lists positions records) =
      records.flatMap fun r => positions.map fun i => Record.value r i := by
  have names : argsOf ([Piece.text ","].intercalate
      (positions.map fun i => [.name (lists.fieldAt i).column])) = [] := by
    rw [argsOf_intercalate, List.flatMap_map]
    simp [argsOf, Piece.args]
  rw [insertionPieces, argsOf_append, argsOf_append, argsOf_append, names, argsOf_intercalate,
    List.flatMap_map]
  simp [argsOf, Piece.args, argsOf_rowPieces]

theorem sqlOf_insertionPieces (quote : Char) (lists : m.Lists e)
    (positions : List (Fin e.fields.length)) (records : List e.Record) :
    sqlOf quote (insertionPieces lists positions records) =
      "INSERT INTO " ++ quotedName quote m.table ++ "(" ++
        ",".intercalate (positions.map fun i => quotedName quote (lists.fieldAt i).column) ++
        ")" ++ " VALUES " ++ ",".intercalate (List.replicate records.length
          ("(" ++ ",".intercalate (List.replicate positions.length "?") ++ ")")) := by
  have rows : (records.map (rowPieces positions)).map (sqlOf quote) =
      List.replicate records.length
        ("(" ++ ",".intercalate (List.replicate positions.length "?") ++ ")") := by
    rw [List.map_map, ← List.map_const']
    exact List.map_congr_left fun r _ => sqlOf_rowPieces quote positions r
  rw [insertionPieces, sqlOf_append, sqlOf_append, sqlOf_append, sqlOf_intercalate,
    sqlOf_intercalate, rows, List.map_map]
  simp [sqlOf, Piece.sql, Function.comp_def, String.append_assoc]

theorem resolveFields_eq (derived : e.IsDerived) (lists : m.Lists e)
    (positions : List (Fin e.fields.length)) :
    resolveFields m (positions.map fun i => (e.fields.get i).name) =
      .ok (positions.map lists.fieldAt) := by
  induction positions with
  | nil => rfl
  | cons i rest ih =>
    rw [List.map_cons, resolveFields, lists.field?_name derived i, ih]
    rfl

theorem yields_renderCell (derived : e.IsDerived) (lists : m.Lists e) (k : Materializer)
    (registry : Registry) (r : e.Record) (i : Fin e.fields.length) :
    (renderCell k r (lists.fieldAt i)).Yields m registry [.bound (Record.value r i)]
      registry () := by
  have own : ownModel.Yields m registry [] registry m := rfl
  have read : k.field m e r (lists.fieldAt i).name = .ok (Record.value r i) := by
    rw [Materializer.field_eq derived lists, (lists.name_index_fieldAt i).1,
      derived.position?_name i]
  exact own.bind (Yields.bind (yields_ofExcept.mpr ⟨rfl, rfl, read⟩) rfl)

theorem yields_row (derived : e.IsDerived) (lists : m.Lists e) (k : Materializer)
    (registry : Registry) (positions : List (Fin e.fields.length)) (r : e.Record) :
    (parenthesized (commaList (renderCell k r) (positions.map lists.fieldAt))).Yields m registry
      (rowPieces positions r) registry () := by
  have cells : (commaList (renderCell k r) (positions.map lists.fieldAt)).Yields m registry
      ([Piece.text ","].intercalate (positions.map fun i => [.bound (Record.value r i)]))
      registry () := by
    rw [commaList_map]
    exact yields_commaList fun i _ => yields_renderCell derived lists k registry r i
  exact cells.parenthesized

theorem yields_render (derived : e.IsDerived) (lists : m.Lists e) {style : Style}
    {s : Insert e} {positions : List (Fin e.fields.length)}
    (resolved : targetFields m s.fields = .ok (positions.map lists.fieldAt))
    (noUpsert : s.upsert = none) (registry : Registry) :
    (s.render style).Yields m registry (insertionPieces lists positions s.records) registry () := by
  have own : ownModel.Yields m registry [] registry m := rfl
  have fields : (Render.ofExcept (targetFields m s.fields)).Yields m registry [] registry
      (positions.map lists.fieldAt) := yields_ofExcept.mpr ⟨rfl, rfl, resolved⟩
  have columns : (commaList (fun field : MappedField => quoted field.column)
      (positions.map lists.fieldAt)).Yields m registry
        ([Piece.text ","].intercalate (positions.map fun i => [.name (lists.fieldAt i).column]))
        registry () := by
    rw [commaList_map]
    exact yields_commaList fun _ _ => rfl
  have rows := yields_commaList fun r (_ : r ∈ s.records) =>
    yields_row derived lists style.materializer registry positions r
  have head : (write "INSERT INTO ").Yields m registry [.text "INSERT INTO "] registry () := rfl
  have table : (quoted m.table).Yields m registry [.name m.table] registry () := rfl
  have between : (write " VALUES ").Yields m registry [.text " VALUES "] registry () := rfl
  have run : (s.render style).Yields m registry _ registry () := own.bind (fields.bind (head.bind
    (table.bind (columns.parenthesized.bind (between.bind (rows.bind
      (show Yields _ m registry [] registry () by rw [noUpsert]; rfl)))))))
  simpa [insertionPieces] using run

def names (s : Insert e) : List String :=
  if s.fields.isEmpty then e.fields.map Field.name else s.fields

theorem exists_positions {names : List String}
    (known : ∀ name ∈ names, name ∈ e.fields.map Field.name) :
    ∃ positions : List (Fin e.fields.length),
      names = positions.map fun i => (e.fields.get i).name := by
  induction names with
  | nil => exact ⟨[], rfl⟩
  | cons name rest ih =>
    obtain ⟨positions, tail⟩ := ih fun other member =>
      known other (List.mem_cons_of_mem name member)
    obtain ⟨field, member, same⟩ := List.mem_map.mp (known name List.mem_cons_self)
    obtain ⟨i, inside, rfl⟩ := List.getElem_of_mem member
    exact ⟨⟨i, inside⟩ :: positions, by rw [List.map_cons, ← tail, ← same]; rfl⟩

/-- The listed names, or all of them, are those at some positions, and the fields to insert are
the ones that the model lists there. -/
theorem exists_targets (derived : e.IsDerived) (lists : m.Lists e) {s : Insert e}
    (known : ∀ name ∈ s.fields, name ∈ e.fields.map Field.name) :
    ∃ positions : List (Fin e.fields.length),
      s.names = positions.map (fun i => (e.fields.get i).name) ∧
        targetFields m s.fields = .ok (positions.map lists.fieldAt) := by
  cases given : s.fields with
  | nil =>
    refine ⟨List.finRange e.fields.length, ?_, by rw [targetFields, lists.map_fieldAt]⟩
    rw [names, given]
    refine List.ext_getElem (by simp) fun i _ _ => ?_
    simp
  | cons name rest =>
    rw [given] at known
    obtain ⟨positions, listed⟩ := exists_positions known
    refine ⟨positions, by rw [names, given, ← listed]; rfl, ?_⟩
    rw [listed, ← resolveFields_eq derived lists]
    cases positions with
    | nil => simp at listed
    | cons i rest => rfl

theorem draft_of_records {s : Insert e} (given : s.records ≠ []) (style : Style)
    (registry : Registry) :
    (Statement.insert s).draft style registry =
      draftFor e (do s.render style; write ";") registry := by
  obtain ⟨records, fields, upsert⟩ := s
  cases records with
  | nil => exact absurd rfl given
  | cons r rest => rfl

theorem build_of_yields {style : Style} {s : Insert e} {registry before after : Registry}
    {pieces : List Piece} (given : s.records ≠ []) (inForce : registry.get e = .ok (m, before))
    (text : (s.render style).Yields m before pieces after ()) :
    ((Statement.insert s).build style registry).result =
      .ok (.ofPieces style.dialect.quote (pieces ++ [.text ";"])) := by
  have stop : (write ";").Yields m after [.text ";"] after () := rfl
  have whole : (do s.render style; write ";") m before = _ := text.bind stop
  rw [Statement.build, draft_of_records given, draftFor, inForce]
  dsimp only
  rw [whole]
  rfl

theorem build_eq (derived : e.IsDerived) (lists : m.Lists e) (style : Style) {s : Insert e}
    {positions : List (Fin e.fields.length)} {registry after : Registry}
    (resolved : targetFields m s.fields = .ok (positions.map lists.fieldAt))
    (noUpsert : s.upsert = none) (given : s.records ≠ [])
    (inForce : registry.get e = .ok (m, after)) :
    ((Statement.insert s).build style registry).result = .ok (.ofPieces style.dialect.quote
      (insertionPieces lists positions s.records ++ [.text ";"])) :=
  build_of_yields given inForce (yields_render derived lists resolved noUpsert after)

end Insert

/-- An insertion of records of a derived entity builds. Its text has one group of placeholders
for each record, one for each listed field, and the arguments of a group, as a row under the
columns of these fields, make every record agree with the inserted one on them and change
nothing else. -/
theorem setColumns_build_insert {options : List ModelOption} {registry after : Registry}
    (style : Style) (s : Insert e) (derived : e.IsDerived)
    (lossless : ∀ field ∈ e.fields, field.type.isLossless = true)
    (made : Model.ofEntity e options = .ok m) (inForce : registry.get e = .ok (m, after))
    (separate : (m.fields.map MappedField.column).Nodup) (given : s.records ≠ [])
    (known : ∀ name ∈ s.fields, name ∈ e.fields.map Field.name) (noUpsert : s.upsert = none) :
    let quote := style.dialect.quote
    let count := s.names.length
    ∃ q columns, ((Statement.insert s).build style registry).result = .ok q ∧
      s.names.map m.columnOf = columns.map Except.ok ∧
      q.sql = "INSERT INTO " ++ quotedName quote m.table ++ "(" ++
        ",".intercalate (columns.map (quotedName quote)) ++ ")" ++ " VALUES " ++
        ",".intercalate (List.replicate s.records.length
          ("(" ++ ",".intercalate (List.replicate count "?") ++ ")")) ++ ";" ∧
      q.args.length = s.records.length * count ∧
      ∀ (i : Fin s.records.length) (k : Materializer) (r : e.Record),
        ∃ decoded, k.setColumns m r ⟨columns, (q.args.drop (i * count)).take count⟩ =
            (.ok (), decoded) ∧
          ∀ j : Fin e.fields.length, decoded.content j =
            if (e.fields.get j).name ∈ s.names then s.records[i].content j else r.content j := by
  intro quote count
  have lists := Model.lists_of_ofEntity made
  obtain ⟨positions, named, resolved⟩ := Insert.exists_targets derived lists known
  have built := Insert.build_eq derived lists style resolved noUpsert given inForce
  have listed : count = positions.length := by
    rw [← List.length_map (fun i => (e.fields.get i).name), ← named]
  have args : (Query.ofPieces quote
      (Insert.insertionPieces lists positions s.records ++ [.text ";"])).args =
        s.records.flatMap fun r => positions.map fun i => Record.value r i := by
    rw [Query.ofPieces, argsOf_append, Insert.argsOf_insertionPieces]
    simp [argsOf, Piece.args]
  refine ⟨_, positions.map fun i => (lists.fieldAt i).column, built, ?_, ?_, ?_, fun i k r => ?_⟩
  · rw [named, List.map_map, List.map_map]
    refine List.map_congr_left fun i _ => ?_
    simp only [Function.comp_apply, Model.columnOf, lists.field?_name derived i]
  · rw [Query.ofPieces, sqlOf_append, Insert.sqlOf_insertionPieces, listed, List.map_map]
    simp [sqlOf, Piece.sql, Function.comp_def, quote]
  · rw [args, listed, List.length_flatMap]
    simp
  · have block : (((s.records.flatMap fun r => positions.map fun i => Record.value r i).drop
        (i * positions.length)).take positions.length) =
          positions.map fun j => Record.value s.records[i] j :=
      take_drop_flatMap (fun r => List.length_map _) i.isLt
    have everywhere (j : Fin e.fields.length) : (e.fields.get j).type.isLossless = true :=
      lossless (e.fields.get j) (List.getElem_mem _)
    obtain ⟨decoded, run, agrees, untouched⟩ :=
      setColumns_values derived lists everywhere separate k s.records[i] r positions
    refine ⟨decoded, ?_, fun j => ?_⟩
    · rw [args, listed, block]
      exact run
    · rw [named]
      have member : (e.fields.get j).name ∈ positions.map (fun i => (e.fields.get i).name) ↔
          j ∈ positions := List.mem_map_of_injective derived.name_injective
      split
      next inside => exact agrees j (member.mp inside)
      next outside => exact untouched j fun inside => outside (member.mpr inside)

end Records

def voucher : Entity :=
  .derived 1 "Voucher" "" [⟨"id", .scalar .int64, ""⟩,
    ⟨"memo", .optional (.scalar .text), "column=note"⟩, ⟨"weight", .scalar .uint8, ""⟩]

theorem setColumns_build_insert_repeatedField :
    let options : List ModelOption := [.columnName "id" "key"]
    let m : Model := ⟨"voucher", [⟨"id", "key", "i64", 0⟩, ⟨"memo", "note", "Option<String>", 1⟩,
      ⟨"weight", "weight", "u8", 2⟩]⟩
    let registry : Registry := ⟨[⟨1, "Voucher", m⟩]⟩
    let style : Style := ⟨.mysql, .accessor⟩
    let first : voucher.Record := Record.initial.put ⟨0, by decide⟩ (7 : Int64)
    let noted : voucher.Record := Record.initial.put ⟨1, by decide⟩ (some "x" : Option String)
    let second : voucher.Record := noted.put ⟨2, by decide⟩ (9 : UInt8)
    let s : Insert voucher := ⟨[first, second], ["memo", "id", "memo"], none⟩
    let q : Query := ⟨"INSERT INTO `voucher`(`note`,`key`,`note`) VALUES (?,?,?),(?,?,?);",
      [.null, .int 7, .null, .text "x", .int 0, .text "x"]⟩
    voucher.IsDerived ∧ Model.ofEntity voucher options = .ok m ∧
      registry.get voucher = .ok (m, registry) ∧
      ((Statement.insert s).build style registry).result = .ok q ∧
      ∀ (i : Fin s.records.length) (k : Materializer) (r : voucher.Record), ∃ decoded,
        k.setColumns m r ⟨["note", "key", "note"], (q.args.drop (i * 3)).take 3⟩ =
            (.ok (), decoded) ∧
          ∀ j : Fin voucher.fields.length, decoded.content j =
            if (voucher.fields.get j).name ∈ ["memo", "id", "memo"] then s.records[i].content j
            else r.content j := by
  intro options m registry style first noted second s q
  have derived : voucher.IsDerived := Entity.isDerived_derived (by decide)
  have made : Model.ofEntity voucher options = .ok m := by decide +kernel
  have inForce : registry.get voucher = .ok (m, registry) := by decide +kernel
  have built : ((Statement.insert s).build style registry).result = .ok q := by decide +kernel
  obtain ⟨written, columns, result, named, -, -, decodes⟩ :=
    setColumns_build_insert style s derived (by decide) made inForce (by decide) (by decide)
      (by decide) rfl
  obtain rfl : written = q := Except.ok.inj (result.symm.trans built)
  have listed : columns.map (Except.ok : String → Except Error String) =
      ["note", "key", "note"].map Except.ok := by
    rw [← named]
    decide +kernel
  obtain rfl : columns = ["note", "key", "note"] :=
    List.map_injective_iff.mpr (fun _ _ => Except.ok.inj) listed
  exact ⟨derived, made, inForce, built, decodes⟩

end RecordSql
