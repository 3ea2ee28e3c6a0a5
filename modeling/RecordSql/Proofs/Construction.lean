import RecordSql.Proofs.Frame
import RecordSql.Statement.InPlace
/-! # Statements are built as they are rendered

Written into a builder, each clause and each statement performs its rendering. The construction in
place, which keeps the text and the arguments apart, therefore leaves what `Statement.build` takes
from one sequence of pieces, errors and registrations included. -/
set_option autoImplicit false
namespace RecordSql

namespace InPlace

variable {α : Type}

theorem performs_ownModel : InPlace.ownModel.Performs Render.ownModel :=
  fun b => performs_pure b.model b

/-- Two pieces that are written as one text. -/
theorem performs_text_append (s t : String) :
    (text (s ++ t)).Performs (do Render.write s; Render.write t) := by
  intro b
  rw [← (performs_text s).then (performs_text t) b]
  change (_, { b with sql := b.sql ++ (s ++ t) }) = (_, { b with sql := b.sql ++ s ++ t })
  rw [String.append_assoc]

/-- Nothing behind a failure is looked at. -/
theorem performs_fail_then {β : Type} (e : Error) (f : β → InPlace α) (g : β → Render α) :
    (InPlace.fail e >>= f).Performs (Render.fail e >>= g) := by
  intro b
  rw [Builder.step_bind]
  exact performs_fail e b

/-- What follows a rendering between parentheses is one step of the same run. -/
theorem Performs.enclosed {x z : InPlace Unit} {y w : Render Unit} (inside : x.Performs y)
    (behind : z.Performs w) :
    (do char '('; x; char ')'; z : InPlace Unit).Performs (do Render.parenthesized y; w) := by
  simp only [Render.parenthesized, Render.bind_assoc]
  exact (performs_char rfl).then <| inside.then <| (performs_char rfl).then behind

/-- The closing parenthesis is written together with the text behind it. -/
theorem Performs.enclosed_text {x z : InPlace Unit} {y w : Render Unit} (inside : x.Performs y)
    (s : String) (behind : z.Performs w) :
    (do char '('; x; text (")" ++ s); z : InPlace Unit).Performs
      (do Render.parenthesized y; Render.write s; w) := by
  have closing := (performs_text_append ")" s).then behind
  rw [Render.bind_assoc] at closing
  simp only [Render.parenthesized, Render.bind_assoc]
  exact (performs_char rfl).then (inside.then closing)

theorem performs_bound (result : Except Error Value) :
    (do argument (← ofExcept result) : InPlace Unit).Performs
      (do Render.bound (← Render.ofExcept result)) :=
  (performs_ofExcept result).bind performs_argument

end InPlace

open InPlace

/-! ## Clauses -/

theorem performs_writeClause (keyword : String) (conditions : List Predicate) :
    (writeClause keyword conditions).Performs (renderClause keyword conditions) := by
  cases conditions with
  | nil => exact performs_pure ()
  | cons p rest => exact (performs_text keyword).then (performs_writeAll (p :: rest))

theorem performs_writeList {α : Type} {item : α → InPlace Unit} {rendered : α → Render Unit}
    (each : ∀ a, (item a).Performs (rendered a)) (keyword : String) (list : List α) :
    (writeList keyword item list).Performs (renderList keyword rendered list) := by
  cases list with
  | nil => exact performs_pure ()
  | cons a rest => exact (performs_text keyword).then (performs_items each (a :: rest))

theorem performs_writeCount (keyword : String) (count : Option UInt64) :
    (writeCount keyword count).Performs (renderCount keyword count) := by
  cases count with
  | none => exact performs_pure ()
  | some n => exact (performs_text keyword).then (performs_argument (.uint n))

theorem Selectable.performs_writeTo (s : Selectable) : s.writeTo.Performs s.render := by
  cases s with
  | column c => exact c.performs_writeTo_alias
  | raw r => exact performs_raw r
  | aggregate a =>
    refine (performs_text a.function.sql).then ?_
    exact (Column.performs_writeTo ⟨a.field, none, none⟩).enclosed (performs_writeAlias a.aliasName)

theorem SortKey.performs_writeTo (key : SortKey) : key.writeTo.Performs key.render :=
  key.column.performs_writeTo.then (performs_text _)

theorem Select.performs_writeTo (s : Select) : s.writeTo.Performs s.render := by
  have projection : (writeProjection s.projection).Performs (renderProjection s.projection) := by
    cases s.projection with
    | nil => exact performs_char rfl
    | cons item rest => exact performs_items Selectable.performs_writeTo (item :: rest)
  refine (performs_text "SELECT ").then <| projection.then <| (performs_text " FROM ").then ?_
  refine (performs_writeSource s.source).then <| (performs_writeClause " WHERE " s.conditions).then ?_
  refine (performs_writeList Column.performs_writeTo " GROUP BY " s.groupBy).then ?_
  refine (performs_writeClause " HAVING " s.having).then ?_
  refine (performs_writeList SortKey.performs_writeTo " ORDER BY " s.orderBy).then ?_
  exact (performs_writeCount " LIMIT " s.limit).then (performs_writeCount " OFFSET " s.offset)

namespace Insert

variable {e : Entity}

theorem performs_writeCell (k : Materializer) (r : e.Record) (field : MappedField) :
    (writeCell k r field).Performs (renderCell k r field) :=
  performs_ownModel.bind fun m => performs_bound (k.field m e r field.name)

theorem performs_writeRow (k : Materializer) (fields : List MappedField) (r : e.Record) :
    (writeRow k fields r).Performs
      (Render.parenthesized (Render.commaList (renderCell k r) fields)) :=
  (performs_items (performs_writeCell k r) fields).parenthesized

theorem performs_writeTo (style : Style) (s : Insert e) :
    (s.writeTo style).Performs (s.render style) := by
  refine performs_ownModel.bind fun m => (performs_ofExcept _).bind fun fields => ?_
  have columns := performs_items (fun field : MappedField => performs_quote field.column) fields
  have rows := performs_items (performs_writeRow style.materializer fields) s.records
  refine (performs_text "INSERT INTO ").then <| (performs_quote m.table).then ?_
  refine columns.enclosed_text " VALUES " (rows.then ?_)
  cases s.upsert with
  | none => exact performs_pure ()
  | some upsert => exact upsert.performs_writeTo style.dialect

end Insert

namespace Update

variable {e : Entity}

theorem performs_writeField (k : Materializer) (r : e.Record) (name column : String) :
    (writeField k r name column).Performs (renderField k r name column) := by
  refine performs_ownModel.bind fun m => (performs_quote column).then ?_
  exact (performs_char rfl).then (performs_bound (k.field m e r name))

theorem performs_writeItem (k : Materializer) (record : Option e.Record) (item : Assignable) :
    (writeItem k record item).Performs (renderItem k record item) := by
  cases item with
  | assignment a => exact a.performs_writeTo
  | column c =>
    obtain ⟨field, aliasName, table⟩ := c
    cases record with
    | none => exact performs_fail (.unsupportedAssignable field)
    | some r =>
      cases table with
      | some t => exact performs_fail (.unsupportedAssignable field)
      | none => exact (performs_ownColumn field).bind (performs_writeField k r field)

/-- One of the two loops has nothing to do, so together they write what the rendering chooses. -/
theorem performs_writeAssignments (k : Materializer) {s : Update e} (given : s.isVoid = false)
    {z : InPlace Unit} {w : Render Unit} (behind : z.Performs w) :
    (do s.writeRecord k; items (writeItem k s.record) s.assignments; z : InPlace Unit).Performs
      (do renderAssignments k s; w) := by
  obtain ⟨record, assignments, conditions⟩ := s
  cases assignments with
  | cons item rest =>
    have each := performs_items (performs_writeItem k record) (item :: rest)
    exact fun b => each.then behind b
  | nil =>
    cases record with
    | none => simp [isVoid] at given
    | some r =>
      have fields (m : Model) := performs_items
        (fun field : MappedField => performs_writeField k r field.name field.column) m.fields
      exact (performs_ownModel.bind fields).then fun b => behind b

theorem performs_writeTo (style : Style) (s : Update e) :
    (s.writeTo style).Performs (s.render style) := by
  refine performs_ownModel.bind fun m => ?_
  by_cases void : s.isVoid = true
  · rw [if_pos void, if_pos void]
    exact performs_fail_then .emptyAssignments _ _
  · rw [if_neg void, if_neg void]
    refine (performs_text "UPDATE ").then <| (performs_quote m.table).then ?_
    refine (performs_text " SET ").then ?_
    exact performs_writeAssignments style.materializer (eq_false_of_ne_true void)
      (performs_writeClause " WHERE " s.conditions)

end Update

theorem Delete.performs_writeTo (s : Delete) : s.writeTo.Performs s.render := by
  refine performs_ownModel.bind fun m => (performs_text "DELETE FROM ").then ?_
  exact (performs_quote (s.table.getD m.table)).then (performs_writeClause " WHERE " s.conditions)

namespace Statement

variable {e : Entity}

theorem performs_writeTo (style : Style) (s : Statement e) :
    (s.writeTo style).Performs (s.render style) := by
  cases s with
  | select s => exact s.performs_writeTo
  | insert s => exact s.performs_writeTo style
  | update s => exact s.performs_writeTo style
  | delete s => exact s.performs_writeTo
  | raw r => exact performs_raw r

/-- A builder of its own is left with the pieces of the rendering, also where that fails. -/
theorem writeTo_empty (style : Style) (s : Statement e) (m : Model) (registry : Registry) :
    s.writeTo style (.empty m style.dialect registry) =
      let draft := s.render style m registry
      (draft.result, ⟨m, style.dialect, draft.registry,
        sqlOf style.dialect.quote draft.pieces, argsOf draft.pieces⟩) := by
  rw [s.performs_writeTo style]
  simp only [Builder.step, Builder.empty, String.empty_append, List.nil_append]

/-- The construction for the entity of a statement: what is written into the builder, and the
semicolon if nothing fails. -/
theorem construct_draftFor (style : Style) (registry : Registry) (s : Statement e) :
    (match registry.get e with
      | .error err => ⟨.error err, registry⟩
      | .ok (model, after) =>
        match s.writeTo style (.empty model style.dialect after) with
        | (.error err, b) => ⟨.error err, b.registry⟩
        | (.ok (), b) => ⟨.ok b.finish, b.registry⟩ : Built) =
      let draft := draftFor e (do s.render style; Render.write ";") registry
      ⟨draft.result.map fun () => .ofPieces style.dialect.quote draft.pieces, draft.registry⟩ := by
  rw [draftFor]
  cases registry.get e with
  | error err => rfl
  | ok found =>
    obtain ⟨m, after⟩ := found
    simp only [writeTo_empty, bind, Render.bind]
    cases outcome : (s.render style m after).result with
    | error err => rfl
    | ok done =>
      have text : sqlOf style.dialect.quote ((s.render style m after).pieces ++ [.text ";"]) =
          sqlOf style.dialect.quote (s.render style m after).pieces ++ ";" := by
        rw [sqlOf_append]
        rfl
      have arguments : argsOf ((s.render style m after).pieces ++ [.text ";"]) =
          argsOf (s.render style m after).pieces := by
        rw [argsOf_append]
        exact List.append_nil _
      simp only [Render.write, Render.emit, Except.map, Query.ofPieces, Builder.finish, text, arguments]

/-- The two buffers that a statement is written into hold what its pieces say: the construction in
place and the one from pieces leave the same query or error, and the same registry. -/
theorem construct_eq_build (style : Style) (registry : Registry) (s : Statement e) :
    s.construct style registry = s.build style registry := by
  cases s with
  | select s => exact construct_draftFor style registry (.select s)
  | update s => exact construct_draftFor style registry (.update s)
  | delete s => exact construct_draftFor style registry (.delete s)
  | insert s =>
    obtain ⟨records, fields, upsert⟩ := s
    cases records with
    | nil => rfl
    | cons r rest => exact construct_draftFor style registry (.insert ⟨r :: rest, fields, upsert⟩)
  | raw r =>
    have query : Query.ofPieces style.dialect.quote [.raw r] = ⟨r.sql, r.args⟩ := by
      simp only [Query.ofPieces, sqlOf, argsOf, Piece.sql, Piece.args, String.append_empty,
        List.append_nil]
    simp only [construct, build, draft, Except.map, query]

end Statement

end RecordSql
