import RecordSql.Render.InPlace
/-! # The frame of a builder

A step in place could read what was written before it or take it back. None does: `Performs x y`
says that the change `x` does to every builder what `Builder.step` does with the rendering `y`,
which has no access to the buffer, and every step performs its rendering, also where an error stops
it half-way. What a step writes into an empty builder is therefore all that it writes into any. -/
set_option autoImplicit false
namespace RecordSql

theorem Builder.step_bind {α β : Type} (b : Builder) (y : Render α) (g : α → Render β) :
    b.step (y >>= g) = match b.step y with
      | (.error e, after) => (.error e, after)
      | (.ok a, after) => after.step (g a) := by
  simp only [step, Bind.bind, Render.bind]
  cases (y b.model b.registry).result with
  | error e => rfl
  | ok a => simp only [sqlOf_append, argsOf_append, String.append_assoc, List.append_assoc]

namespace InPlace

variable {α β : Type}

/-- The change does to every builder what the builder does with the rendering. -/
def Performs (x : InPlace α) (y : Render α) : Prop := ∀ b : Builder, x b = b.step y

theorem bind_pure_unit (x : InPlace Unit) : (x >>= fun _ => pure ()) = x := by
  funext b
  change InPlace.bind x (fun _ => pure ()) b = x b
  rw [InPlace.bind]
  rcases x b with ⟨result, after⟩
  cases result with
  | error e => rfl
  | ok a => rfl

theorem performs_pure (a : α) : (pure a : InPlace α).Performs (pure a) := by
  intro b
  change (Except.ok a, b) = (Except.ok a, { b with sql := b.sql ++ "", args := b.args ++ [] })
  rw [String.append_empty, List.append_nil]

theorem performs_ofExcept (result : Except Error α) :
    (ofExcept result).Performs (Render.ofExcept result) := by
  intro b
  change (result, b) = (result, { b with sql := b.sql ++ "", args := b.args ++ [] })
  rw [String.append_empty, List.append_nil]

theorem performs_fail (e : Error) : (fail e : InPlace α).Performs (Render.fail e) :=
  performs_ofExcept (.error e)

theorem Performs.bind {x : InPlace α} {y : Render α} {f : α → InPlace β} {g : α → Render β}
    (first : x.Performs y) (second : ∀ a, (f a).Performs (g a)) : (x >>= f).Performs (y >>= g) := by
  intro b
  change InPlace.bind x f b = _
  rw [InPlace.bind, first b, Builder.step_bind]
  rcases b.step y with ⟨result, after⟩
  cases result with
  | error e => rfl
  | ok a => exact second a after

/-- The next step does not read what the first one gives. -/
theorem Performs.then {x z : InPlace Unit} {y w : Render Unit} (first : x.Performs y)
    (second : z.Performs w) : (x >>= fun _ => z).Performs (y >>= fun _ => w) :=
  first.bind fun _ => second

theorem performs_text (s : String) : (text s).Performs (Render.write s) := by
  intro b
  change (_, _) = (Except.ok (), { b with sql := b.sql ++ (s ++ ""), args := b.args ++ [] })
  rw [String.append_empty, List.append_nil]

theorem performs_char {c : Char} {s : String} (same : s = String.singleton c) :
    (char c).Performs (Render.write s) := by
  intro b
  have pushed : b.sql.push c = b.sql ++ s := by rw [same, String.append_singleton]
  rw [← performs_text s b]
  change (_, { b with sql := b.sql.push c }) = (_, { b with sql := b.sql ++ s })
  rw [pushed]

theorem performs_quote (name : String) : (quote name).Performs (Render.quoted name) := by
  intro b
  have pushed (q : Char) : ((b.sql.push q) ++ name).push q = b.sql ++ (quotedName q name ++ "") := by
    rw [String.append_empty, quotedName, String.push_eq_append, String.push_eq_append,
      String.append_assoc, String.append_assoc, String.append_assoc]
  change (Except.ok (), { b with sql := ((b.sql.push b.dialect.quote) ++ name).push b.dialect.quote }) =
    (Except.ok (), { b with sql := b.sql ++ (quotedName b.dialect.quote name ++ ""), args := b.args ++ [] })
  rw [pushed, List.append_nil]

theorem performs_argument (v : Value) : (argument v).Performs (Render.bound v) := by
  intro b
  change (Except.ok (), { b with sql := b.sql.push '?', args := b.args ++ [v] }) =
    (Except.ok (), { b with sql := b.sql ++ ("?" ++ ""), args := b.args ++ ([v] ++ []) })
  rw [String.append_empty, List.append_nil, String.push_eq_append]
  rfl

theorem performs_raw (r : RawExpr) : (raw r).Performs (Render.raw r) := by
  intro b
  change (Except.ok (), { b with sql := b.sql ++ r.sql, args := b.args ++ r.args }) =
    (Except.ok (), { b with sql := b.sql ++ (r.sql ++ ""), args := b.args ++ (r.args ++ []) })
  rw [String.append_empty, List.append_nil]

theorem performs_ownColumn (field : String) :
    (ownColumn field).Performs (Render.ownColumn field) :=
  fun b => performs_ofExcept (b.model.columnOf field) b

theorem performs_modelOf (e : Entity) : (modelOf e).Performs (Render.modelOf e) := by
  intro b
  simp only [modelOf, Bind.bind, InPlace.bind, get, ofExcept, Builder.step, Render.modelOf]
  cases b.registry.get e with
  | error err =>
    simp only [sqlOf, argsOf, String.append_empty, List.append_nil]
  | ok found =>
    obtain ⟨model, after⟩ := found
    change (Except.ok model, { b with registry := after }) = _
    simp only [sqlOf, argsOf, String.append_empty, List.append_nil]

theorem performs_operator (s : String) : (operator s).Performs (Render.write (" " ++ s ++ " ")) := by
  intro b
  rw [← performs_text (" " ++ s ++ " ") b]
  change (_, { b with sql := ((b.sql.push ' ') ++ s).push ' ' }) =
    (_, { b with sql := b.sql ++ (" " ++ s ++ " ") })
  rw [String.push_eq_append, String.push_eq_append, String.append_assoc, String.append_assoc,
    String.append_assoc]
  rfl

theorem Performs.parenthesized {x : InPlace Unit} {y : Render Unit} (inside : x.Performs y) :
    (parenthesized x).Performs (Render.parenthesized y) :=
  (performs_char rfl).then <| inside.then <| performs_char rfl

/-- The keyword is written in two steps and rendered as one piece. -/
theorem Performs.negated {x : InPlace Unit} {y : Render Unit} (inside : x.Performs y) :
    (do text "NOT"; char ' '; x : InPlace Unit).Performs (do Render.write "NOT "; y) := by
  intro b
  have keyword : (b.sql ++ "NOT").push ' ' = b.sql ++ "NOT " := by
    rw [String.push_eq_append, String.append_assoc]
    rfl
  rw [← (performs_text "NOT ").then inside b]
  change x { b with sql := (b.sql ++ "NOT").push ' ' } = x { b with sql := b.sql ++ "NOT " }
  rw [keyword]

section Items

variable {item : α → InPlace Unit} {rendered : α → Render Unit}

/-- Behind the first item every one stands behind a comma. -/
theorem performs_itemsFrom (each : ∀ a, (item a).Performs (rendered a)) (position : Nat)
    (list : List α) :
    (itemsFrom item (position + 1) list).Performs (Render.commaTail rendered list) := by
  induction list generalizing position with
  | nil => exact performs_pure ()
  | cons a rest ih => exact (performs_char rfl).then <| (each a).then (ih (position + 1))

theorem performs_items (each : ∀ a, (item a).Performs (rendered a)) (list : List α) :
    (items item list).Performs (Render.commaList rendered list) := by
  cases list with
  | nil => exact performs_pure ()
  | cons a rest => exact (each a).then (performs_itemsFrom each 0 rest)

end Items

theorem performs_quotedColumn (field : String) :
    (do quote (← ownColumn field) : InPlace Unit).Performs
      (do Render.quoted (← Render.ownColumn field)) :=
  (performs_ownColumn field).bind performs_quote

end InPlace

open InPlace

/-! ## Every step performs its rendering -/

theorem performs_writeAlias (aliasName : Option String) :
    (writeAlias aliasName).Performs (renderAlias aliasName) := by
  cases aliasName with
  | none => exact performs_pure ()
  | some name => exact (performs_text " AS ").then (performs_quote name)

namespace Column

theorem performs_writeReference (c : Column) : c.writeReference.Performs c.render := by
  obtain ⟨field, shown, table⟩ := c
  cases table with
  | none => exact performs_quotedColumn field
  | some t =>
    obtain ⟨e, aliasName⟩ := t
    refine (performs_modelOf e).bind fun model => (performs_ofExcept _).bind fun column => ?_
    cases aliasName with
    | none => exact performs_quote column
    | some name =>
      have behind : (do char '.'; quote column : InPlace Unit).Performs
          (do Render.write "."; Render.quoted column) :=
        (performs_char rfl).then (performs_quote column)
      intro b
      exact (performs_quote name).then behind b

theorem performs_writeTo (c : Column) : (c.writeTo false).Performs c.render := by
  have noAlias : c.writeTo false = c.writeReference := bind_pure_unit c.writeReference
  rw [noAlias]
  exact c.performs_writeReference

theorem performs_writeTo_alias (c : Column) : (c.writeTo true).Performs c.renderProjected :=
  c.performs_writeReference.then (performs_writeAlias c.aliasName)

end Column

mutual

theorem Expr.performs_writeOperand : (e : Expr) → e.writeOperand.Performs e.renderOperand
  | .predicate p => by
    rw [Expr.writeOperand, Expr.renderOperand]
    exact p.performs_writeTo.parenthesized
  | .column c => by
    rw [Expr.writeOperand, Expr.renderOperand]
    exact c.performs_writeTo
  | .value v => by
    rw [Expr.writeOperand, Expr.renderOperand]
    exact performs_argument v
  | .raw r => by
    rw [Expr.writeOperand, Expr.renderOperand]
    exact (performs_raw r).parenthesized
  | .assignment field _ => by
    rw [Expr.writeOperand, Expr.renderOperand]
    exact performs_fail (misplacedAssignment field)

theorem Predicate.performs_writeTo : (p : Predicate) → p.writeTo.Performs p.render
  | .compare left op right => by
    rw [Predicate.writeTo, Predicate.render]
    exact left.performs_writeTo.then <| (performs_operator op.sql).then right.performs_writeOperand
  | .and left right => by
    rw [Predicate.writeTo, Predicate.render]
    exact left.performs_writeTo.parenthesized.then <|
      (performs_operator "AND").then right.performs_writeTo.parenthesized
  | .or left right => by
    rw [Predicate.writeTo, Predicate.render]
    exact left.performs_writeTo.parenthesized.then <|
      (performs_operator "OR").then right.performs_writeTo.parenthesized
  | .not p => by
    rw [Predicate.writeTo, Predicate.render]
    exact p.performs_writeTo.parenthesized.negated
  | .raw r => by
    rw [Predicate.writeTo, Predicate.render]
    exact (performs_raw r).parenthesized

end

theorem Expr.performs_writeTo : (e : Expr) → e.writeTo.Performs e.render
  | .predicate p => p.performs_writeTo
  | .column c => Expr.performs_writeOperand (.column c)
  | .value v => Expr.performs_writeOperand (.value v)
  | .raw r => Expr.performs_writeOperand (.raw r)
  | .assignment field assigned => Expr.performs_writeOperand (.assignment field assigned)

theorem performs_writeAll (conditions : List Predicate) :
    (writeAll conditions).Performs (renderAll conditions) := by
  rw [writeAll, renderAll]
  cases Predicate.all? conditions with
  | none => exact performs_pure ()
  | some p => exact p.performs_writeTo

theorem Assignment.performs_writeTo (a : Assignment) : a.writeTo.Performs a.render := by
  refine (performs_ownColumn a.field).bind fun column => ?_
  exact (performs_quote column).then <| (performs_char rfl).then a.value.performs_writeTo

theorem performs_writeUsing (fields : List String) :
    (writeUsing fields).Performs (renderUsing fields) := by
  cases fields with
  | nil => exact performs_pure ()
  | cons field rest =>
    have list := performs_items performs_quotedColumn (field :: rest)
    exact (performs_text " USING (").then <| list.then (performs_char rfl)

theorem performs_writeOn (conditions : List Predicate) :
    (writeOn conditions).Performs (renderClause " ON " conditions) := by
  cases conditions with
  | nil => exact performs_pure ()
  | cons p rest => exact (performs_text " ON ").then (performs_writeAll (p :: rest))

theorem Source.performs_writeTo (source : Source) : source.writeTo.Performs source.render := by
  induction source with
  | table t =>
    refine (performs_modelOf t.entity).bind fun model => ?_
    exact (performs_quote model.table).then (performs_writeAlias t.aliasName)
  | join kind left right fields conditions leftPerforms rightPerforms =>
    have behind := (performs_writeUsing fields).then <|
      (performs_writeOn conditions).then (performs_char (c := ')') rfl)
    exact (performs_char rfl).then <| leftPerforms.then <|
      (performs_operator kind.sql).then <| rightPerforms.then behind

theorem performs_writeSource (source : Option Source) :
    (writeSource source).Performs (renderSource source) := by
  cases source with
  | none => exact fun b => performs_quote b.model.table b
  | some source => exact source.performs_writeTo

namespace Upsert

theorem performs_writtenColumn (c : Column) :
    (writtenColumn c).Performs (assignableColumn c) := by
  obtain ⟨field, aliasName, table⟩ := c
  cases table with
  | none => exact performs_ownColumn field
  | some t => exact performs_fail (.unsupportedAssignable field)

theorem performs_writeItem (before after : String) (item : Assignable) :
    (writeItem before after item).Performs (renderItem before after item) := by
  cases item with
  | assignment a => exact a.performs_writeTo
  | column c =>
    refine (performs_writtenColumn c).bind fun column => ?_
    exact (performs_quote column).then <| (performs_text before).then <|
      (performs_quote column).then (performs_text after)

theorem performs_writeTarget (u : Upsert) :
    (writeTarget u.conflictFields).Performs u.renderTarget := by
  obtain ⟨assignments, conflictFields⟩ := u
  cases conflictFields with
  | nil => exact performs_text " ON CONFLICT DO UPDATE SET "
  | cons field rest =>
    have list := performs_items (fun field => Column.performs_writeTo ⟨field, none, none⟩)
      (field :: rest)
    exact (performs_text " ON CONFLICT(").then <| list.then (performs_text ") DO UPDATE SET ")

theorem performs_writeConflict (u : Upsert) : u.writeConflict.Performs u.renderConflict :=
  u.performs_writeTarget.then (performs_items (performs_writeItem "=excluded." "") u.assignments)

theorem performs_writeTo (dialect : Dialect) (u : Upsert) :
    (u.writeTo dialect).Performs (u.render dialect) := by
  cases dialect with
  | mysql =>
    exact (performs_text " ON DUPLICATE KEY UPDATE ").then
      (performs_items (performs_writeItem "=VALUES(" ")") u.assignments)
  | sqlite => exact u.performs_writeConflict
  | postgres =>
    rw [writeTo, render]
    by_cases missing : u.conflictFields.isEmpty
    · rw [if_pos missing, if_pos missing]
      exact performs_fail _
    · rw [if_neg missing, if_neg missing]
      exact u.performs_writeConflict

end Upsert

theorem BuilderStep.performs (s : BuilderStep) : s.writeTo.Performs s.render := by
  cases s with
  | text s => exact performs_text s
  | quote name => exact performs_quote name
  | argument v => exact performs_argument v
  | raw r => exact performs_raw r
  | column c withAlias =>
    cases withAlias with
    | false => exact c.performs_writeTo
    | true => exact c.performs_writeTo_alias
  | expression e => exact e.performs_writeTo
  | conditions ps => exact performs_writeAll ps
  | assignment a => exact a.performs_writeTo
  | source s => exact performs_writeSource s
  | upsert dialect u => exact u.performs_writeTo dialect

/-! ## The frame of a sequence of steps -/

namespace Builder

def cleared (b : Builder) : Builder := .empty b.model b.dialect b.registry

/-- A builder with what another one had written in front of its own. -/
def continuedBy (before own : Builder) : Builder :=
  { own with sql := before.sql ++ own.sql, args := before.args ++ own.args }

theorem continuedBy_cleared (b : Builder) : b.continuedBy b.cleared = b := by
  rw [continuedBy, cleared, empty, String.append_empty, List.append_nil]

theorem continuedBy_assoc (a b c : Builder) :
    (a.continuedBy b).continuedBy c = a.continuedBy (b.continuedBy c) := by
  simp only [continuedBy, String.append_assoc, List.append_assoc]

theorem step_frame {α : Type} (b : Builder) (y : Render α) :
    b.step y = ((b.cleared.step y).1, b.continuedBy (b.cleared.step y).2) := by
  simp only [step, cleared, empty, continuedBy, String.empty_append, List.nil_append]

/-- A step writes behind any buffer what it writes into an empty one. -/
theorem write_frame (b : Builder) (s : BuilderStep) :
    s.writeTo b = ((s.writeTo b.cleared).1, b.continuedBy (s.writeTo b.cleared).2) := by
  rw [s.performs b, s.performs b.cleared]
  exact b.step_frame s.render

theorem run_cons (b : Builder) (s : BuilderStep) (rest : List BuilderStep) :
    b.run (s :: rest) =
      ((s.writeTo b).1 :: ((s.writeTo b).2.run rest).1, ((s.writeTo b).2.run rest).2) := rfl

theorem run_cleared (b : Builder) (steps : List BuilderStep) :
    b.run steps = ((b.cleared.run steps).1, b.continuedBy (b.cleared.run steps).2) := by
  induction steps generalizing b with
  | nil =>
    change ([], b) = ([], b.continuedBy b.cleared)
    rw [continuedBy_cleared]
  | cons s rest ih =>
    rw [run_cons, run_cons, write_frame b s]
    generalize s.writeTo b.cleared = own
    -- the rest runs on two buffers, which are the same once they are cleared
    have behind : (b.continuedBy own.2).run rest =
        ((own.2.cleared.run rest).1, (b.continuedBy own.2).continuedBy (own.2.cleared.run rest).2) :=
      ih (b.continuedBy own.2)
    rw [behind, ih own.2, continuedBy_assoc]

theorem run_append (b : Builder) (front back : List BuilderStep) :
    b.run (front ++ back) =
      ((b.run front).1 ++ ((b.run front).2.run back).1, ((b.run front).2.run back).2) := by
  induction front generalizing b with
  | nil => rfl
  | cons s rest ih =>
    rw [List.cons_append, run_cons, run_cons, ih, List.cons_append]

/-- No step changes which statement is built, and for which database. -/
theorem run_keeps (b : Builder) (steps : List BuilderStep) :
    (b.run steps).2.model = b.model ∧ (b.run steps).2.dialect = b.dialect := by
  induction steps generalizing b with
  | nil => exact ⟨rfl, rfl⟩
  | cons s rest ih =>
    have kept := ih (s.writeTo b).2
    rw [s.performs b] at kept
    rw [run_cons, s.performs b]
    exact kept

theorem prefix_continuedBy (before own : Builder) :
    before.sql.toList <+: (before.continuedBy own).sql.toList ∧
      before.args <+: (before.continuedBy own).args := by
  refine ⟨?_, List.prefix_append before.args own.args⟩
  rw [continuedBy, String.toList_append]
  exact List.prefix_append _ _

/-- A step anywhere in a sequence: its result and what it adds are those that it has with an
empty buffer, so they follow from the step, the model, the dialect and the registry alone. What
was written before stays in front, also where the step fails, and the whole sequence adds to the
buffer it finds what it would write into an empty one. -/
theorem run_frame (b : Builder) (front : List BuilderStep) (s : BuilderStep)
    (back : List BuilderStep) :
    let before := (b.run front).2
    let own := s.writeTo (.empty b.model b.dialect before.registry)
    let after := before.continuedBy own.2
    let alone := (Builder.empty b.model b.dialect b.registry).run (front ++ s :: back)
    s.writeTo before = (own.1, after) ∧ s.writeTo before = before.step s.render ∧
    before.sql.toList <+: after.sql.toList ∧ before.args <+: after.args ∧
    b.run (front ++ s :: back) =
      ((b.run front).1 ++ own.1 :: (after.run back).1, (after.run back).2) ∧
    b.run (front ++ s :: back) = (alone.1, b.continuedBy alone.2) := by
  intro before own after alone
  have kept : before.cleared = .empty b.model b.dialect before.registry := by
    obtain ⟨sameModel, sameDialect⟩ := b.run_keeps front
    rw [cleared, sameModel, sameDialect]
  have step : s.writeTo before = (own.1, after) := by rw [write_frame, kept]
  obtain ⟨textStays, argsStay⟩ := before.prefix_continuedBy own.2
  refine ⟨step, s.performs before, textStays, argsStay, ?_, b.run_cleared _⟩
  rw [run_append, run_cons before, step]

end Builder

/-- An upsert that fails at its second item has written everything in front of that. -/
example :
    let u : Upsert :=
      ⟨[.assignment ⟨"owner", .value (.int 7)⟩, .column ⟨"total", none, none⟩], ["owner"]⟩
    let b : Builder :=
      ⟨⟨"account", [⟨"owner", "owner_id", "String", 0⟩]⟩, .sqlite, .empty, "INSERT", []⟩
    let failed := u.writeTo .sqlite b
    failed.1 = .error (.unknownField "total") ∧ failed.2.args = [.int 7] ∧
      failed.2.sql = "INSERT ON CONFLICT(\x60owner_id\x60) DO UPDATE SET \x60owner_id\x60=?," :=
  ⟨rfl, rfl, by decide +kernel⟩

end RecordSql
