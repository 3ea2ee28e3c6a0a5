import RecordSql.Proofs.Guard
import RecordSql.Proofs.Patterns
import RecordSql.Proofs.Registrations
import RecordSql.Statement.Calls
/-! # Conditions and the word WHERE

A change knows whether it has conditions, and its text shows it. Blanking leaves what stands outside
quotes, which are the texts between the names, and of these only the keyword of the conditions holds
a w. -/
set_option autoImplicit false
namespace RecordSql

open Render Text

/-! ## What blanking leaves -/

theorem closing_of_closes {q : Char} {cs : List Char} (isQuote : isQuoteChar q = true)
    (closes : openBehind isQuoteChar (some q) cs = none) :
    ∃ behind, closing q cs = some behind ∧ ClosesQuotes isQuoteChar behind := by
  have apart : ([] : List Char).head? ≠ some q := by simp
  obtain ⟨behind, found, -, closed⟩ := closing_append isQuote closes apart
  exact ⟨behind, found, closed⟩

/-- The outline goes on behind quoted text as that of the rest. -/
theorem outline_closing {q : Char} {cs behind : List Char} (isQuote : isQuoteChar q = true)
    (closes : openBehind isQuoteChar (some q) cs = none) (closed : closing q cs = some behind) :
    outline isQuoteChar none behind ⊆ outline isQuoteChar (some q) cs := by
  fun_induction closing q cs with
  | case1 => simp at closed
  | case2 =>
    obtain rfl : [] = behind := Option.some.inj closed
    simp [outline]
  | case3 c other => simp at closed
  | case4 rest ih =>
    have reopens : openBehind isQuoteChar none (q :: rest) =
        openBehind isQuoteChar (some q) rest := by
      simp [openBehind_cons, openAfter, isQuote]
    rw [openBehind_self, reopens] at closes
    obtain ⟨later, found, -⟩ := closing_of_closes isQuote closes
    rw [found, Option.some_or, Option.some.injEq] at closed
    have inside := ih closes (closed ▸ found)
    intro c member
    simp [outline, openAfter, isQuote, inside member]
  | case5 d rest other =>
    obtain rfl : d :: rest = behind := Option.some.inj closed
    intro c member
    rw [outline, openAfter, if_pos rfl]
    exact List.mem_append_right _ member
  | case6 c d rest other ih =>
    rw [openBehind_other other] at closes
    rw [outline, openAfter, if_neg other]
    exact List.subset_append_of_subset_right _ (ih closes closed)

/-- Of a text that closes its quotes, blanking leaves blanks and what the outline holds. -/
theorem mem_blankQuoted {cs : List Char} (closes : ClosesQuotes isQuoteChar cs) {c : Char}
    (left : c ∈ blankQuoted cs) : c = ' ' ∨ c ∈ outline isQuoteChar none cs := by
  induction length : cs.length using Nat.strongRecOn generalizing cs with
  | ind n ih =>
    cases cs with
    | nil => simp [blankQuoted] at left
    | cons d rest =>
      rw [List.length_cons] at length
      rw [ClosesQuotes, openBehind_cons, openAfter] at closes
      rw [outline_none_cons, openAfter]
      cases isQuote : isQuoteChar d with
      | true =>
        rw [if_pos isQuote] at closes
        obtain ⟨behind, found, closed⟩ := closing_of_closes isQuote closes
        have shorter := length_closing_lt found
        rw [blankQuoted_cons_closing isQuote found, List.mem_cons] at left
        -- Quoted text leaves a blank, and the scan goes on behind it with its quotes closed.
        rcases left with blank | later
        · exact .inl blank
        · refine (ih behind.length (by omega) closed later rfl).imp_right fun outside => ?_
          exact List.mem_cons_of_mem d (outline_closing isQuote closes found outside)
      | false =>
        rw [if_neg (by simp [isQuote])] at closes
        rw [blankQuoted_cons_plain isQuote, List.mem_cons] at left
        rcases left with rfl | later
        · exact .inr List.mem_cons_self
        · refine (ih rest.length (by omega) closes later rfl).imp_right fun outside => ?_
          exact List.mem_cons_of_mem d outside

/-! ## Texts without a w -/

/-- A text in which the first letter of WHERE does not occur, neither small nor capital. -/
def LacksW (s : String) : Prop := 'w' ∉ s.toList.map Char.toLower

instance (s : String) : Decidable (LacksW s) :=
  inferInstanceAs (Decidable ('w' ∉ s.toList.map Char.toLower))

namespace Render

variable {α β : Type}

/-- A rendering that writes no text with a w, also when it fails. -/
def WithoutW (x : Render α) : Prop := ∀ m r t, .text t ∈ (x m r).pieces → LacksW t

theorem withoutW_pure (a : α) : (pure a : Render α).WithoutW :=
  fun _ _ _ member => absurd member List.not_mem_nil

theorem withoutW_fail (e : Error) : (fail e : Render α).WithoutW :=
  fun _ _ _ member => absurd member List.not_mem_nil

theorem withoutW_ofExcept (x : Except Error α) : (ofExcept x).WithoutW :=
  fun _ _ _ member => absurd member List.not_mem_nil

theorem withoutW_write {s : String} (lacks : LacksW s) : (write s).WithoutW := by
  intro m r t member
  obtain rfl : t = s := Piece.text.inj (List.mem_singleton.mp member)
  exact lacks

theorem withoutW_quoted (s : String) : (quoted s).WithoutW :=
  fun _ _ _ member => Piece.noConfusion (List.mem_singleton.mp member)

theorem withoutW_bound (v : Value) : (bound v).WithoutW :=
  fun _ _ _ member => Piece.noConfusion (List.mem_singleton.mp member)

theorem withoutW_raw (fragment : RawExpr) : (raw fragment).WithoutW :=
  fun _ _ _ member => Piece.noConfusion (List.mem_singleton.mp member)

theorem withoutW_ownModel : ownModel.WithoutW :=
  fun _ _ _ member => absurd member List.not_mem_nil

theorem withoutW_modelOf (e : Entity) : (modelOf e).WithoutW := by
  intro m r t member
  unfold modelOf at member
  split at member <;> simp at member

theorem WithoutW.bind {x : Render α} {f : α → Render β} (first : x.WithoutW)
    (second : ∀ a, (f a).WithoutW) : (x >>= f).WithoutW := by
  intro m r t member
  simp only [Bind.bind, Render.bind] at member
  cases outcome : (x m r).result with
  | error e =>
    rw [outcome] at member
    exact first m r t member
  | ok a =>
    rw [outcome] at member
    rcases List.mem_append.mp member with here | later
    · exact first m r t here
    · exact second a m (x m r).registry t later

theorem withoutW_ownColumn (field : String) : (ownColumn field).WithoutW :=
  withoutW_ownModel.bind fun _ => withoutW_ofExcept _

theorem WithoutW.parenthesized {x : Render Unit} (inside : x.WithoutW) :
    (parenthesized x).WithoutW :=
  (withoutW_write (by decide)).bind fun _ => inside.bind fun _ => withoutW_write (by decide)

theorem withoutW_commaTail {item : α → Render Unit} (each : ∀ a, (item a).WithoutW)
    (items : List α) : (commaTail item items).WithoutW := by
  induction items with
  | nil => exact withoutW_pure ()
  | cons a rest ih => exact (withoutW_write (by decide)).bind fun _ => (each a).bind fun _ => ih

theorem withoutW_commaList {item : α → Render Unit} (each : ∀ a, (item a).WithoutW)
    (items : List α) : (commaList item items).WithoutW := by
  cases items with
  | nil => exact withoutW_pure ()
  | cons a rest => exact (each a).bind fun _ => withoutW_commaTail each rest

end Render

theorem lacksW_comparison (op : Comparison) : LacksW (" " ++ op.sql ++ " ") := by
  cases op <;> decide

theorem Column.withoutW_render (c : Column) : c.render.WithoutW := by
  unfold render
  split
  next => exact (withoutW_ownColumn _).bind fun _ => withoutW_quoted _
  next t =>
    refine (withoutW_modelOf _).bind fun model => (withoutW_ofExcept _).bind fun column => ?_
    split
    next => exact withoutW_quoted _
    next =>
      exact (withoutW_quoted _).bind fun _ =>
        (withoutW_write (by decide)).bind fun _ => withoutW_quoted _

mutual

theorem Expr.withoutW_renderOperand : (e : Expr) → e.renderOperand.WithoutW
  | .predicate p => by
    rw [Expr.renderOperand]
    exact p.withoutW_render.parenthesized
  | .column c => by
    rw [Expr.renderOperand]
    exact c.withoutW_render
  | .value v => by
    rw [Expr.renderOperand]
    exact withoutW_bound v
  | .raw r => by
    rw [Expr.renderOperand]
    exact (withoutW_raw r).parenthesized
  | .assignment field value => by
    rw [Expr.renderOperand]
    exact withoutW_fail _

theorem Predicate.withoutW_render : (p : Predicate) → p.render.WithoutW
  | .compare left op right => by
    rw [Predicate.render]
    exact left.withoutW_render.bind fun _ =>
      (withoutW_write (lacksW_comparison op)).bind fun _ => right.withoutW_renderOperand
  | .and left right => by
    rw [Predicate.render]
    exact left.withoutW_render.parenthesized.bind fun _ =>
      (withoutW_write (by decide)).bind fun _ => right.withoutW_render.parenthesized
  | .or left right => by
    rw [Predicate.render]
    exact left.withoutW_render.parenthesized.bind fun _ =>
      (withoutW_write (by decide)).bind fun _ => right.withoutW_render.parenthesized
  | .not p => by
    rw [Predicate.render]
    exact (withoutW_write (by decide)).bind fun _ => p.withoutW_render.parenthesized
  | .raw r => by
    rw [Predicate.render]
    exact (withoutW_raw r).parenthesized

end

theorem Expr.withoutW_render (e : Expr) : e.render.WithoutW := by
  cases e with
  | predicate p =>
    rw [Expr.render]
    exact p.withoutW_render
  | column c => exact Expr.withoutW_renderOperand (.column c)
  | value v => exact Expr.withoutW_renderOperand (.value v)
  | raw r => exact Expr.withoutW_renderOperand (.raw r)
  | assignment field value => exact Expr.withoutW_renderOperand (.assignment field value)

theorem Assignment.withoutW_render (a : Assignment) : a.render.WithoutW :=
  (withoutW_ownColumn _).bind fun _ => (withoutW_quoted _).bind fun _ =>
    (withoutW_write (by decide)).bind fun _ => a.value.withoutW_render

namespace Update

variable {e : Entity}

theorem withoutW_renderField (k : Materializer) (r : e.Record) (name column : String) :
    (renderField k r name column).WithoutW :=
  withoutW_ownModel.bind fun _ => (withoutW_quoted _).bind fun _ =>
    (withoutW_write (by decide)).bind fun _ => (withoutW_ofExcept _).bind fun _ =>
      withoutW_bound _

theorem withoutW_renderItem (k : Materializer) (record : Option e.Record) (item : Assignable) :
    (renderItem k record item).WithoutW := by
  unfold renderItem
  split
  next a => exact a.withoutW_render
  next c =>
    split
    next => exact (withoutW_ownColumn _).bind fun _ => withoutW_renderField k _ _ _
    next => exact withoutW_fail _

theorem withoutW_renderAssignments (k : Materializer) (s : Update e) :
    (s.renderAssignments k).WithoutW := by
  unfold renderAssignments
  split
  next => exact withoutW_fail _
  next =>
    exact withoutW_ownModel.bind fun _ =>
      withoutW_commaList (fun _ => withoutW_renderField k _ _ _) _
  next => exact withoutW_commaList (withoutW_renderItem k _) _

end Update

/-! ## Changes -/

namespace Statement

variable {e : Entity} {style : Style} {registry : Registry} {s : Statement e} {q : Query}

theorem withoutW_render (unconditional : s.hasWhere = some false) :
    (s.render style).WithoutW := by
  cases s with
  | select s => simp [hasWhere] at unconditional
  | insert s => simp [hasWhere] at unconditional
  | raw f => simp [hasWhere] at unconditional
  | update s =>
    have none : s.conditions = [] := by simpa [hasWhere] using unconditional
    have body (model : Model) : (do
        write "UPDATE "
        quoted model.table
        write " SET "
        s.renderAssignments style.materializer
        renderClause " WHERE " s.conditions : Render Unit).WithoutW := by
      rw [none]
      exact (withoutW_write (by decide)).bind fun _ => (withoutW_quoted _).bind fun _ =>
        (withoutW_write (by decide)).bind fun _ =>
          (s.withoutW_renderAssignments _).bind fun _ => withoutW_pure ()
    refine withoutW_ownModel.bind fun model => ?_
    split
    next => exact (withoutW_fail _).bind fun _ => body model
    next => exact body model
  | delete s =>
    have none : s.conditions = [] := by simpa [hasWhere] using unconditional
    rw [render, Delete.render, none]
    exact withoutW_ownModel.bind fun _ => (withoutW_write (by decide)).bind fun _ =>
      (withoutW_quoted _).bind fun _ => withoutW_pure ()

/-- In the text of a change without conditions no piece has a w outside quotes. -/
theorem ne_w_of_build (unconditional : s.hasWhere = some false)
    (built : (s.build style registry).result = .ok q)
    (clean : ∀ name ∈ namesOf (s.draft style registry).pieces, style.dialect.quote ∉ name.toList)
    (fragmentless : rawsOf (s.draft style registry).pieces = []) (piece : Piece)
    (member : piece ∈ (s.draft style registry).pieces) (c : Char)
    (outside : c ∈ outline isQuoteChar none (piece.sql style.dialect.quote).toList) :
    c.toLower ≠ 'w' := by
  have written := written_of_hasWhere unconditional
  have lacks (t : String) (inside : .text t ∈ (s.draft style registry).pieces) : LacksW t := by
    obtain ⟨model, middle, body, after, -, run, pieces⟩ :=
      yields_of_draft written (build_eq_ok built).1
    rw [pieces, List.mem_append, List.mem_singleton] at inside
    rcases inside with within | atEnd
    · have written : (s.render style).WithoutW := withoutW_render unconditional
      refine written model middle t ?_
      rwa [run]
    · rw [Piece.text.inj atEnd]
      decide
  cases piece with
  | text t =>
    have absent := lacks t member
    exact fun same => absent (List.mem_map.mpr ⟨c, mem_of_mem_outline outside, same⟩)
  | name t =>
    have quotesOnly := outline_quotedName style.dialect.isQuoteChar_quote
      (clean t (mem_namesOf.mpr member))
    rw [Piece.sql, quotesOnly] at outside
    obtain rfl : c = style.dialect.quote := by simpa using outside
    cases style.dialect <;> decide
  | raw r =>
    have inside : r ∈ rawsOf (s.draft style registry).pieces := mem_rawsOf.mpr member
    rw [fragmentless] at inside
    simp at inside
  | bound v =>
    have mark : c ∈ "?".toList := mem_of_mem_outline outside
    obtain rfl : c = '?' := by simpa using mark
    decide

/-- A change without conditions and raw fragments has no WHERE outside quotes, unless a name holds
the quote character. -/
theorem not_sqlHasWhere_of_build (unconditional : s.hasWhere = some false)
    (built : (s.build style registry).result = .ok q)
    (clean : ∀ name ∈ namesOf (s.draft style registry).pieces, style.dialect.quote ∉ name.toList)
    (fragmentless : rawsOf (s.draft style registry).pieces = []) : sqlHasWhere q.sql = false := by
  have each := closesQuotes_piece_of_build style.dialect.isQuoteChar_quote (fun _ => id) built clean
    (by simp [fragmentless])
  have absent := ne_w_of_build unconditional built clean fragmentless
  obtain ⟨-, rfl⟩ := build_eq_ok built
  rw [Bool.eq_false_iff]
  intro found
  -- The word would stand in what blanking leaves, and its first letter outside quotes.
  obtain ⟨front, middle, back, split, letters, -, -⟩ := (hasWord_iff (by decide) _).mp found
  have first : 'w' ∈ middle.map Char.toLower := by
    rw [letters]
    decide
  obtain ⟨c, inside, small⟩ := List.mem_map.mp first
  have left : c ∈ blankQuoted (sqlOf style.dialect.quote (s.draft style registry).pieces).toList := by
    have within : c ∈ front ++ middle ++ back := by simp [inside]
    rwa [← split] at within
  rcases mem_blankQuoted (closesQuotes_sqlOf each) left with rfl | outside
  · exact absurd small (by decide)
  · rw [outline_sqlOf each, List.mem_flatMap] at outside
    obtain ⟨piece, member, here⟩ := outside
    exact absent piece member c here small

end Statement

namespace Change

variable {e : Entity} {style : Style} {registry : Registry} {q : Query}

theorem conditions_foldl_update (calls : List (Update.Call e)) (s : Update e) :
    (calls.foldl Update.call s).conditions = s.conditions ++ (update calls).conditions := by
  induction calls generalizing s with
  | nil => simp [conditions]
  | cons call rest ih =>
    rw [List.foldl_cons, ih]
    cases call <;> simp [Update.call, conditions]

theorem conditions_foldl_delete (calls : List Delete.Call) (s : Delete) :
    (calls.foldl Delete.call s).conditions =
      s.conditions ++ (delete calls : Change e).conditions := by
  induction calls generalizing s with
  | nil => simp [conditions]
  | cons call rest ih =>
    rw [List.foldl_cons, ih]
    cases call <;> simp [Delete.call, conditions]

theorem hasWhere_statement (c : Change e) :
    c.statement.hasWhere = some (!c.conditions.isEmpty) := by
  cases c with
  | update calls => simp [statement, Statement.hasWhere, conditions_foldl_update]
  | delete calls => simp [statement, Statement.hasWhere, conditions_foldl_delete (e := e)]

/-- However a change without raw fragments is put together and whatever its names hold but the
quote character, its text has a WHERE outside quotes exactly if it says that it has conditions, and
so exactly if the caller asked for one. -/
theorem sqlHasWhere_build {c : Change e}
    (built : (c.statement.build style registry).result = .ok q)
    (clean : ∀ name ∈ namesOf (c.statement.draft style registry).pieces,
      style.dialect.quote ∉ name.toList)
    (fragmentless : rawsOf (c.statement.draft style registry).pieces = []) :
    c.statement.hasWhere = some (sqlHasWhere q.sql) ∧
      (sqlHasWhere q.sql = true ↔ c.conditions ≠ []) := by
  have known := c.hasWhere_statement
  cases given : c.conditions with
  | nil =>
    rw [given] at known
    have absent := Statement.not_sqlHasWhere_of_build known built clean fragmentless
    simp [absent, known]
  | cons p rest =>
    rw [given] at known
    have found := Statement.sqlHasWhere_of_build known built clean (by simp [fragmentless])
    simp [found, known]

/-- A table that is called where, a column with the other quote in its name, and a literal in a
condition. -/
theorem sqlHasWhere_build_tableWhere :
    let r := Registry.empty.run
      [.register account [.tableName "where", .columnName "owner" "\x60 where \x27"]]
    let item : Assignable := .column ⟨"owner", none, none⟩
    let p : Predicate := .compare ⟨"id", none, none⟩ .like (.value (.text " where "))
    let c (calls : List (Update.Call account)) : Change account :=
      .update (.record .initial :: .set [item] :: calls)
    let style : Style := ⟨.postgres, .accessor⟩
    let unconditional := "UPDATE \"where\" SET \"\x60 where \x27\"=?;"
    let conditional := "UPDATE \"where\" SET \"\x60 where \x27\"=? WHERE \"id\" LIKE ?;"
    ((c []).statement.build style r).result = .ok ⟨unconditional, [.int 0]⟩ ∧
      sqlHasWhere unconditional = false ∧ (c []).statement.hasWhere = some false ∧
      ((c [.condition p]).statement.build style r).result =
        .ok ⟨conditional, [.int 0, .text " where "]⟩ ∧
      sqlHasWhere conditional = true ∧ (c [.condition p]).statement.hasWhere = some true := by
  intro r item p c style unconditional conditional
  have first : ((c []).statement.build style r).result = .ok ⟨unconditional, [.int 0]⟩ := by
    decide +kernel
  have second : ((c [.condition p]).statement.build style r).result =
      .ok ⟨conditional, [.int 0, .text " where "]⟩ := by decide +kernel
  obtain ⟨reported, absent⟩ := sqlHasWhere_build first (by decide +kernel) (by decide +kernel)
  obtain ⟨reportedToo, found⟩ := sqlHasWhere_build second (by decide +kernel) (by decide +kernel)
  have hasNone : sqlHasWhere unconditional = false :=
    Bool.eq_false_iff.mpr fun shown => absent.mp shown rfl
  have hasSome : sqlHasWhere conditional = true := found.mpr (by simp [c, conditions])
  exact ⟨first, hasNone, reported.trans (by rw [hasNone]), second, hasSome,
    reportedToo.trans (by rw [hasSome])⟩

end Change

end RecordSql
