import Mathlib.Data.List.Forall2
import RecordSql.Proofs.Dialects
import RecordSql.Proofs.Refusals
import RecordSql.Proofs.Repetition
/-! # Lists of assignments

What is behind SET or ON DUPLICATE KEY UPDATE is one item for each assignment. An update always has
some: it is refused without any, and a record assigns every field of a model, which a program only
comes by with at least one. An upsert is not refused without any, and then nothing is behind its
keyword. -/
set_option autoImplicit false
namespace RecordSql

open Render

/-- The text of a column that gets a value. -/
def IsAssignment (quote : Char) (text : String) : Prop :=
  ∃ column value, text = quotedName quote column ++ "=" ++ value ∧ value ≠ ""

/-- The text of so many assignments with commas between them. -/
def AreAssignments (quote : Char) (count : Nat) (text : String) : Prop :=
  ∃ items : List String, items.length = count ∧ text = ",".intercalate items ∧
    ∀ item ∈ items, IsAssignment quote item

/-! ## Registries that a program comes by -/

namespace Registry

/-- A program starts with the empty registry, asks for models, registers entities and builds
statements. -/
inductive Reached : Registry → Prop
  | empty : Reached .empty
  | call {r : Registry} (c : RegistryCall) : Reached r → Reached (r.after c)
  | build {r : Registry} {e : Entity} (style : Style) (s : Statement e) :
      Reached r → Reached (s.build style r).registry

theorem fields_ne_nil_of_ofEntity {e : Entity} {options : List ModelOption} {m : Model}
    (made : Model.ofEntity e options = .ok m) : m.fields ≠ [] := by
  have lists := Model.lists_of_ofEntity made
  intro none
  have empty : e.fields = [] := by
    have lengths := lists.length_eq
    rw [none] at lengths
    exact List.length_eq_zero_iff.mp lengths.symm
  simp [Model.ofEntity, empty] at made

variable {r after : Registry}

theorem register_fields_ne_nil {e : Entity} {options : List ModelOption} {m : Model}
    (registered : r.register e options = .ok (m, after))
    (before : ∀ entry ∈ r.history, entry.model.fields ≠ []) :
    ∀ entry ∈ after.history, entry.model.fields ≠ [] := by
  unfold register at registered
  split at registered
  next => simp at registered
  next model made =>
    simp only [Except.ok.injEq, Prod.mk.injEq] at registered
    obtain ⟨rfl, rfl⟩ := registered
    exact List.forall_mem_cons.mpr ⟨fields_ne_nil_of_ofEntity made, before⟩

/-- Every model in a registry that a program comes by has fields. -/
theorem Reached.fields_ne_nil (reached : r.Reached) :
    ∀ entry ∈ r.history, entry.model.fields ≠ [] := by
  induction reached with
  | empty => simp [Registry.empty]
  | @call r c _ before =>
    rw [Registry.after]
    split
    next m next given =>
      cases c with
      | register e options => exact register_fields_ne_nil given before
      | get e =>
        simp only [answer, get] at given
        split at given
        next =>
          simp only [Except.ok.injEq, Prod.mk.injEq] at given
          exact given.2 ▸ before
        next => exact register_fields_ne_nil given before
    next => exact before
  | @build r e style s _ before =>
    obtain ⟨added, history, fresh⟩ := s.grows_draft style r
    intro entry member
    have inside : entry ∈ added ++ r.history := history ▸ member
    rcases List.mem_append.mp inside with new | old
    · obtain ⟨-, f, -, -, -, made⟩ := fresh entry new
      exact fields_ne_nil_of_ofEntity made
    · exact before entry old

theorem Reached.get_fields_ne_nil {e : Entity} {m : Model} (reached : r.Reached)
    (given : r.get e = .ok (m, after)) : m.fields ≠ [] := by
  unfold get at given
  split at given
  next known found =>
    simp only [Except.ok.injEq, Prod.mk.injEq] at given
    rw [find?, Option.map_eq_some_iff] at found
    obtain ⟨entry, chosen, rfl⟩ := found
    exact given.1 ▸ reached.fields_ne_nil entry (List.mem_of_find?_eq_some chosen)
  next =>
    unfold register at given
    split at given
    next => simp at given
    next model made =>
      simp only [Except.ok.injEq, Prod.mk.injEq] at given
      exact given.1 ▸ fields_ne_nil_of_ofEntity made

end Registry

/-! ## Values -/

namespace Render

variable {α β : Type} {m : Model} {r after : Registry} {pieces : List Piece}

/-- A rendering that does not succeed without writing something. -/
def Shows (x : Render α) : Prop :=
  ∀ quote m r pieces after a, x.Yields m r pieces after a → sqlOf quote pieces ≠ ""

theorem quotedName_ne_empty (quote : Char) (name : String) : quotedName quote name ≠ "" := by
  intro nothing
  have chars := congrArg String.toList nothing
  simp [quotedName] at chars

theorem shows_emit {piece : Piece} (shows_ : ∀ quote, piece.sql quote ≠ "") :
    (emit piece).Shows := by
  intro quote m r pieces after a run
  obtain ⟨rfl, -⟩ := yields_emit.mp run
  simpa [sqlOf] using shows_ quote

theorem shows_write {s : String} (given : s ≠ "") : (write s).Shows := shows_emit fun _ => given

theorem shows_quoted (s : String) : (quoted s).Shows :=
  shows_emit fun quote => quotedName_ne_empty quote s

theorem shows_bound (v : Value) : (bound v).Shows := by
  have mark : "?" ≠ "" := by decide
  exact shows_emit fun _ => mark

theorem Shows.andThen {x : Render α} {f : α → Render β} (first : x.Shows) : (x >>= f).Shows := by
  intro quote m r pieces after b run
  obtain ⟨front, middle, a, back, one, -, rfl⟩ := yields_bind.mp run
  have something := first quote m r front middle a one
  rw [sqlOf_append]
  simp [something]

theorem shows_behind {x : Render α} {f : α → Render β} (second : ∀ a, (f a).Shows) :
    (x >>= f).Shows := by
  intro quote m r pieces after b run
  obtain ⟨front, middle, a, back, -, two, rfl⟩ := yields_bind.mp run
  have something := second a quote m middle back after b two
  rw [sqlOf_append]
  simp [something]

theorem shows_fail (e : Error) : (fail e : Render α).Shows :=
  fun _ _ _ _ _ _ run => absurd run yields_fail

theorem shows_parenthesized (x : Render Unit) : (parenthesized x).Shows :=
  (shows_write (by decide)).andThen

end Render

theorem Column.shows_render (c : Column) : c.render.Shows := by
  unfold render
  split
  next => exact shows_behind fun _ => shows_quoted _
  next =>
    refine shows_behind fun _ => shows_behind fun _ => ?_
    split
    next => exact shows_quoted _
    next => exact (shows_quoted _).andThen

theorem Predicate.shows_render (p : Predicate) : p.render.Shows := by
  cases p with
  | compare left op right =>
    rw [Predicate.render]
    exact left.shows_render.andThen
  | and left right =>
    rw [Predicate.render]
    exact (shows_parenthesized _).andThen
  | or left right =>
    rw [Predicate.render]
    exact (shows_parenthesized _).andThen
  | not p =>
    rw [Predicate.render]
    exact (shows_write (by decide)).andThen
  | raw r =>
    rw [Predicate.render]
    exact shows_parenthesized _

theorem Expr.shows_renderOperand (e : Expr) : e.renderOperand.Shows := by
  cases e with
  | predicate p =>
    rw [Expr.renderOperand]
    exact shows_parenthesized _
  | column c =>
    rw [Expr.renderOperand]
    exact c.shows_render
  | value v =>
    rw [Expr.renderOperand]
    exact shows_bound v
  | raw r =>
    rw [Expr.renderOperand]
    exact shows_parenthesized _
  | assignment field value =>
    rw [Expr.renderOperand]
    exact shows_fail _

theorem Expr.shows_render (e : Expr) : e.render.Shows := by
  cases e with
  | predicate p => exact p.shows_render
  | column c => exact Expr.shows_renderOperand (.column c)
  | value v => exact Expr.shows_renderOperand (.value v)
  | raw r => exact Expr.shows_renderOperand (.raw r)
  | assignment field value => exact Expr.shows_renderOperand (.assignment field value)

/-! ## Items -/

namespace Render

variable {α β : Type} {m : Model} {r after : Registry} {pieces : List Piece}

/-- A rendering that does not succeed without writing one assignment and nothing else. -/
def Assigns (x : Render Unit) : Prop :=
  ∀ quote m r pieces after, x.Yields m r pieces after () → IsAssignment quote (sqlOf quote pieces)

theorem assigns_fail (e : Error) : (fail e : Render Unit).Assigns :=
  fun _ _ _ _ _ run => absurd run yields_fail

/-- A rendering behind one that writes nothing. -/
theorem Assigns.behind {x : Render α} {f : α → Render Unit} (next : ∀ a, (f a).Assigns)
    (silent : ∀ m r pieces after a, x.Yields m r pieces after a → pieces = []) :
    (x >>= f).Assigns := by
  intro quote m r pieces after run
  obtain ⟨front, middle, a, back, first, second, rfl⟩ := yields_bind.mp run
  rw [silent m r front middle a first, List.nil_append]
  exact next a quote m middle back after second

theorem assigns_ownColumn_bind {field : String} {f : String → Render Unit}
    (next : ∀ column, (f column).Assigns) : (ownColumn field >>= f).Assigns :=
  .behind next fun _ _ _ _ _ run => (yields_ownColumn.mp run).1

theorem assigns_ownModel_bind {f : Model → Render Unit} (next : ∀ model, (f model).Assigns) :
    (ownModel >>= f).Assigns :=
  .behind next fun _ _ _ _ _ run => (yields_ownModel.mp run).1

theorem assigns_column {column : String} {value : Render Unit} (shown : value.Shows) :
    (do quoted column; write "="; value : Render Unit).Assigns := by
  intro quote m r pieces after run
  simp only [yields_bind, yields_quoted, yields_write] at run
  obtain ⟨_, _, _, _, ⟨rfl, rfl⟩, ⟨_, _, _, text, ⟨rfl, rfl⟩, second, rfl⟩, rfl⟩ := run
  refine ⟨column, sqlOf quote text, ?_, shown quote m _ text after () second⟩
  simp [sqlOf, Piece.sql, String.append_assoc]

/-- The list of one item for each entry, each the success of a rendering of its own. -/
theorem forall₂_of_commaTail {item : α → Render Unit} {items : List α}
    (run : (commaTail item items).Yields m r pieces after ()) :
    ∃ parts : List (List Piece), pieces = parts.flatMap ([.text ","] ++ ·) ∧
      List.Forall₂ (fun a part => ∃ r after, (item a).Yields m r part after ()) items parts := by
  induction items generalizing r pieces with
  | nil =>
    obtain ⟨rfl, -⟩ := yields_pure.mp run
    exact ⟨[], rfl, .nil⟩
  | cons a rest ih =>
    simp only [commaTail, yields_bind, yields_write] at run
    obtain ⟨_, _, _, _, ⟨rfl, rfl⟩, ⟨part, middle, _, back, first, second, rfl⟩, rfl⟩ := run
    obtain ⟨parts, rfl, each⟩ := ih second
    exact ⟨part :: parts, by simp, .cons ⟨_, middle, first⟩ each⟩

theorem forall₂_of_commaList {item : α → Render Unit} {items : List α}
    (run : (commaList item items).Yields m r pieces after ()) :
    ∃ parts : List (List Piece), pieces = [Piece.text ","].intercalate parts ∧
      List.Forall₂ (fun a part => ∃ r after, (item a).Yields m r part after ()) items parts := by
  cases items with
  | nil =>
    obtain ⟨rfl, -⟩ := yields_pure.mp run
    exact ⟨[], rfl, .nil⟩
  | cons a rest =>
    obtain ⟨part, middle, _, back, first, second, rfl⟩ := yields_bind.mp run
    obtain ⟨parts, rfl, each⟩ := forall₂_of_commaTail second
    exact ⟨part :: parts, (intercalate_cons _ _ _).symm, .cons ⟨_, middle, first⟩ each⟩

theorem areAssignments_commaList {item : α → Render Unit} {items : List α}
    (each : ∀ a, (item a).Assigns) (quote : Char)
    (run : (commaList item items).Yields m r pieces after ()) :
    AreAssignments quote items.length (sqlOf quote pieces) := by
  obtain ⟨parts, rfl, apiece⟩ := forall₂_of_commaList run
  refine ⟨parts.map (sqlOf quote), ?_, sqlOf_intercalate quote parts, ?_⟩
  · rw [List.length_map, apiece.length_eq]
  · intro text member
    obtain ⟨part, inside, rfl⟩ := List.mem_map.mp member
    obtain ⟨i, bound, rfl⟩ := List.getElem_of_mem inside
    obtain ⟨r, after, run⟩ := apiece.get (apiece.length_eq ▸ bound) bound
    exact each _ quote m r _ after run

end Render

theorem Assignment.assigns_render (a : Assignment) : a.render.Assigns :=
  assigns_ownColumn_bind fun _ => assigns_column a.value.shows_render

/-! ## Upserts -/

def Dialect.IsUpsertKeyword (d : Dialect) (keyword : String) : Prop :=
  match d with
  | mysql => keyword = " ON DUPLICATE KEY UPDATE "
  | sqlite | postgres => ∃ target, keyword = " ON CONFLICT" ++ target ++ " DO UPDATE SET "

def Dialect.aroundValue : Dialect → String × String
  | mysql => ("=VALUES(", ")")
  | sqlite | postgres => ("=excluded.", "")

namespace Upsert

variable {d : Dialect} {u : Upsert} {m : Model} {r after : Registry} {clause : List Piece}

def renderKeyword (d : Dialect) (u : Upsert) : Render Unit :=
  match d with
  | .mysql => write " ON DUPLICATE KEY UPDATE "
  | .sqlite | .postgres => u.renderTarget

def withoutAssignments (u : Upsert) : Upsert := { u with assignments := [] }

theorem yields_render : (u.render d).Yields m r clause after () ↔
    (d = .postgres → u.conflictFields ≠ []) ∧
      (u.renderKeyword d >>= fun _ =>
        commaList (renderItem d.aroundValue.1 d.aroundValue.2) u.assignments).Yields
          m r clause after () := by
  cases d with
  | mysql => exact (and_iff_right (by simp)).symm
  | sqlite => exact (and_iff_right (by simp)).symm
  | postgres =>
    rw [render]
    split
    next none => simp [yields_fail, List.isEmpty_iff.mp none]
    next some => exact (and_iff_right fun _ => by simpa using some).symm

theorem isUpsertKeyword_renderKeyword (quote : Char)
    (run : (u.renderKeyword d).Yields m r clause after ()) :
    d.IsUpsertKeyword (sqlOf quote clause) := by
  have target (run : u.renderTarget.Yields m r clause after ()) :
      ∃ target, sqlOf quote clause = " ON CONFLICT" ++ target ++ " DO UPDATE SET " := by
    unfold renderTarget at run
    split at run
    next =>
      obtain ⟨rfl, -⟩ := yields_write.mp run
      exact ⟨"", by rfl⟩
    next =>
      simp only [yields_bind, yields_write] at run
      obtain ⟨_, _, _, _, ⟨rfl, rfl⟩, ⟨fields, _, _, _, -, ⟨rfl, rfl⟩, rfl⟩, rfl⟩ := run
      have opening : " ON CONFLICT(" = " ON CONFLICT" ++ "(" := rfl
      have closing : ") DO UPDATE SET " = ")" ++ " DO UPDATE SET " := rfl
      refine ⟨"(" ++ sqlOf quote fields ++ ")", ?_⟩
      rw [sqlOf_append, sqlOf_append, sqlOf, sqlOf, sqlOf, sqlOf, Piece.sql, Piece.sql, opening,
        closing]
      simp only [String.append_empty, String.append_assoc]
  cases d with
  | mysql =>
    obtain ⟨rfl, -⟩ := yields_write.mp run
    simp [sqlOf, Piece.sql, Dialect.IsUpsertKeyword]
  | sqlite => exact target run
  | postgres => exact target run

theorem assigns_renderItem (d : Dialect) (item : Assignable) :
    (renderItem d.aroundValue.1 d.aroundValue.2 item).Assigns := by
  cases item with
  | assignment a => exact a.assigns_render
  | column c =>
    have column : (assignableColumn c >>= fun column => do
        quoted column
        write d.aroundValue.1
        quoted column
        write d.aroundValue.2 : Render Unit).Assigns := by
      refine .behind (fun column => ?_) fun m r pieces after a run => ?_
      · intro quote m r pieces after run
        simp only [yields_bind, yields_quoted, yields_write] at run
        obtain ⟨_, _, _, _, ⟨rfl, rfl⟩, ⟨_, _, _, _, ⟨rfl, rfl⟩, ⟨_, _, _, _, ⟨rfl, rfl⟩,
          ⟨rfl, rfl⟩, rfl⟩, rfl⟩, rfl⟩ := run
        obtain ⟨function, before⟩ : ∃ function, d.aroundValue.1 = "=" ++ function := by
          cases d with
          | mysql => exact ⟨"VALUES(", rfl⟩
          | sqlite => exact ⟨"excluded.", rfl⟩
          | postgres => exact ⟨"excluded.", rfl⟩
        refine ⟨column, function ++ quotedName quote column ++ d.aroundValue.2, ?_, ?_⟩
        · simp [sqlOf, Piece.sql, before, String.append_assoc]
        · simp [quotedName_ne_empty]
      · unfold assignableColumn at run
        split at run
        next => exact absurd run yields_fail
        next => exact (yields_ownColumn.mp run).1
    exact column

/-- The clause of an upsert is its keyword and the list of its assignments. -/
theorem exists_list_of_yields (quote : Char) (run : (u.render d).Yields m r clause after ()) :
    ∃ keyword list, d.IsUpsertKeyword keyword ∧
      AreAssignments quote u.assignments.length list ∧ sqlOf quote clause = keyword ++ list ∧
      ∃ bare last, (u.withoutAssignments.render d).Yields m r bare last () ∧
        sqlOf quote bare = keyword := by
  obtain ⟨target, whole⟩ := yields_render.mp run
  obtain ⟨keyword, middle, _, list, first, second, rfl⟩ := yields_bind.mp whole
  refine ⟨sqlOf quote keyword, sqlOf quote list, isUpsertKeyword_renderKeyword quote first,
    areAssignments_commaList (assigns_renderItem d) quote second, sqlOf_append quote keyword list,
    keyword, middle, ?_, rfl⟩
  have ended : (pure () : Render Unit).Yields m middle [] middle () := rfl
  have alone := Yields.bind first ended
  rw [List.append_nil] at alone
  exact yields_render.mpr ⟨target, by cases d <;> exact alone⟩

end Upsert

/-! ## Updates -/

namespace Update

variable {e : Entity} {m : Model} {r after : Registry} {pieces : List Piece}

def assignmentCount (m : Model) (s : Update e) : Nat :=
  if s.assignments.isEmpty then m.fields.length else s.assignments.length

theorem assigns_renderField (k : Materializer) (r : e.Record) (name column : String) :
    (renderField k r name column).Assigns :=
  assigns_ownModel_bind fun _ => assigns_column (shows_behind fun v => shows_bound v)

theorem assigns_renderItem (k : Materializer) (record : Option e.Record) (item : Assignable) :
    (renderItem k record item).Assigns := by
  unfold renderItem
  split
  next a => exact a.assigns_render
  next c =>
    split
    next => exact assigns_ownColumn_bind fun _ => assigns_renderField k _ _ _
    next => exact assigns_fail _

theorem areAssignments_renderAssignments {k : Materializer} {s : Update e} (quote : Char)
    (run : (s.renderAssignments k).Yields m r pieces after ()) :
    AreAssignments quote (s.assignmentCount m) (sqlOf quote pieces) := by
  obtain ⟨record, assignments, conditions⟩ := s
  cases assignments with
  | nil =>
    cases record with
    | none => exact absurd run yields_fail
    | some record =>
      obtain ⟨_, _, _, _, own, listed, rfl⟩ := yields_bind.mp run
      obtain ⟨rfl, rfl, rfl⟩ := yields_ownModel.mp own
      exact areAssignments_commaList (fun _ => assigns_renderField k _ _ _) quote listed
  | cons first rest => exact areAssignments_commaList (assigns_renderItem k record) quote run

theorem assignmentCount_pos (fields : m.fields ≠ []) (s : Update e) : 0 < s.assignmentCount m := by
  unfold assignmentCount
  split
  next => exact List.length_pos_iff.mpr fields
  next some => exact List.length_pos_iff.mpr (by simpa using some)

theorem sqlOf_render {style : Style} {s : Update e}
    (run : (s.render style).Yields m r pieces after ()) (quote : Char) :
    ∃ list clause, AreAssignments quote (s.assignmentCount m) list ∧
      (clause = "" ∨ ∃ condition, clause = " WHERE " ++ condition) ∧
      sqlOf quote pieces = "UPDATE " ++ quotedName quote m.table ++ " SET " ++ list ++ clause := by
  obtain ⟨_, _, _, _, own, guarded, rfl⟩ := yields_bind.mp run
  obtain ⟨rfl, rfl, rfl⟩ := yields_ownModel.mp own
  split at guarded
  next =>
    obtain ⟨_, _, _, _, refused, -, -⟩ := yields_bind.mp guarded
    exact absurd refused yields_fail
  next =>
    simp only [yields_bind, yields_write, yields_quoted] at guarded
    obtain ⟨_, _, _, _, ⟨rfl, rfl⟩, ⟨_, _, _, _, ⟨rfl, rfl⟩, ⟨_, _, _, _, ⟨rfl, rfl⟩,
      ⟨list, middle, _, clause, assigned, conditional, rfl⟩, rfl⟩, rfl⟩, rfl⟩ := guarded
    refine ⟨sqlOf quote list, sqlOf quote clause, areAssignments_renderAssignments quote assigned,
      ?_, by simp [sqlOf_append, sqlOf, Piece.sql, String.append_assoc]⟩
    unfold renderClause at conditional
    split at conditional
    next =>
      obtain ⟨rfl, -⟩ := yields_pure.mp conditional
      exact .inl rfl
    next =>
      simp only [yields_bind, yields_write] at conditional
      obtain ⟨_, _, _, condition, ⟨rfl, rfl⟩, -, rfl⟩ := conditional
      exact .inr ⟨sqlOf quote condition, rfl⟩

end Update

/-! ## Built statements -/

section Built

variable {e : Entity} {r : Registry}

def Insert.withoutAssignments (s : Insert e) : Insert e :=
  { s with upsert := s.upsert.map Upsert.withoutAssignments }

/-- An update builds only with a list of assignments behind SET that is not empty, and is refused
when it has nothing to assign. What an upsert writes behind its keyword is its list, empty or not:
an insertion that builds also does without the assignments of its upsert, and ends in the
keyword then. -/
theorem build_assignments (reached : r.Reached) (style : Style) :
    let quote := style.dialect.quote
    (∀ (s : Update e) q, ((Statement.update s).build style r).result = .ok q →
      ∃ m after list clause, r.get e = .ok (m, after) ∧ 0 < s.assignmentCount m ∧
        AreAssignments quote (s.assignmentCount m) list ∧
        (clause = "" ∨ ∃ condition, clause = " WHERE " ++ condition) ∧
        q.sql = "UPDATE " ++ quotedName quote m.table ++ " SET " ++ list ++ clause ++ ";") ∧
    (∀ s : Update e, s.isVoid = true → ((Statement.update s).build style r).result =
      match r.get e with
      | .error err => .error err
      | .ok _ => .error .emptyAssignments) ∧
    ∀ (s : Insert e) (u : Upsert), s.upsert = some u → ∀ q,
      ((Statement.insert s).build style r).result = .ok q →
        ∃ p front keyword list,
          ((Statement.insert s.withoutUpsert).build style r).result = .ok p ∧
          p.sql = front ++ ";" ∧ style.dialect.IsUpsertKeyword keyword ∧
          AreAssignments quote u.assignments.length list ∧
          q.sql = front ++ keyword ++ list ++ ";" ∧
          ∃ bare, ((Statement.insert s.withoutAssignments).build style r).result = .ok bare ∧
            bare.sql = front ++ keyword ++ ";" := by
  intro quote
  refine ⟨?_, ?_, ?_⟩
  · intro s q built
    obtain ⟨success, rfl⟩ := Statement.build_eq_ok built
    obtain ⟨m, after, body, last, inForce, run, drafted⟩ :=
      Statement.yields_of_draft (by simp [Statement.queryType]) success
    obtain ⟨list, clause, assigned, conditional, text⟩ := Update.sqlOf_render run quote
    refine ⟨m, after, list, clause, inForce,
      s.assignmentCount_pos (reached.get_fields_ne_nil inForce), assigned, conditional, ?_⟩
    rw [Query.ofPieces, drafted, sqlOf_append, text]
    simp [sqlOf, Piece.sql]
  · intro s void
    have void : (Statement.update s).assignsNothing = true := void
    split
    next err underived =>
      exact Statement.build_eq_error_iff.mpr
        (Statement.result_draft_of_error (by simp [Statement.queryType]) rfl underived)
    next found inForce =>
      exact Statement.build_eq_error_iff.mpr
        (Statement.result_draft_of_assignsNothing inForce void)
  · intro s u given q built
    obtain ⟨m, before, body, middle, clause, after, some, inForce, text, run, rfl⟩ :=
      s.exists_clause given built
    obtain ⟨keyword, list, isKeyword, assigned, split, bare, last, alone, ends⟩ :=
      Upsert.exists_list_of_yields quote run
    -- The same pieces stand in front of the clause with its assignments and without any.
    have without := Insert.build_of_yields (s := s.withoutUpsert) some inForce text
    have emptied : s.withoutAssignments.upsert = .some u.withoutAssignments := by
      rw [Insert.withoutAssignments, given]
      rfl
    have whole : (s.withoutAssignments.render style).Yields m before (body ++ bare) last () := by
      rw [Insert.render_eq emptied]
      exact Yields.bind text alone
    have builds := Insert.build_of_yields (s := s.withoutAssignments) some inForce whole
    refine ⟨_, sqlOf quote body, keyword, list, without, ?_, isKeyword, assigned, ?_, _, builds, ?_⟩
    · simp [Query.ofPieces, sqlOf_append, sqlOf, Piece.sql, quote]
    · rw [Query.ofPieces, sqlOf_append, sqlOf_append, split]
      simp [sqlOf, Piece.sql, String.append_assoc, quote]
    · rw [Query.ofPieces, sqlOf_append, sqlOf_append, ends]
      simp [sqlOf, Piece.sql, quote]

/-- An update of a record, one of nothing, and an insertion with two assignments. -/
theorem build_assignments_record :
    let r := Registry.empty.after (.register account [.tableName "people"])
    let record : Update account := ⟨some .initial, [], []⟩
    let void : Update account := ⟨none, [], []⟩
    let u : Upsert := ⟨[.column ⟨"owner", none, none⟩, .assignment ⟨"id", .value (.int 7)⟩], ["id"]⟩
    let s : Insert account := ⟨[.initial], [], some u⟩
    let built (s : Statement account) := (s.build ⟨.postgres, .reflect⟩ r).result
    r.Reached ∧
      built (.update record) = .ok ⟨"UPDATE \"people\" SET \"id\"=?,\"owner\"=?;", [.int 0, .int 0]⟩ ∧
      (∃ m after, r.get account = .ok (m, after) ∧ 0 < record.assignmentCount m) ∧
      void.isVoid = true ∧ built (.update void) = .error .emptyAssignments ∧
      ∃ q, built (.insert s) = .ok q ∧ ∃ front keyword list,
        AreAssignments '"' 2 list ∧ q.sql = front ++ keyword ++ list ++ ";" := by
  intro r record void u s built
  have reached : r.Reached := .call _ .empty
  obtain ⟨updates, refusals, upserts⟩ :=
    build_assignments (e := account) reached ⟨.postgres, .reflect⟩
  have first : built (.update record) =
      .ok ⟨"UPDATE \"people\" SET \"id\"=?,\"owner\"=?;", [.int 0, .int 0]⟩ := by
    decide +kernel
  obtain ⟨m, after, -, -, inForce, positive, -⟩ := updates record _ first
  have refused := refusals void rfl
  have derives : r.get account =
      .ok (⟨"people", [⟨"id", "id", "i64", 0⟩, ⟨"owner", "owner", "i64", 1⟩]⟩, r) := by
    decide +kernel
  rw [derives] at refused
  have second : built (.insert s) =
      .ok ⟨"INSERT INTO \"people\"(\"id\",\"owner\") VALUES (?,?) ON CONFLICT(\"id\") DO UPDATE " ++
        "SET \"owner\"=excluded.\"owner\",\"id\"=?;", [.int 0, .int 0, .int 7]⟩ := by
    decide +kernel
  obtain ⟨-, front, keyword, list, -, -, -, assigned, text, -⟩ := upserts s u rfl _ second
  exact ⟨reached, first, ⟨m, after, inForce, positive⟩, rfl, refused, _, second, front, keyword,
    list, assigned, text⟩

/-- In every dialect an upsert without assignments builds, and nothing is behind its keyword. -/
theorem build_assignments_empty :
    let s : Insert account := ⟨[.initial], [], some ⟨[], ["id"]⟩⟩
    let built (d : Dialect) := ((Statement.insert s).build ⟨d, .accessor⟩ .empty).result
    built .mysql = .ok ⟨"INSERT INTO `account`(`id`,`owner`) VALUES (?,?) " ++
        "ON DUPLICATE KEY UPDATE ;", [.int 0, .int 0]⟩ ∧
      built .sqlite = .ok ⟨"INSERT INTO `account`(`id`,`owner`) VALUES (?,?) " ++
        "ON CONFLICT(`id`) DO UPDATE SET ;", [.int 0, .int 0]⟩ ∧
      built .postgres = .ok ⟨"INSERT INTO \"account\"(\"id\",\"owner\") VALUES (?,?) " ++
        "ON CONFLICT(\"id\") DO UPDATE SET ;", [.int 0, .int 0]⟩ := by
  intro s built
  refine ⟨?_, ?_, ?_⟩
  · decide +kernel
  · decide +kernel
  · decide +kernel

end Built

end RecordSql
