import RecordSql.Proofs.Equality
import RecordSql.Proofs.References
import RecordSql.Render.Builder
/-! # Equal expressions are rendered alike

Equal expressions have the same names and the same tables; only their values may differ, and those
are equal. So both are rendered by the same pieces but for equal values, and either rendering stops
at the same place with the same error. An entity is compared by its identity while its model
follows from its declaration, hence the assumption that entities of one identity are the same. -/
set_option autoImplicit false
namespace RecordSql

open Render

/-! ## Equal pieces -/

/-- The same piece, but for values that are equal. -/
inductive Piece.Equal : Piece → Piece → Prop
  | text (s : String) : Equal (.text s) (.text s)
  | name (s : String) : Equal (.name s) (.name s)
  | raw {r s : RawExpr} (same : r.equal s = true) : Equal (.raw r) (.raw s)
  | bound {v w : Value} (same : v.equal w = true) : Equal (.bound v) (.bound w)

theorem Piece.Equal.sql {p q : Piece} (same : p.Equal q) (quote : Char) : p.sql quote = q.sql quote := by
  cases same with
  | text s => rfl
  | name s => rfl
  | raw same =>
    rw [RawExpr.equal, Bool.and_eq_true] at same
    exact eq_of_beq same.1
  | bound _ => rfl

theorem Piece.Equal.args {p q : Piece} (same : p.Equal q) :
    List.Forall₂ (fun v w => v.equal w = true) p.args q.args := by
  cases same with
  | text s => exact .nil
  | name s => exact .nil
  | raw same =>
    rw [RawExpr.equal, Bool.and_eq_true] at same
    exact Value.equalList_iff.mp same.2
  | bound same => exact .cons same .nil

theorem sqlOf_of_equal {pieces others : List Piece} (same : List.Forall₂ Piece.Equal pieces others)
    (quote : Char) : sqlOf quote pieces = sqlOf quote others := by
  induction same with
  | nil => rfl
  | cons first _ ih => rw [sqlOf, sqlOf, first.sql, ih]

theorem equalList_argsOf {pieces others : List Piece}
    (same : List.Forall₂ Piece.Equal pieces others) :
    Value.equalList (argsOf pieces) (argsOf others) = true := by
  rw [Value.equalList_iff]
  induction same with
  | nil => exact .nil
  | cons first _ ih => exact List.rel_append first.args ih

/-! ## Equal renderings -/

/-- Equal pieces, the same registry and the same result. -/
structure Draft.Equal {α : Type} (d d' : Draft α) : Prop where
  pieces : List.Forall₂ Piece.Equal d.pieces d'.pieces
  registry : d.registry = d'.registry
  result : d.result = d'.result

namespace Render

variable {α β : Type}

/-- Two renderings that leave the same wherever they run, but for values that are equal. -/
def Equal (x y : Render α) : Prop := ∀ m r, (x m r).Equal (y m r)

theorem equal_pure (a : α) : (pure a : Render α).Equal (pure a) := fun _ _ => ⟨.nil, rfl, rfl⟩

theorem equal_fail (e : Error) : (fail e : Render α).Equal (fail e) := fun _ _ => ⟨.nil, rfl, rfl⟩

theorem equal_ofExcept (x : Except Error α) : (ofExcept x).Equal (ofExcept x) :=
  fun _ _ => ⟨.nil, rfl, rfl⟩

theorem equal_emit {piece other : Piece} (same : piece.Equal other) :
    (emit piece).Equal (emit other) := fun _ _ => ⟨.cons same .nil, rfl, rfl⟩

theorem equal_write (s : String) : (write s).Equal (write s) := equal_emit (.text s)

theorem equal_quoted (s : String) : (quoted s).Equal (quoted s) := equal_emit (.name s)

theorem equal_raw {r s : RawExpr} (same : r.equal s = true) : (raw r).Equal (raw s) :=
  equal_emit (.raw same)

theorem equal_ownModel : ownModel.Equal ownModel := fun _ _ => ⟨.nil, rfl, rfl⟩

theorem equal_modelOf (e : Entity) : (modelOf e).Equal (modelOf e) := by
  intro m r
  refine ⟨?_, rfl, rfl⟩
  rw [modelOf]
  split <;> exact .nil

theorem Equal.bind {x y : Render α} {f g : α → Render β} (first : x.Equal y)
    (second : ∀ a, (f a).Equal (g a)) : (x >>= f).Equal (y >>= g) := by
  intro m r
  obtain ⟨pieces, after, result⟩ := first m r
  simp only [Bind.bind, Render.bind]
  rw [result, after]
  cases (y m r).result with
  | error err => exact ⟨pieces, rfl, rfl⟩
  | ok a =>
    obtain ⟨more, last, outcome⟩ := second a m (y m r).registry
    exact ⟨List.rel_append pieces more, last, outcome⟩

/-- The next rendering does not read what the first one gives. -/
theorem Equal.then {x y z w : Render Unit} (first : x.Equal y) (second : z.Equal w) :
    (x >>= fun _ => z).Equal (y >>= fun _ => w) := first.bind fun _ => second

theorem Equal.parenthesized {x y : Render Unit} (inside : x.Equal y) :
    (parenthesized x).Equal (parenthesized y) :=
  (equal_write "(").then <| inside.then <| equal_write ")"

theorem equal_commaTail {item : α → Render Unit} (each : ∀ a, (item a).Equal (item a))
    (items : List α) : (commaTail item items).Equal (commaTail item items) := by
  induction items with
  | nil => exact equal_pure ()
  | cons a rest ih => exact (equal_write ",").then <| (each a).then ih

theorem equal_commaList {item : α → Render Unit} (each : ∀ a, (item a).Equal (item a))
    (items : List α) : (commaList item items).Equal (commaList item items) := by
  cases items with
  | nil => exact equal_pure ()
  | cons a rest => exact (each a).then (equal_commaTail each rest)

end Render

theorem equal_renderAlias (aliasName : Option String) :
    (renderAlias aliasName).Equal (renderAlias aliasName) := by
  cases aliasName with
  | none => exact equal_pure ()
  | some name => exact (equal_write " AS ").then (equal_quoted name)

theorem equal_quotedColumn (field : String) :
    (do quoted (← ownColumn field) : Render Unit).Equal (do quoted (← ownColumn field)) :=
  (equal_ownModel.bind fun model => equal_ofExcept (model.columnOf field)).bind equal_quoted

theorem Column.equal_render (c : Column) : c.render.Equal c.render := by
  obtain ⟨field, shown, table⟩ := c
  cases table with
  | none => exact equal_quotedColumn field
  | some t =>
    refine (equal_modelOf t.entity).bind fun model => (equal_ofExcept _).bind fun column => ?_
    cases t.aliasName with
    | none => exact equal_quoted column
    | some name => exact (equal_quoted name).then <| (equal_write ".").then <| equal_quoted column

theorem Table.equal_render (t : Table) : t.render.Equal t.render :=
  (equal_modelOf t.entity).bind fun model =>
    (equal_quoted model.table).then (equal_renderAlias t.aliasName)

theorem equal_renderUsing (fields : List String) :
    (renderUsing fields).Equal (renderUsing fields) := by
  cases fields with
  | nil => exact equal_pure ()
  | cons field rest =>
    exact (equal_write " USING (").then <|
      (equal_commaList equal_quotedColumn (field :: rest)).then <| equal_write ")"

/-! ## Equal expressions -/

variable {known : List Entity}

theorem Faithful.table_eq (faithful : Faithful known) {t u : Table} (first : t.entity ∈ known)
    (second : u.entity ∈ known) (same : t.equal u = true) : t = u := by
  obtain ⟨e, shown⟩ := t
  obtain ⟨f, other⟩ := u
  rw [Table.equal, Bool.and_eq_true] at same
  obtain rfl : e = f := faithful e first f second (eq_of_beq same.1)
  obtain rfl : shown = other := eq_of_beq same.2
  rfl

theorem Faithful.column_eq (faithful : Faithful known) {c d : Column}
    (first : c.entities ⊆ known) (second : d.entities ⊆ known) (same : c.equal d = true) : c = d := by
  obtain ⟨field, shown, table⟩ := c
  obtain ⟨field', shown', table'⟩ := d
  rw [Column.equal, Bool.and_eq_true, Bool.and_eq_true] at same
  obtain ⟨⟨names, aliases⟩, tables⟩ := same
  obtain rfl : field = field' := eq_of_beq names
  obtain rfl : shown = shown' := eq_of_beq aliases
  obtain rfl : table = table' := by
    cases table with
    | none => exact (Table.equalOption_none_iff.mp tables).symm
    | some t =>
      obtain ⟨u, rfl, inner⟩ := Table.equalOption_some_iff.mp tables
      have mentioned : t.entity ∈ known := first (List.mem_singleton.mpr rfl)
      have mentioned' : u.entity ∈ known := second (List.mem_singleton.mpr rfl)
      exact congrArg some (faithful.table_eq mentioned mentioned' inner)
  rfl

mutual

theorem Expr.equal_renderOperand (faithful : Faithful known) : (x : Expr) → {y : Expr} →
    x.entities ⊆ known → y.entities ⊆ known → x.equal y = true →
    x.renderOperand.Equal y.renderOperand
  | .predicate p, _, first, second, same => by
    obtain ⟨q, rfl, inner⟩ := Expr.equal_predicate_iff.mp same
    rw [Expr.entities] at first second
    rw [Expr.renderOperand, Expr.renderOperand]
    exact (p.equal_render faithful first second inner).parenthesized
  | .column c, _, first, second, same => by
    obtain ⟨d, rfl, inner⟩ := Expr.equal_column_iff.mp same
    rw [Expr.entities] at first second
    rw [Expr.renderOperand, Expr.renderOperand, faithful.column_eq first second inner]
    exact d.equal_render
  | .value v, _, _, _, same => by
    obtain ⟨w, rfl, inner⟩ := Expr.equal_value_iff.mp same
    rw [Expr.renderOperand, Expr.renderOperand]
    exact equal_emit (.bound inner)
  | .raw r, _, _, _, same => by
    obtain ⟨s, rfl, inner⟩ := Expr.equal_raw_iff.mp same
    rw [Expr.renderOperand, Expr.renderOperand]
    exact (equal_raw inner).parenthesized
  | .assignment field value, _, _, _, same => by
    obtain ⟨value', rfl, -⟩ := Expr.equal_assignment_iff.mp same
    rw [Expr.renderOperand, Expr.renderOperand]
    exact equal_fail (misplacedAssignment field)

theorem Predicate.equal_render (faithful : Faithful known) : (p : Predicate) →
    {q : Predicate} → p.entities ⊆ known → q.entities ⊆ known → p.equal q = true →
    p.render.Equal q.render
  | .compare c op right, _, first, second, same => by
    obtain ⟨d, right', rfl, columns, operands⟩ := Predicate.equal_compare_iff.mp same
    rw [Predicate.entities, List.append_subset] at first second
    rw [Predicate.render, Predicate.render, faithful.column_eq first.1 second.1 columns]
    exact d.equal_render.then <| (equal_write _).then <|
      right.equal_renderOperand faithful first.2 second.2 operands
  | .and left right, _, first, second, same => by
    obtain ⟨left', right', rfl, lefts, rights⟩ := Predicate.equal_and_iff.mp same
    rw [Predicate.entities, List.append_subset] at first second
    rw [Predicate.render, Predicate.render]
    exact (left.equal_render faithful first.1 second.1 lefts).parenthesized.then <|
      (equal_write _).then (right.equal_render faithful first.2 second.2 rights).parenthesized
  | .or left right, _, first, second, same => by
    obtain ⟨left', right', rfl, lefts, rights⟩ := Predicate.equal_or_iff.mp same
    rw [Predicate.entities, List.append_subset] at first second
    rw [Predicate.render, Predicate.render]
    exact (left.equal_render faithful first.1 second.1 lefts).parenthesized.then <|
      (equal_write _).then (right.equal_render faithful first.2 second.2 rights).parenthesized
  | .not p, _, first, second, same => by
    obtain ⟨q, rfl, inner⟩ := Predicate.equal_not_iff.mp same
    rw [Predicate.entities] at first second
    rw [Predicate.render, Predicate.render]
    exact (equal_write _).then (p.equal_render faithful first second inner).parenthesized
  | .raw r, _, _, _, same => by
    obtain ⟨s, rfl, inner⟩ := Predicate.equal_raw_iff.mp same
    rw [Predicate.render, Predicate.render]
    exact (equal_raw inner).parenthesized

end

theorem Expr.equal_render (faithful : Faithful known) {x y : Expr} (first : x.entities ⊆ known)
    (second : y.entities ⊆ known) (same : x.equal y = true) : x.render.Equal y.render := by
  have operands := x.equal_renderOperand faithful first second same
  cases x with
  | predicate p =>
    obtain ⟨q, rfl, inner⟩ := Expr.equal_predicate_iff.mp same
    rw [Expr.entities] at first second
    exact p.equal_render faithful first second inner
  | column c =>
    obtain ⟨d, rfl, -⟩ := Expr.equal_column_iff.mp same
    exact operands
  | value v =>
    obtain ⟨w, rfl, -⟩ := Expr.equal_value_iff.mp same
    exact operands
  | raw r =>
    obtain ⟨s, rfl, -⟩ := Expr.equal_raw_iff.mp same
    exact operands
  | assignment field value =>
    obtain ⟨value', rfl, -⟩ := Expr.equal_assignment_iff.mp same
    exact operands

/-! ## Equal sources -/

theorem equal_foldl_and {p q : Predicate} {ps qs : List Predicate} (first : p.equal q = true)
    (rest : List.Forall₂ (fun p q => p.equal q = true) ps qs) :
    (ps.foldl Predicate.and p).equal (qs.foldl Predicate.and q) = true := by
  induction rest generalizing p q with
  | nil => exact first
  | cons next _ ih => exact ih (Predicate.equal_and_iff.mpr ⟨_, _, rfl, first, next⟩)

theorem equal_renderClause (faithful : Faithful known) {ps qs : List Predicate}
    (first : ps.flatMap Predicate.entities ⊆ known) (second : qs.flatMap Predicate.entities ⊆ known)
    (same : Predicate.equalList ps qs = true) (keyword : String) :
    (renderClause keyword ps).Equal (renderClause keyword qs) := by
  cases Predicate.equalList_iff.mp same with
  | nil => exact equal_pure ()
  | @cons p q ps qs here there =>
    rw [List.flatMap_cons, ← entities_foldl_and] at first second
    exact (equal_write keyword).then <|
      Predicate.equal_render faithful _ first second (equal_foldl_and here there)

theorem Source.equal_render (faithful : Faithful known) {s t : Source}
    (first : s.entities ⊆ known) (second : t.entities ⊆ known) (same : s.equal t = true) :
    s.render.Equal t.render := by
  induction s generalizing t with
  | table t =>
    obtain ⟨u, rfl, inner⟩ := equal_table_iff.mp same
    have mentioned : t.entity ∈ known := first (List.mem_singleton.mpr rfl)
    have mentioned' : u.entity ∈ known := second (List.mem_singleton.mpr rfl)
    rw [Source.render, Source.render, faithful.table_eq mentioned mentioned' inner]
    exact u.equal_render
  | join kind left right fields conditions ihLeft ihRight =>
    obtain ⟨left', right', others, rfl, lefts, rights, on⟩ := equal_join_iff.mp same
    rw [Source.entities, List.append_subset, List.append_subset] at first second
    rw [Source.render, Source.render]
    exact (equal_write _).then <| (ihLeft first.1.1 second.1.1 lefts).then <|
      (equal_write _).then <| (ihRight first.1.2 second.1.2 rights).then <|
      (equal_renderUsing fields).then <|
      (equal_renderClause faithful first.2 second.2 on " ON ").then <| equal_write ")"

/-! ## What a builder gets -/

/-- From an empty builder the two steps write the same text and equal arguments, leave the same
registry and have the same result. -/
def Render.SameFor (x y : Render Unit) (m : Model) (d : Dialect) (r : Registry) : Prop :=
  let first := (Builder.empty m d r).step x
  let second := (Builder.empty m d r).step y
  first.1 = second.1 ∧ first.2.sql = second.2.sql ∧
    Value.equalList first.2.args second.2.args = true ∧ first.2.registry = second.2.registry

theorem Render.Equal.sameFor {x y : Render Unit} (same : x.Equal y) (m : Model) (d : Dialect)
    (r : Registry) : x.SameFor y m d r := by
  obtain ⟨pieces, registry, result⟩ := same m r
  refine ⟨result, ?_, ?_, registry⟩
  · exact congrArg ("" ++ ·) (sqlOf_of_equal pieces d.quote)
  · exact equalList_argsOf pieces

/-- Equality of expressions, tables and sources is symmetric and transitive, and an expression
equals itself exactly if there is nothing in it that is not a number. Equal expressions and equal
sources are rendered alike, whether that succeeds or fails. -/
theorem equal_equivalence_render :
    (IsPartialEquivalence Expr.equal ∧ IsPartialEquivalence Table.equal ∧
      IsPartialEquivalence Source.equal) ∧
    (∀ x : Expr, x.equal x = true ↔ ∀ v ∈ x.values, v.isNaN = false) ∧
    (∀ x y : Expr, Faithful (x.entities ++ y.entities) → x.equal y = true →
      ∀ m d r, x.render.SameFor y.render m d r) ∧
    (∀ s t : Source, Faithful (s.entities ++ t.entities) → s.equal t = true →
      ∀ m d r, s.render.SameFor t.render m d r) := by
  refine ⟨⟨Expr.isPartialEquivalence, Table.isPartialEquivalence, Source.isPartialEquivalence⟩,
    Expr.equal_self, ?_, ?_⟩
  · intro x y faithful same m d r
    exact (Expr.equal_render faithful (List.subset_append_left _ _)
      (List.subset_append_right _ _) same).sameFor m d r
  · intro s t faithful same m d r
    exact (Source.equal_render faithful (List.subset_append_left _ _)
      (List.subset_append_right _ _) same).sameFor m d r

/-- The two zeros, behind a column of a table and in a raw fragment. -/
theorem equal_equivalence_render_zeros :
    let x (zero : Binary64) : Expr := .predicate (.and
      (.compare ⟨"owner", none, some ⟨account, some "a"⟩⟩ .lt (.value (.float zero)))
      (.raw ⟨"f(?, ?)", [.float zero, .int 1]⟩))
    let model : Model := ⟨"account", []⟩
    (x ⟨0⟩).equal (x ⟨0x8000000000000000⟩) = true ∧
      (x ⟨0⟩).render.SameFor (x ⟨0x8000000000000000⟩).render model .postgres .empty ∧
      ((Builder.empty model .postgres .empty).step (x ⟨0⟩).render).2.sql =
        "(\"a\".\"owner\" < ?) AND ((f(?, ?)))" := by
  intro x model
  have same : (x ⟨0⟩).equal (x ⟨0x8000000000000000⟩) = true := by decide +kernel
  have faithful : Faithful ((x ⟨0⟩).entities ++ (x ⟨0x8000000000000000⟩).entities) := by
    decide +kernel
  obtain ⟨-, -, alike, -⟩ := equal_equivalence_render
  exact ⟨same, alike _ _ faithful same model .postgres .empty, by decide +kernel⟩

end RecordSql
