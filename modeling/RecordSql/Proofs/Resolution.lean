import RecordSql.Proofs.Bindings.Statement
/-! # Resolved conditions

A condition names columns by the fields they store. Resolving it against the models in force
puts the columns in their place, behind the alias of their table if that has one, and leaves
the rest of the tree as it is. Raw fragments and misplaced assignments do not resolve.

A condition that renders writes the pieces of its resolved tree (`Predicate.written_render`).
The registry only grows on the way, so the models that a rendering asked for are in force
when it is done. -/
set_option autoImplicit false
namespace RecordSql

namespace Resolved

structure Column where
  qualifier : Option String
  name : String
  deriving DecidableEq

mutual

inductive Operand
  | group (p : Condition)
  | column (c : Column)
  | value (v : Value)

inductive Condition
  | compare (left : Column) (op : Comparison) (right : Operand)
  | and (left right : Condition)
  | or (left right : Condition)
  | not (p : Condition)

end

def Column.pieces (c : Column) : List Piece :=
  match c.qualifier with
  | none => [.name c.name]
  | some qualifier => [.name qualifier, .text ".", .name c.name]

mutual

def Operand.pieces : Operand → List Piece
  | .group p => .text "(" :: p.pieces ++ [.text ")"]
  | .column c => c.pieces
  | .value v => [.bound v]

def Condition.pieces : Condition → List Piece
  | .compare left op right => left.pieces ++ .text (" " ++ op.sql ++ " ") :: right.pieces
  | .and left right =>
    .text "(" :: left.pieces ++ .text ")" :: .text " AND " :: .text "(" :: right.pieces ++
      [.text ")"]
  | .or left right =>
    .text "(" :: left.pieces ++ .text ")" :: .text " OR " :: .text "(" :: right.pieces ++
      [.text ")"]
  | .not p => .text "NOT " :: .text "(" :: p.pieces ++ [.text ")"]

end

end Resolved

/-! ## Resolution -/

section Resolution

variable (m : Model) (r : Registry)

/-- The column of a field in the model in force, behind the alias of its table. -/
def Column.resolve? (c : Column) : Option Resolved.Column :=
  match c.table with
  | none => (m.columnOf c.name).toOption.map fun column => ⟨none, column⟩
  | some t => do
    let model ← r.find? t.entity.identity
    let column ← (model.columnOf c.name).toOption
    some ⟨t.aliasName, column⟩

mutual

def Expr.resolve? : Expr → Option Resolved.Operand
  | .predicate p => p.resolve?.map .group
  | .column c => (c.resolve? m r).map .column
  | .value v => some (.value v)
  | .raw _ => none
  | .assignment _ _ => none

def Predicate.resolve? : Predicate → Option Resolved.Condition
  | .compare left op right => do
    let column ← left.resolve? m r
    let operand ← right.resolve?
    some (.compare column op operand)
  | .and left right => do
    let p ← left.resolve?
    let q ← right.resolve?
    some (.and p q)
  | .or left right => do
    let p ← left.resolve?
    let q ← right.resolve?
    some (.or p q)
  | .not p => p.resolve?.map .not
  | .raw _ => none

end

end Resolution

/-! ## The registry grows -/

namespace Registry

/-- Whatever model was in force still is. -/
def Extends (after before : Registry) : Prop :=
  ∀ identity model, before.find? identity = some model → after.find? identity = some model

theorem extends_refl (r : Registry) : r.Extends r := fun _ _ found => found

theorem Extends.trans {r s t : Registry} (later : t.Extends s) (earlier : s.Extends r) :
    t.Extends r :=
  fun identity model found => later identity model (earlier identity model found)

theorem extends_get {r after : Registry} {e : Entity} {model : Model}
    (success : r.get e = .ok (model, after)) :
    after.Extends r ∧ after.find? e.identity = some model := by
  unfold get at success
  split at success
  next known found =>
    simp only [Except.ok.injEq, Prod.mk.injEq] at success
    obtain ⟨rfl, rfl⟩ := success
    exact ⟨extends_refl r, found⟩
  next missing =>
    refine ⟨fun identity other found => ?_, find?_register_self success⟩
    have distinct : identity ≠ e.identity := by
      intro same
      rw [same, missing] at found
      contradiction
    rw [find?_register_of_ne success distinct, found]

end Registry

/-! ## Rendering writes the resolved tree -/

open Render

variable {m : Model}

/-- A rendering that writes a tree: the registry only grows, and from then on `resolve` gives
the tree that was written. -/
def Render.Writes {τ : Type} (x : Render Unit) (m : Model) (print : τ → List Piece)
    (resolve : Registry → Option τ) : Prop :=
  ∀ r pieces after, x.Yields m r pieces after () →
    after.Extends r ∧
      ∃ t, pieces = print t ∧ ∀ later, later.Extends after → resolve later = some t

theorem toOption_columnOf {model : Model} {field column : String}
    (found : model.columnOf field = .ok column) : (model.columnOf field).toOption = some column := by
  rw [found]
  rfl

theorem Column.writes_render (c : Column) :
    c.render.Writes m Resolved.Column.pieces (fun r => c.resolve? m r) := by
  intro r pieces after run
  obtain ⟨field, shown, table⟩ := c
  cases table with
  | none =>
    simp only [render, yields_bind, yields_ownColumn, yields_quoted] at run
    obtain ⟨_, _, column, _, ⟨rfl, rfl, found⟩, ⟨rfl, rfl⟩, rfl⟩ := run
    refine ⟨Registry.extends_refl _, ⟨none, column⟩, rfl, fun later _ => ?_⟩
    simp [resolve?, toOption_columnOf found]
  | some t =>
    simp only [render, yields_bind, yields_modelOf, yields_ofExcept] at run
    obtain ⟨_, _, model, _, ⟨rfl, got⟩, ⟨_, middle, column, _, ⟨rfl, rfl, found⟩, tail, rfl⟩,
      rfl⟩ := run
    obtain ⟨grows, inForce⟩ := Registry.extends_get got
    -- The model that was asked for stays in force, whatever is registered later.
    have resolved (later : Registry) (ext : later.Extends middle) :
        resolve? m later ⟨field, shown, some t⟩ = some ⟨t.aliasName, column⟩ := by
      simp [resolve?, ext _ _ inForce, toOption_columnOf found]
    cases named : t.aliasName with
    | none =>
      rw [named, yields_quoted] at tail
      obtain ⟨rfl, rfl⟩ := tail
      rw [named] at resolved
      exact ⟨grows, ⟨none, column⟩, rfl, resolved⟩
    | some name =>
      simp only [named, yields_bind, yields_quoted, yields_write] at tail
      obtain ⟨_, _, _, _, ⟨rfl, rfl⟩, ⟨_, _, _, _, ⟨rfl, rfl⟩, ⟨rfl, rfl⟩, rfl⟩, rfl⟩ := tail
      rw [named] at resolved
      exact ⟨grows, ⟨some name, column⟩, rfl, resolved⟩

/-- Two conditions in parentheses with a keyword between them. -/
theorem Render.Writes.joined {x y : Render Unit} {keyword : String}
    {f g : Registry → Option Resolved.Condition}
    {join : Resolved.Condition → Resolved.Condition → Resolved.Condition}
    (left : x.Writes m Resolved.Condition.pieces f) (right : y.Writes m Resolved.Condition.pieces g)
    (printed : ∀ p q, (join p q).pieces =
      .text "(" :: p.pieces ++ .text ")" :: .text keyword :: .text "(" :: q.pieces ++
        [.text ")"]) :
    (do parenthesized x; write keyword; parenthesized y : Render Unit).Writes m
      Resolved.Condition.pieces (fun r => do let p ← f r; let q ← g r; some (join p q)) := by
  intro r pieces after run
  simp only [yields_bind, yields_parenthesized, yields_write] at run
  obtain ⟨_, _, _, _, ⟨front, first, rfl⟩, ⟨_, middle, _, _, ⟨rfl, rfl⟩, ⟨back, second, rfl⟩, rfl⟩,
    rfl⟩ := run
  obtain ⟨growsFirst, p, rfl, resolvedLeft⟩ := left _ _ _ first
  obtain ⟨growsSecond, q, rfl, resolvedRight⟩ := right _ _ _ second
  refine ⟨growsSecond.trans growsFirst, join p q, ?_, fun later ext => ?_⟩
  · rw [printed]
    simp
  · have first := resolvedLeft later (ext.trans growsSecond)
    have second := resolvedRight later ext
    simp only [first, second, Option.bind_eq_bind, Option.bind_some]

mutual

theorem Expr.writes_renderOperand : (e : Expr) → (∀ f, .raw f ∉ e.bindings) →
    e.renderOperand.Writes m Resolved.Operand.pieces (fun r => e.resolve? m r)
  | .predicate p, noRaw => by
    intro r pieces after run
    rw [Expr.renderOperand, yields_parenthesized] at run
    obtain ⟨inner, run, rfl⟩ := run
    rw [Expr.bindings] at noRaw
    obtain ⟨grows, tree, rfl, resolved⟩ := p.writes_render noRaw r inner after run
    refine ⟨grows, .group tree, by rw [Resolved.Operand.pieces], fun later ext => ?_⟩
    simp only [Expr.resolve?, resolved later ext, Option.map_some]
  | .column c, _ => by
    intro r pieces after run
    rw [Expr.renderOperand] at run
    obtain ⟨grows, column, rfl, resolved⟩ := c.writes_render r pieces after run
    refine ⟨grows, .column column, by rw [Resolved.Operand.pieces], fun later ext => ?_⟩
    simp only [Expr.resolve?, resolved later ext, Option.map_some]
  | .value v, _ => by
    intro r pieces after run
    rw [Expr.renderOperand, yields_bound] at run
    obtain ⟨rfl, rfl⟩ := run
    refine ⟨Registry.extends_refl _, .value v, by rw [Resolved.Operand.pieces], fun later _ => ?_⟩
    simp only [Expr.resolve?]
  | .raw f, noRaw => by
    rw [Expr.bindings] at noRaw
    exact absurd List.mem_cons_self (noRaw f)
  | .assignment field value, _ => by
    intro r pieces after run
    rw [Expr.renderOperand] at run
    exact absurd run yields_fail

theorem Predicate.writes_render : (p : Predicate) → (∀ f, .raw f ∉ p.bindings) →
    p.render.Writes m Resolved.Condition.pieces (fun r => p.resolve? m r)
  | .compare left op right, noRaw => by
    intro r pieces after run
    simp only [Predicate.render, yields_bind, yields_write] at run
    obtain ⟨_, middle, _, _, first, ⟨_, _, _, _, ⟨rfl, rfl⟩, second, rfl⟩, rfl⟩ := run
    rw [Predicate.bindings] at noRaw
    obtain ⟨growsFirst, column, rfl, resolvedColumn⟩ := left.writes_render _ _ _ first
    obtain ⟨growsSecond, operand, rfl, resolvedOperand⟩ :=
      right.writes_renderOperand noRaw _ _ _ second
    refine ⟨growsSecond.trans growsFirst, .compare column op operand, ?_, fun later ext => ?_⟩
    · rw [Resolved.Condition.pieces]
      rfl
    · have column := resolvedColumn later (ext.trans growsSecond)
      have operand := resolvedOperand later ext
      simp only [Predicate.resolve?, column, operand, Option.bind_eq_bind, Option.bind_some]
  | .and left right, noRaw => by
    rw [Predicate.bindings] at noRaw
    have first := left.writes_render fun f member => noRaw f (List.mem_append_left _ member)
    have second := right.writes_render fun f member => noRaw f (List.mem_append_right _ member)
    simp only [Predicate.render, Predicate.resolve?]
    exact first.joined second fun p q => by rw [Resolved.Condition.pieces]
  | .or left right, noRaw => by
    rw [Predicate.bindings] at noRaw
    have first := left.writes_render fun f member => noRaw f (List.mem_append_left _ member)
    have second := right.writes_render fun f member => noRaw f (List.mem_append_right _ member)
    simp only [Predicate.render, Predicate.resolve?]
    exact first.joined second fun p q => by rw [Resolved.Condition.pieces]
  | .not p, noRaw => by
    intro r pieces after run
    simp only [Predicate.render, yields_bind, yields_write, yields_parenthesized] at run
    obtain ⟨_, _, _, _, ⟨rfl, rfl⟩, ⟨inner, run, rfl⟩, rfl⟩ := run
    rw [Predicate.bindings] at noRaw
    obtain ⟨grows, tree, rfl, resolved⟩ := p.writes_render noRaw _ _ _ run
    refine ⟨grows, .not tree, ?_, fun later ext => ?_⟩
    · rw [Resolved.Condition.pieces]
      rfl
    · simp only [Predicate.resolve?, resolved later ext, Option.map_some]
  | .raw f, noRaw => by
    rw [Predicate.bindings] at noRaw
    exact absurd List.mem_cons_self (noRaw f)

end

end RecordSql
