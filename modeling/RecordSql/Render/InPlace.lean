import RecordSql.Render.Builder
/-! # Rendering in place

The steps of a builder as changes to its buffer. A step sees the whole builder, also what was
written before, writes word by word where a rendering gives pieces, and may be stopped by an error
in the middle. -/
set_option autoImplicit false
namespace RecordSql

/-- A change to a builder that gives a result. What a failing one has changed stays. -/
def InPlace (α : Type) : Type := Builder → Except Error α × Builder

namespace InPlace

variable {α β : Type}

protected def pure (a : α) : InPlace α := fun b => (.ok a, b)

protected def bind (x : InPlace α) (f : α → InPlace β) : InPlace β := fun b =>
  match x b with
  | (.error e, b) => (.error e, b)
  | (.ok a, b) => f a b

instance : Monad InPlace where
  pure := InPlace.pure
  bind := InPlace.bind

def ofExcept (x : Except Error α) : InPlace α := fun b => (x, b)

def fail (e : Error) : InPlace α := ofExcept (.error e)

def get : InPlace Builder := fun b => (.ok b, b)

def modify (f : Builder → Builder) : InPlace Unit := fun b => (.ok (), f b)

def text (s : String) : InPlace Unit := modify fun b => { b with sql := b.sql ++ s }

def char (c : Char) : InPlace Unit := modify fun b => { b with sql := b.sql.push c }

def quote (name : String) : InPlace Unit := do
  let b ← get
  char b.dialect.quote
  text name
  char b.dialect.quote

def argument (v : Value) : InPlace Unit := do
  char '?'
  modify fun b => { b with args := b.args ++ [v] }

def raw (r : RawExpr) : InPlace Unit := do
  text r.sql
  modify fun b => { b with args := b.args ++ r.args }

def ownColumn (field : String) : InPlace String := do
  let b ← get
  ofExcept (b.model.columnOf field)

def modelOf (e : Entity) : InPlace Model := do
  let b ← get
  let (model, registry) ← ofExcept (b.registry.get e)
  modify fun b => { b with registry }
  pure model

def operator (s : String) : InPlace Unit := do
  char ' '
  text s
  char ' '

def parenthesized (x : InPlace Unit) : InPlace Unit := do
  char '('
  x
  char ')'

def separator (position : Nat) : InPlace Unit := if 0 < position then char ',' else pure ()

def itemsFrom (item : α → InPlace Unit) (position : Nat) : List α → InPlace Unit
  | [] => pure ()
  | a :: rest => do
    separator position
    item a
    itemsFrom item (position + 1) rest

def items (item : α → InPlace Unit) (list : List α) : InPlace Unit := itemsFrom item 0 list

end InPlace

open InPlace

def writeAlias : Option String → InPlace Unit
  | none => pure ()
  | some name => do
    text " AS "
    quote name

namespace Column

def writeQualifier : Option String → InPlace Unit
  | none => pure ()
  | some name => do
    quote name
    char '.'

def writeReference (c : Column) : InPlace Unit :=
  match c.table with
  | none => do quote (← ownColumn c.name)
  | some table => do
    let model ← modelOf table.entity
    let column ← ofExcept (model.columnOf c.name)
    writeQualifier table.aliasName
    quote column

def writeTo (c : Column) (withAlias : Bool) : InPlace Unit := do
  c.writeReference
  if withAlias then writeAlias c.aliasName else pure ()

end Column

mutual

def Expr.writeOperand : Expr → InPlace Unit
  | .predicate p => parenthesized p.writeTo
  | .column c => c.writeTo false
  | .value v => argument v
  | .raw r => parenthesized (raw r)
  | .assignment field _ => fail (misplacedAssignment field)

def Predicate.writeTo : Predicate → InPlace Unit
  | .compare left op right => do
    left.writeTo false
    operator op.sql
    right.writeOperand
  | .and left right => do
    parenthesized left.writeTo
    operator "AND"
    parenthesized right.writeTo
  | .or left right => do
    parenthesized left.writeTo
    operator "OR"
    parenthesized right.writeTo
  | .not p => do
    text "NOT"
    char ' '
    parenthesized p.writeTo
  | .raw r => parenthesized (raw r)

end

def Expr.writeTo : Expr → InPlace Unit
  | .predicate p => p.writeTo
  | e => e.writeOperand

def writeAll (conditions : List Predicate) : InPlace Unit :=
  match Predicate.all? conditions with
  | none => pure ()
  | some p => p.writeTo

def Assignment.writeTo (a : Assignment) : InPlace Unit := do
  quote (← ownColumn a.field)
  char '='
  a.value.writeTo

def writeUsing : List String → InPlace Unit
  | [] => pure ()
  | field :: rest => do
    text " USING ("
    items (fun field => do quote (← ownColumn field)) (field :: rest)
    char ')'

def writeOn : List Predicate → InPlace Unit
  | [] => pure ()
  | p :: rest => do
    text " ON "
    writeAll (p :: rest)

def Source.writeTo : Source → InPlace Unit
  | .table t => do
    let model ← modelOf t.entity
    quote model.table
    writeAlias t.aliasName
  | .join kind left right fields conditions => do
    char '('
    left.writeTo
    operator kind.sql
    right.writeTo
    writeUsing fields
    writeOn conditions
    char ')'

def writeSource : Option Source → InPlace Unit
  | none => do
    let b ← get
    quote b.model.table
  | some source => source.writeTo

namespace Upsert

def writtenColumn (c : Column) : InPlace String :=
  if c.table.isSome then fail (.unsupportedAssignable c.name) else ownColumn c.name

def writeItem (before after : String) : Assignable → InPlace Unit
  | .assignment a => a.writeTo
  | .column c => do
    let column ← writtenColumn c
    quote column
    text before
    quote column
    text after

def writeTarget : List String → InPlace Unit
  | [] => text " ON CONFLICT DO UPDATE SET "
  | field :: rest => do
    text " ON CONFLICT("
    items (fun field => Column.writeTo ⟨field, none, none⟩ false) (field :: rest)
    text ") DO UPDATE SET "

def writeConflict (u : Upsert) : InPlace Unit := do
  writeTarget u.conflictFields
  items (writeItem "=excluded." "") u.assignments

def writeTo (dialect : Dialect) (u : Upsert) : InPlace Unit :=
  match dialect with
  | .mysql => do
    text " ON DUPLICATE KEY UPDATE "
    items (writeItem "=VALUES(" ")") u.assignments
  | .sqlite => u.writeConflict
  | .postgres =>
    if u.conflictFields.isEmpty then
      fail (.invalidExpression "postgres upsert requires conflict columns")
    else u.writeConflict

end Upsert

/-! ## Steps -/

/-- The steps that a builder offers. An upsert may be that of any dialect. -/
inductive BuilderStep
  | text (s : String)
  | quote (name : String)
  | argument (v : Value)
  | raw (r : RawExpr)
  | column (c : Column) (withAlias : Bool)
  | expression (e : Expr)
  | conditions (ps : List Predicate)
  | assignment (a : Assignment)
  | source (s : Option Source)
  | upsert (dialect : Dialect) (u : Upsert)

namespace BuilderStep

def writeTo : BuilderStep → InPlace Unit
  | text s => InPlace.text s
  | quote name => InPlace.quote name
  | argument v => InPlace.argument v
  | raw r => InPlace.raw r
  | column c withAlias => c.writeTo withAlias
  | expression e => e.writeTo
  | conditions ps => writeAll ps
  | assignment a => a.writeTo
  | source s => writeSource s
  | upsert dialect u => u.writeTo dialect

def render : BuilderStep → Render Unit
  | text s => Render.write s
  | quote name => Render.quoted name
  | argument v => Render.bound v
  | raw r => Render.raw r
  | column c withAlias => if withAlias then c.renderProjected else c.render
  | expression e => e.render
  | conditions ps => renderAll ps
  | assignment a => a.render
  | source s => renderSource s
  | upsert dialect u => u.render dialect

end BuilderStep

/-- The results of a sequence of steps in place and the builder then. A step that fails does
not keep the next from being taken. -/
def Builder.run (b : Builder) : List BuilderStep → List (Except Error Unit) × Builder
  | [] => ([], b)
  | s :: rest =>
    let (result, after) := s.writeTo b
    let (results, last) := after.run rest
    (result :: results, last)

end RecordSql
