import RecordSql.Expr.Source
/-! # Equality of expressions and sources

Two expressions are equal when they are built alike from equal parts. Entities are equal
when they are the same type, and numbers are equal as numbers, so an expression that holds
what is not a number does not equal itself. -/
set_option autoImplicit false
namespace RecordSql

namespace Entity

def sameType (e f : Entity) : Bool := e.identity == f.identity

end Entity

def Table.equal (t u : Table) : Bool := t.entity.sameType u.entity && t.aliasName == u.aliasName

def Table.equalOption : Option Table → Option Table → Bool
  | none, none => true
  | some t, some u => t.equal u
  | _, _ => false

def Column.equal (c d : Column) : Bool :=
  c.name == d.name && c.aliasName == d.aliasName && Table.equalOption c.table d.table

def RawExpr.equal (r s : RawExpr) : Bool := r.sql == s.sql && Value.equalList r.args s.args

mutual

def Expr.equal : Expr → Expr → Bool
  | .predicate p, .predicate q => p.equal q
  | .column c, .column d => c.equal d
  | .value v, .value w => v.equal w
  | .raw r, .raw s => r.equal s
  | .assignment f v, .assignment g w => f == g && v.equal w
  | _, _ => false

def Predicate.equal : Predicate → Predicate → Bool
  | .compare c op right, .compare d op' right' => c.equal d && op == op' && right.equal right'
  | .and left right, .and left' right' => left.equal left' && right.equal right'
  | .or left right, .or left' right' => left.equal left' && right.equal right'
  | .not p, .not q => p.equal q
  | .raw r, .raw s => r.equal s
  | _, _ => false

end

def Predicate.equalList : List Predicate → List Predicate → Bool
  | [], [] => true
  | p :: ps, q :: qs => p.equal q && equalList ps qs
  | _, _ => false

def Source.equal : Source → Source → Bool
  | .table t, .table u => t.equal u
  | .join kind left right fields conditions, .join kind' left' right' fields' conditions' =>
    left.equal left' && right.equal right' && kind == kind' && fields == fields'
      && Predicate.equalList conditions conditions'
  | _, _ => false

end RecordSql
