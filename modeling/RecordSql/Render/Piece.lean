import RecordSql.Expr.Basic
/-! # Pieces of a statement

A statement is written as one sequence of pieces. Its text and its arguments are two views
of that sequence, so the placeholders and the arguments cannot fall out of step, and the
only thing that a dialect's quote character touches are the names. -/
set_option autoImplicit false
namespace RecordSql

structure Query where
  sql : String
  args : List Value
  deriving DecidableEq

inductive Piece
  /-- Keywords, operators and punctuation. -/
  | text (s : String)
  /-- A name, which is written in quotes. -/
  | name (s : String)
  /-- A raw fragment with its own arguments. -/
  | raw (r : RawExpr)
  /-- A bound value, which is written as a placeholder. -/
  | bound (v : Value)
  deriving DecidableEq

def quotedName (quote : Char) (name : String) : String :=
  String.singleton quote ++ name ++ String.singleton quote

namespace Piece

def sql (quote : Char) : Piece → String
  | text s => s
  | name s => quotedName quote s
  | raw r => r.sql
  | bound _ => "?"

def args : Piece → List Value
  | text _ => []
  | name _ => []
  | raw r => r.args
  | bound v => [v]

end Piece

def sqlOf (quote : Char) : List Piece → String
  | [] => ""
  | piece :: rest => piece.sql quote ++ sqlOf quote rest

def argsOf : List Piece → List Value
  | [] => []
  | piece :: rest => piece.args ++ argsOf rest

def Query.ofPieces (quote : Char) (pieces : List Piece) : Query :=
  ⟨sqlOf quote pieces, argsOf pieces⟩

theorem sqlOf_append (quote : Char) (front back : List Piece) :
    sqlOf quote (front ++ back) = sqlOf quote front ++ sqlOf quote back := by
  induction front with
  | nil => simp [sqlOf]
  | cons piece rest ih => simp [sqlOf, ih, String.append_assoc]

theorem argsOf_append (front back : List Piece) :
    argsOf (front ++ back) = argsOf front ++ argsOf back := by
  induction front with
  | nil => simp [argsOf]
  | cons piece rest ih => simp [argsOf, ih]

end RecordSql
