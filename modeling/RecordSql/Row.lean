import RecordSql.Value.Basic
/-! # Result rows

A result set is a list of column names and rows of values in the order of the columns. It
is read from the front, row by row. -/
set_option autoImplicit false
namespace RecordSql

structure Row where
  columns : List String
  values : List Value
  deriving DecidableEq

namespace Row

/-- The value of the first column with this name. -/
def get? (row : Row) (column : String) : Option Value :=
  (row.columns.idxOf? column).bind fun i => row.values[i]?

def length (row : Row) : Nat := row.values.length

def isEmpty (row : Row) : Bool := row.values.isEmpty

def equal (r s : Row) : Bool := r.columns == s.columns && Value.equalList r.values s.values

end Row

/-- A result set that is read from the front. -/
structure Rows where
  columns : List String
  cells : List (List Value)
  deriving DecidableEq

namespace Rows

def ofColumns (columns : List String) : Rows := ⟨columns, []⟩

def empty : Rows := ofColumns []

def push (rows : Rows) (values : List Value) : Rows := { rows with cells := rows.cells ++ [values] }

def length (rows : Rows) : Nat := rows.cells.length

def isEmpty (rows : Rows) : Bool := rows.cells.isEmpty

def next? (rows : Rows) : Option (Row × Rows) :=
  match rows.cells with
  | [] => none
  | values :: rest => some (⟨rows.columns, values⟩, { rows with cells := rest })

def drop (rows : Rows) (n : Nat) : Rows := { rows with cells := rows.cells.drop n }

def toList (rows : Rows) : List Row := rows.cells.map (Row.mk rows.columns)

theorem toList_push (rows : Rows) (values : List Value) :
    (rows.push values).toList = rows.toList ++ [⟨rows.columns, values⟩] := by
  simp [toList, push]

theorem toList_eq_of_next? {rows rest : Rows} {row : Row} (step : rows.next? = some (row, rest)) :
    rows.toList = row :: rest.toList := by
  obtain ⟨columns, cells⟩ := rows
  cases cells with
  | nil => simp [next?] at step
  | cons values cells =>
    simp only [next?, Option.some.injEq, Prod.mk.injEq] at step
    obtain ⟨rfl, rfl⟩ := step
    rfl

end Rows

end RecordSql
