import RecordSql.Statement.Basic
/-! # Putting changes together

Updates and deletions start empty and are put together call by call. Assignments and conditions
gather in the order of the calls; of several records or tables the last counts. -/
set_option autoImplicit false
namespace RecordSql

section

variable {e : Entity}

inductive Update.Call (e : Entity)
  | record (r : e.Record)
  | set (items : List Assignable)
  | condition (p : Predicate)

inductive Delete.Call
  | table (name : String)
  | condition (p : Predicate)

def Update.call (s : Update e) : Update.Call e → Update e
  | .record r => { s with record := some r }
  | .set items => { s with assignments := s.assignments ++ items }
  | .condition p => { s with conditions := s.conditions ++ [p] }

def Delete.call (s : Delete) : Delete.Call → Delete
  | .table name => { s with table := some name }
  | .condition p => { s with conditions := s.conditions ++ [p] }

/-- A change as a caller puts it together. -/
inductive Change (e : Entity)
  | update (calls : List (Update.Call e))
  | delete (calls : List Delete.Call)

namespace Change

def statement : Change e → Statement e
  | update calls => .update (calls.foldl Update.call ⟨none, [], []⟩)
  | delete calls => .delete (calls.foldl Delete.call ⟨none, []⟩)

def conditions : Change e → List Predicate
  | update calls => calls.filterMap fun
    | .condition p => some p
    | _ => none
  | delete calls => calls.filterMap fun
    | .condition p => some p
    | _ => none

end Change

end

end RecordSql
