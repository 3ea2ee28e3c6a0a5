import Mathlib.Data.List.Induction
import RecordSql.Tag
/-! # Tables of tags

A tag as a table of values by their keys. The pieces of a text are entered one after the other, each
in place of an earlier one with its key; the first that is malformed ends the work. -/
set_option autoImplicit false
namespace RecordSql

/-- In a table that is filled in order, the last entry with a key is found. -/
theorem getElem?_foldl_insert {α β : Type} (key : α → String) (value : α → β) (entries : List α)
    (k : String) :
    (entries.foldl (fun table a => table.insert (key a) (value a)) (∅ : Std.HashMap String β))[k]? =
      (entries.findRev? fun a => key a == k).map value := by
  rw [List.findRev?_eq_find?_reverse]
  induction entries using List.reverseRec with
  | nil => simp
  | append_singleton front last ih =>
    rw [List.foldl_append, List.foldl_cons, List.foldl_nil, Std.HashMap.getElem?_insert,
      List.reverse_concat, List.find?_cons, ih]
    cases key last == k <;> rfl

abbrev TagTable := Std.HashMap String String

namespace TagTable

def enterAll (table : TagTable) : List (List Char) → Except Error TagTable
  | [] => .ok table
  | piece :: rest =>
    match Tag.parsePiece piece with
    | .error e => .error e
    | .ok (key, value) => enterAll (table.insert key value) rest

def parse (text : String) : Except Error TagTable :=
  if text.isEmpty then .ok ∅ else enterAll ∅ (Text.splitOn ',' text.toList)

def ofTag (tag : Tag) : TagTable :=
  tag.foldl (fun table entry => table.insert entry.1 entry.2) ∅

theorem getElem?_ofTag (tag : Tag) (key : String) : (ofTag tag)[key]? = tag.get? key :=
  getElem?_foldl_insert Prod.fst Prod.snd tag key

end TagTable

end RecordSql
