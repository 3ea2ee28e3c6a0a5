import Mathlib.Algebra.Order.Ring.Int
import RecordSql.Entity
/-! # Values tell their content

The value of a content converts back to that content. This fails for 32-bit numbers, which
are widened on the way, and for an option around a type that has null among its values. -/
set_option autoImplicit false
namespace RecordSql

namespace ScalarType

/-- An integer value within the bounds of a type gives its content. -/
theorem ofInteger_eq_ok {α : Type} {expected : String} {least greatest n : Int} {content : Int → α}
    {v : Value} {c : α} (holds : v.integer? = some n) (low : least ≤ n) (high : n ≤ greatest)
    (back : content n = c) : ofInteger expected least greatest content v = .ok c := by
  rw [ofInteger, holds, ← back]
  exact if_pos ⟨low, high⟩

theorem integer?_ofInt {n : Int} (low : -2 ^ 63 ≤ n) (high : n < 2 ^ 63) :
    (Value.int (.ofInt n)).integer? = some n := by
  rw [Value.integer?, Int64.toInt_ofInt_of_le low high]

theorem integer?_ofNat {n : Nat} (high : n < 2 ^ 63) :
    (Value.int (.ofNat n)).integer? = some (n : Int) := by
  rw [Value.integer?, Int64.toInt_ofNat_of_lt high]

/-- The value of a content converts back to it. -/
theorem ofValue_toValue {t : ScalarType} (wide : t ≠ .float32) (c : t.Content) :
    t.ofValue (t.toValue c) = .ok c := by
  cases t with
  | int8 =>
    have low := Int8.le_toInt c
    have high := Int8.toInt_lt c
    have holds := integer?_ofInt (n := Int8.toInt c) (by omega) (by omega)
    exact ofInteger_eq_ok holds (by omega) (by omega) (Int8.ofInt_toInt c)
  | int16 =>
    have low := Int16.le_toInt c
    have high := Int16.toInt_lt c
    have holds := integer?_ofInt (n := Int16.toInt c) (by omega) (by omega)
    exact ofInteger_eq_ok holds (by omega) (by omega) (Int16.ofInt_toInt c)
  | int32 =>
    have low := Int32.le_toInt c
    have high := Int32.toInt_lt c
    have holds := integer?_ofInt (n := Int32.toInt c) (by omega) (by omega)
    exact ofInteger_eq_ok holds (by omega) (by omega) (Int32.ofInt_toInt c)
  | int64 =>
    have low := Int64.le_toInt c
    have high := Int64.toInt_lt c
    have holds : (Value.int c).integer? = some (Int64.toInt c) := rfl
    exact ofInteger_eq_ok holds (by omega) (by omega) (Int64.ofInt_toInt c)
  | uint8 =>
    have high := UInt8.toNat_lt c
    have back : ((UInt8.toNat c : Int) % 2 ^ 8).toNat = UInt8.toNat c := by omega
    exact ofInteger_eq_ok (integer?_ofNat (by omega)) (by omega) (by omega)
      (by rw [UInt8.ofInt, back, UInt8.ofNat_toNat])
  | uint16 =>
    have high := UInt16.toNat_lt c
    have back : ((UInt16.toNat c : Int) % 2 ^ 16).toNat = UInt16.toNat c := by omega
    exact ofInteger_eq_ok (integer?_ofNat (by omega)) (by omega) (by omega)
      (by rw [UInt16.ofInt, back, UInt16.ofNat_toNat])
  | uint32 =>
    have high := UInt32.toNat_lt c
    have back : ((UInt32.toNat c : Int) % 2 ^ 32).toNat = UInt32.toNat c := by omega
    exact ofInteger_eq_ok (integer?_ofNat (by omega)) (by omega) (by omega)
      (by rw [UInt32.ofInt, back, UInt32.ofNat_toNat])
  | uint64 =>
    have high := UInt64.toNat_lt c
    have back : ((UInt64.toNat c : Int) % 2 ^ 64).toNat = UInt64.toNat c := by omega
    have holds : (Value.uint c).integer? = some (UInt64.toNat c : Int) := rfl
    exact ofInteger_eq_ok holds (by omega) (by omega)
      (by rw [UInt64.ofInt, back, UInt64.ofNat_toNat])
  | float32 => exact absurd rfl wide
  | bool => rfl
  | float64 => rfl
  | text => rfl
  | bytes => rfl
  | timestamp => rfl
  | utcTimestamp => rfl
  | uuid => rfl
  | value => rfl

/-- Only a field that holds values itself can hold null. -/
theorem toValue_ne_null {t : ScalarType} (typed : t ≠ .value) (c : t.Content) :
    t.toValue c ≠ .null := by
  cases t with
  | value => exact absurd rfl typed
  | _ => simp [toValue]

end ScalarType

namespace FieldType

/-- The field types whose values tell their content. -/
def isLossless : FieldType → Bool
  | scalar t => t != .float32
  | optional (scalar t) => t != .float32 && t != .value
  | optional (optional _) => false

theorem ofValue_optional {t : FieldType} {v : Value} (present : v ≠ .null) :
    (optional t).ofValue v = (t.ofValue v).map (some : t.Content → Option t.Content) := by
  cases v with
  | null => exact absurd rfl present
  | _ => rfl

theorem ofValue_toValue {t : FieldType} (lossless : t.isLossless = true) (c : t.Content) :
    t.ofValue (t.toValue c) = .ok c := by
  match t, c with
  | scalar t, c =>
    have wide : t ≠ .float32 := by simpa [isLossless] using lossless
    exact ScalarType.ofValue_toValue wide c
  | optional (scalar t), none => rfl
  | optional (scalar t), some c =>
    obtain ⟨wide, typed⟩ : t ≠ .float32 ∧ t ≠ .value := by simpa [isLossless] using lossless
    have inside : (scalar t).ofValue (t.toValue c) = .ok c := ScalarType.ofValue_toValue wide c
    show (optional (scalar t)).ofValue (t.toValue c) = _
    rw [ofValue_optional (ScalarType.toValue_ne_null typed c), inside]
    rfl
  | optional (optional t), _ => simp [isLossless] at lossless

end FieldType

/-- A record that is given the value of another one's field agrees with it there. -/
theorem Record.set_value {fields : List Field} {i : Fin fields.length}
    (lossless : (fields.get i).type.isLossless = true) (r source : Record fields) :
    r.set i (source.value i) = .ok (r.put i (source.content i)) := by
  have converted := FieldType.ofValue_toValue lossless (source.content i)
  show Except.map (r.put i) ((fields.get i).type.ofValue
    ((fields.get i).type.toValue (source.content i))) = _
  rw [converted]
  rfl

end RecordSql
