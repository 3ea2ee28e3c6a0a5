import Mathlib.Tactic.Ring
import RecordSql.Postgres.Wire
/-! # What PostgreSQL gives back

`Stored v t w` says that a column of type `t` that takes the value `v` holds `w`: the same value, or
for an integer the number, its decimal digits or whether it is other than zero, as the type is. A
value that is sent is read back as what the table says, and nothing is sent that the table does not
name, so no number is cut to a smaller width. Floating point and timestamps, which are rounded, are
left out. -/
set_option autoImplicit false
namespace RecordSql.Postgres

/-- Whether values of this kind are sent without rounding. -/
def isExact : Value → Bool
  | .float _ => false
  | .timestamp _ => false
  | _ => true

/-- How many bits a number has in a column of an integer type, its sign apart. -/
def ColumnType.integerBits? : ColumnType → Option Nat
  | int2 => some 15
  | int4 => some 31
  | int8 => some 63
  | _ => none

/-- The integers of so many bits, the sign apart. -/
abbrev InRange (bits : Nat) (n : Int) : Prop := -2 ^ bits ≤ n ∧ n < 2 ^ bits

/-- What a column holds for an integer. -/
inductive StoredInteger (n : Int) : ColumnType → Value → Prop
  | number {t : ColumnType} {bits : Nat} {m : Int64} (width : t.integerBits? = some bits)
      (inside : InRange bits n) (same : m.toInt = n) : StoredInteger n t (.int m)
  | digits {t : ColumnType} (text : t = .text ∨ t = .varchar) :
      StoredInteger n t (.text (toString n))
  | truth : StoredInteger n .bool (.bool (decide (n ≠ 0)))

/-- Whether columns of the type hold a value of this kind as it is. -/
def ColumnType.keeps (t : ColumnType) : Value → Bool
  | .bool _ => t == .bool
  | .text _ => t.isText
  | .bytes _ => t == .bytea
  | .uuid _ => t == .uuid
  | _ => false

/-- What a column of a type holds for a value that it takes. Integers have 64 bits. -/
inductive Stored : Value → ColumnType → Value → Prop
  | null {t : ColumnType} : Stored .null t .null
  | same {v : Value} {t : ColumnType} (kept : t.keeps v = true) : Stored v t v
  | integer {v w : Value} {n : Int} {t : ColumnType} (given : v.integer? = some n)
      (inside : InRange 63 n) (stored : StoredInteger n t w) : Stored v t w

/-! ## Bytes -/

theorem length_bigEndian (width n : Nat) : (bigEndian width n).length = width := by
  induction width with
  | zero => rfl
  | succ width ih => rw [bigEndian, List.length_cons, ih]

theorem patterns_eq (width : Nat) : patterns width = 2 ^ (8 * width) := Nat.one_shiftLeft _

/-- The bytes of a number behind those that were read: `front` moves up by their width. -/
theorem foldl_bigEndian (width n front : Nat) :
    (bigEndian width n).foldl (fun n b => n * 256 + b.toNat) front =
      front * patterns width + n % patterns width := by
  induction width generalizing front with
  | zero => simp [bigEndian, patterns_eq, Nat.mod_one]
  | succ width ih =>
    have wider : patterns (width + 1) = patterns width * 256 := by
      rw [patterns_eq, patterns_eq, Nat.mul_succ, Nat.pow_add]
    have byte : (UInt8.ofNat (n >>> (8 * width))).toNat = n / patterns width % 256 := by
      rw [UInt8.toNat_ofNat', Nat.shiftRight_eq_div_pow, patterns_eq]
    rw [bigEndian, List.foldl_cons, ih, byte, wider, Nat.mod_mul]
    ring

theorem ofBigEndian_bigEndian (width n : Nat) :
    ofBigEndian (bigEndian width n) = n % patterns width := by
  rw [ofBigEndian, foldl_bigEndian, Nat.zero_mul, Nat.zero_add]

theorem length_signedBytes (width : Nat) (n : Int) : (signedBytes width n).length = width :=
  length_bigEndian width _

theorem fits_iff {width bits : Nat} (wide : 8 * width = bits + 1) (n : Int) :
    fits width n = true ↔ InRange bits n := by
  have twice : (patterns width : Int) = 2 * 2 ^ bits := by
    rw [patterns_eq, wide, Nat.pow_succ, Nat.mul_comm]
    norm_cast
  rw [fits, Bool.and_eq_true, decide_eq_true_eq, decide_eq_true_eq, twice]
  omega

/-- An integer that fits is read back from its bytes. -/
theorem ofSignedBytes_signedBytes {width : Nat} {n : Int} (inside : fits width n = true) :
    ofSignedBytes (signedBytes width n) = n := by
  rw [fits, Bool.and_eq_true, decide_eq_true_eq, decide_eq_true_eq] at inside
  obtain ⟨low, high⟩ := inside
  have positive : (0 : Int) < patterns width := by
    rw [patterns_eq]
    exact Int.natCast_pos.mpr (Nat.two_pow_pos _)
  have residue : (((n % patterns width).toNat : Nat) : Int) = n % patterns width :=
    Int.toNat_of_nonneg (Int.emod_nonneg n positive.ne')
  have read : ((ofBigEndian (signedBytes width n) : Nat) : Int) = n % patterns width := by
    rw [signedBytes, ofBigEndian_bigEndian, Int.natCast_mod, residue, Int.emod_emod]
  rw [ofSignedBytes, read, length_signedBytes]
  by_cases negative : n < 0
  · have wrapped : n % patterns width = n + patterns width := by
      rw [← Int.add_emod_right, Int.emod_eq_of_lt (by omega) (by omega)]
    rw [wrapped, if_neg (by omega), Int.add_sub_cancel]
  · have kept : n % patterns width = n := Int.emod_eq_of_lt (by omega) (by omega)
    rw [kept, if_pos high]

theorem integer?_signedBytes {width : Nat} {n : Int} (inside : fits width n = true) :
    integer? width (signedBytes width n) = some (.int (.ofInt n)) := by
  rw [integer?, if_pos (length_signedBytes width n), ofSignedBytes_signedBytes inside]

/-- A text is read back from its bytes. -/
theorem fromUTF8?_utf8Bytes (s : String) : String.fromUTF8? ⟨(utf8Bytes s).toArray⟩ = some s := by
  have same : (⟨(utf8Bytes s).toArray⟩ : ByteArray) = s.toByteArray := rfl
  rw [same, String.fromUTF8?, dif_pos s.isValidUTF8]
  rfl

/-! ## Parameters -/

/-- A parameter that was sent is read back as the one value that a column may hold, and where no
parameter is sent there is none. -/
def Settles (sent : Except BindCause (Option (List UInt8))) (t : ColumnType) (held : Value → Prop) :
    Prop :=
  match sent with
  | .ok cell => ∃ w, read t cell = some w ∧ ∀ u, held u ↔ u = w
  | .error _ => ∀ u, ¬ held u

theorem settles_of_read {bytes : List UInt8} {t : ColumnType} {held : Value → Prop} {w : Value}
    (given : readBytes t bytes = some w) (only : ∀ u, held u ↔ u = w) :
    Settles ((Except.ok bytes).map some) t held :=
  ⟨w, given, only⟩

theorem storedInteger_number {n : Int} {t : ColumnType} {bits : Nat} (width : t.integerBits? = some bits)
    (long : InRange 63 n) (u : Value) : StoredInteger n t u ↔ InRange bits n ∧ u = .int (.ofInt n) := by
  have number : (Int64.ofInt n).toInt = n := Int64.toInt_ofInt_of_le long.1 long.2
  constructor
  · intro stored
    cases stored with
    | @number _ others m found inside same =>
      obtain rfl : bits = others := Option.some.inj (width.symm.trans found)
      exact ⟨inside, congrArg Value.int (Int64.toInt_inj.mp (same.trans number.symm))⟩
    | digits text => rcases text with rfl | rfl <;> exact nomatch width
    | truth => exact nomatch width
  · rintro ⟨inside, rfl⟩
    exact .number width inside number

/-- A number that must fit into its width. -/
theorem settles_sendChecked {t : ColumnType} {n : Int} {width bits : Nat}
    (wide : 8 * width = bits + 1) (kind : t.integerBits? = some bits)
    (reading : ∀ bytes, readBytes t bytes = integer? width bytes) (long : InRange 63 n) :
    Settles ((sendChecked width n).map some) t (StoredInteger n t) := by
  by_cases inside : fits width n = true
  · have given : readBytes t (signedBytes width n) = some (.int (.ofInt n)) :=
      (reading _).trans (integer?_signedBytes inside)
    rw [sendChecked, if_pos inside]
    refine settles_of_read given fun u => ?_
    rw [storedInteger_number kind long]
    exact and_iff_right ((fits_iff wide n).mp inside)
  · rw [sendChecked, if_neg inside]
    intro u stored
    exact inside ((fits_iff wide n).mpr ((storedInteger_number kind long u).mp stored).1)

theorem settles_digits {t : ColumnType} (n : Int) (text : t = .text ∨ t = .varchar) :
    Settles ((Except.ok (utf8Bytes (toString n))).map some) t (StoredInteger n t) := by
  have given : readBytes t (utf8Bytes (toString n)) = some (.text (toString n)) := by
    rcases text with rfl | rfl <;>
      exact congrArg (Option.map Value.text) (fromUTF8?_utf8Bytes (toString n))
  refine settles_of_read given fun u => ⟨fun stored => ?_, fun same => same ▸ .digits text⟩
  cases stored with
  | number width => rcases text with rfl | rfl <;> exact nomatch width
  | digits => rfl
  | truth => rcases text with same | same <;> exact nomatch same

theorem settles_truth (n : Int) :
    Settles ((sendInteger n .bool).map some) .bool (StoredInteger n .bool) := by
  have given : readBytes .bool [if n = 0 then 0 else 1] = some (.bool (decide (n ≠ 0))) := by
    by_cases zero : n = 0 <;> simp [readBytes, zero]
  refine settles_of_read given fun u => ⟨fun stored => ?_, fun same => same ▸ .truth⟩
  cases stored with
  | number width => exact nomatch width
  | digits text => rcases text with same | same <;> exact nomatch same
  | truth => rfl

/-- The types that hold an integer in some form, floating point apart. -/
def ColumnType.takesIntegers (t : ColumnType) : Bool :=
  t.integerBits?.isSome || t == .text || t == .varchar || t == .bool

theorem not_storedInteger {t : ColumnType} (refuses : t.takesIntegers = false) (n : Int) (u : Value) :
    ¬ StoredInteger n t u := by
  intro stored
  cases stored with
  | number width => simp [ColumnType.takesIntegers, width] at refuses
  | digits text => rcases text with rfl | rfl <;> exact nomatch refuses
  | truth => exact nomatch refuses

/-- An integer of 64 bits as a parameter of a type other than the two of floating point. -/
theorem settles_sendInteger {t : ColumnType} {n : Int} (long : InRange 63 n) (single : t ≠ .float4)
    (double : t ≠ .float8) : Settles ((sendInteger n t).map some) t (StoredInteger n t) := by
  cases t with
  | int2 => exact settles_sendChecked (rfl : 8 * 2 = 15 + 1) rfl (fun _ => rfl) long
  | int4 => exact settles_sendChecked (rfl : 8 * 4 = 31 + 1) rfl (fun _ => rfl) long
  | int8 =>
    have fitting : fits 8 n = true := (fits_iff (rfl : 8 * 8 = 63 + 1) n).mpr long
    have checked : sendInteger n .int8 = sendChecked 8 n := by
      rw [sendChecked, if_pos fitting]
      rfl
    rw [checked]
    exact settles_sendChecked (rfl : 8 * 8 = 63 + 1) rfl (fun _ => rfl) long
  | bool => exact settles_truth n
  | text => exact settles_digits n (.inl rfl)
  | varchar => exact settles_digits n (.inr rfl)
  | float4 => exact absurd rfl single
  | float8 => exact absurd rfl double
  | bpchar | name | unknown | bytea | timestamp | timestamptz | uuid | other _ =>
    exact not_storedInteger rfl n

theorem stored_iff_of_integer {v : Value} {n : Int} {t : ColumnType} (given : v.integer? = some n)
    (long : InRange 63 n) (u : Value) : Stored v t u ↔ StoredInteger n t u := by
  constructor
  · intro stored
    cases stored with
    | null => exact nomatch given
    | same kept =>
      cases v with
      | int _ | uint _ => exact nomatch kept
      | _ => exact nomatch given
    | integer found _ stored =>
      rw [given, Option.some.injEq] at found
      exact found ▸ stored
  · exact .integer given long

theorem stored_iff_of_kept {v : Value} {t : ColumnType} (kept : t.keeps v = true) (u : Value) :
    Stored v t u ↔ u = v := by
  constructor
  · intro stored
    cases stored with
    | null => rfl
    | same => rfl
    | integer given =>
      cases v with
      | int _ | uint _ => exact nomatch kept
      | _ => exact nomatch given
  · rintro rfl
    exact .same kept

theorem not_stored {v : Value} {t : ColumnType} (present : v ≠ .null) (noInteger : v.integer? = none)
    (refused : t.keeps v = false) (u : Value) : ¬ Stored v t u := by
  intro stored
  cases stored with
  | null => exact present rfl
  | same kept => rw [refused] at kept; exact nomatch kept
  | integer given => rw [noInteger] at given; exact nomatch given

theorem sendValue_int (n : Int64) (t : ColumnType) : sendValue (.int n) t = sendInteger n.toInt t :=
  rfl

theorem sendValue_uint (n : UInt64) (t : ColumnType) :
    sendValue (.uint n) t =
      if n.toNat < 2 ^ 63 then sendInteger n.toNat t else .error .outOfRange := rfl

theorem sendValue_text (s : String) (t : ColumnType) :
    sendValue (.text s) t = if t.isText then .ok (utf8Bytes s) else .error .wrongType := rfl

/-- A value that the type holds as it is. -/
theorem readBytes_sendValue {v : Value} {t : ColumnType} (kept : t.keeps v = true) :
    ∃ bytes, sendValue v t = .ok bytes ∧ readBytes t bytes = some v := by
  cases v with
  | bool b =>
    obtain rfl : t = .bool := eq_of_beq kept
    cases b <;> exact ⟨_, rfl, rfl⟩
  | text s =>
    have text : t.isText = true := kept
    have sent : sendValue (.text s) t = .ok (utf8Bytes s) := by
      rw [sendValue_text, if_pos text]
    refine ⟨_, sent, ?_⟩
    cases t with
    | text | varchar | bpchar | name | unknown =>
      exact congrArg (Option.map Value.text) (fromUTF8?_utf8Bytes s)
    | _ => exact nomatch text
  | bytes b =>
    obtain rfl : t = .bytea := eq_of_beq kept
    exact ⟨b, rfl, rfl⟩
  | uuid u =>
    obtain rfl : t = .uuid := eq_of_beq kept
    exact ⟨u.bytes, rfl, congrArg (Option.map Value.uuid) (Uuid.ofBytes?_bytes u)⟩
  | null | int _ | uint _ | float _ | timestamp _ => exact nomatch kept

theorem sendValue_refused {v : Value} {t : ColumnType} (exact : isExact v = true)
    (noInteger : v.integer? = none) (refused : t.keeps v = false) :
    sendValue v t = .error .wrongType := by
  cases v with
  | text s =>
    have other : t.isText = false := refused
    rw [sendValue_text, other, if_neg Bool.false_ne_true]
  | bool _ | bytes _ | uuid _ => cases t <;> first | rfl | exact nomatch refused
  | null => cases t <;> rfl
  | int _ | uint _ => exact nomatch noInteger
  | float _ | timestamp _ => exact nomatch exact

/-- A value other than null and integers. -/
theorem settles_sendValue {v : Value} {t : ColumnType} (exact : isExact v = true)
    (present : v ≠ .null) (noInteger : v.integer? = none) :
    Settles ((sendValue v t).map some) t (Stored v t) := by
  by_cases kept : t.keeps v = true
  · obtain ⟨bytes, sent, given⟩ := readBytes_sendValue kept
    rw [sent]
    exact settles_of_read given (stored_iff_of_kept kept)
  · have refused : t.keeps v = false := by simpa using kept
    rw [sendValue_refused exact noInteger refused]
    exact not_stored present noInteger refused

/-- An integer that is bound as a signed one. -/
theorem settles_integer {v : Value} {t : ColumnType} {n : Int} (given : v.integer? = some n)
    (long : InRange 63 n) (sent : sendValue v t = sendInteger n t) (single : t ≠ .float4)
    (double : t ≠ .float8) : Settles ((sendValue v t).map some) t (Stored v t) := by
  have held : Stored v t = StoredInteger n t :=
    funext fun u => propext (stored_iff_of_integer given long u)
  rw [sent, held]
  exact settles_sendInteger long single double

theorem inRange_toInt (n : Int64) : InRange 63 n.toInt := ⟨n.le_toInt, n.toInt_lt⟩

theorem send_of_present {v : Value} (present : v ≠ .null) {t : ColumnType}
    (accepted : t.isAccepted = true) : send v t = (sendValue v t).map some := by
  refine (if_pos accepted).trans ?_
  cases v with
  | null => exact absurd rfl present
  | _ => rfl

theorem ColumnType.isReadable_of_isAccepted {t : ColumnType} (accepted : t.isAccepted = true) :
    t.isReadable = true := by
  cases t with
  | other written => exact nomatch accepted
  | _ => rfl

theorem settles_null {t : ColumnType} (accepted : t.isAccepted = true) :
    Settles (send .null t) t (Stored .null t) := by
  have sent : send .null t = .ok none := if_pos accepted
  have given : read t none = some .null := if_pos (ColumnType.isReadable_of_isAccepted accepted)
  rw [sent]
  refine ⟨.null, given, fun u => ⟨fun stored => ?_, fun same => same ▸ .null⟩⟩
  cases stored with
  | null => rfl
  | same => rfl
  | integer given => exact nomatch given

/-- A value that is not rounded, as a parameter of a type other than the two of floating point. -/
theorem settles_send {v : Value} {t : ColumnType} (exact : isExact v = true)
    (accepted : t.isAccepted = true) (single : t ≠ .float4) (double : t ≠ .float8) :
    Settles (send v t) t (Stored v t) := by
  by_cases absent : v = .null
  · subst absent
    exact settles_null accepted
  rw [send_of_present absent accepted]
  cases v with
  | null => exact absurd rfl absent
  | int n => exact settles_integer rfl (inRange_toInt n) (sendValue_int n t) single double
  | uint n =>
    by_cases small : n.toNat < 2 ^ 63
    · have long : InRange 63 n.toNat := by omega
      exact settles_integer rfl long (by rw [sendValue_uint, if_pos small]) single double
    · rw [sendValue_uint, if_neg small]
      intro u stored
      cases stored with
      | same kept => exact nomatch kept
      | integer given inside =>
        obtain rfl := Option.some.inj given
        omega
  | bool _ | text _ | bytes _ | uuid _ => exact settles_sendValue exact absent rfl
  | float _ | timestamp _ => exact nomatch exact

/-! ## What comes back -/

theorem integerBits?_le {t : ColumnType} {bits : Nat} (width : t.integerBits? = some bits) :
    bits ≤ 63 := by
  cases t with
  | int2 | int4 | int8 =>
    obtain rfl := Option.some.inj width
    omega
  | _ => exact nomatch width

theorem InRange.wider {few many : Nat} {n : Int} (inside : InRange few n) (le : few ≤ many) :
    InRange many n := by
  have powers : (2 : Int) ^ few ≤ 2 ^ many := by
    exact_mod_cast Nat.pow_le_pow_right (by decide) le
  obtain ⟨low, high⟩ := inside
  constructor <;> omega

/-- A column of an integer type holds exactly the integers of its range. -/
theorem exists_stored_iff {v : Value} {t : ColumnType} {n : Int} {bits : Nat}
    (given : v.integer? = some n) (width : t.integerBits? = some bits) :
    (∃ u, Stored v t u) ↔ InRange bits n := by
  constructor
  · rintro ⟨u, stored⟩
    cases stored with
    | null => exact nomatch given
    | same kept =>
      cases v with
      | int _ | uint _ => exact nomatch kept
      | _ => exact nomatch given
    | integer found long stored =>
      obtain rfl : n = _ := Option.some.inj (given.symm.trans found)
      exact ((storedInteger_number width long u).mp stored).1
  · intro inside
    have long : InRange 63 n := inside.wider (integerBits?_le width)
    exact ⟨_, .integer given long ((storedInteger_number width long _).mpr ⟨inside, rfl⟩)⟩

theorem send_beyond {n : UInt64} (beyond : 2 ^ 63 ≤ n.toNat) (t : ColumnType) :
    ∃ cause, send (.uint n) t = .error cause := by
  by_cases accepted : t.isAccepted = true
  · have present : Value.uint n ≠ .null := nofun
    rw [send_of_present present accepted, sendValue_uint, if_neg (by omega)]
    exact ⟨_, rfl⟩
  · exact ⟨.wrongType, if_neg accepted⟩

/-- A value that is bound either fails, and then a column of the type holds no such value, or is
read back as the one value that `Stored` names. An integer fails for an integer type exactly when it
is out of the range of the type, and beyond the signed range it fails for every type. -/
theorem read_send {v : Value} {t : ColumnType} (exact : isExact v = true)
    (accepted : t.isAccepted = true) (single : t ≠ .float4) (double : t ≠ .float8) :
    (∀ cell, send v t = .ok cell → ∃ w, read t cell = some w ∧ ∀ u, Stored v t u ↔ u = w) ∧
    (∀ cause, send v t = .error cause → ∀ u, ¬ Stored v t u) ∧
    (∀ n bits, v.integer? = some n → t.integerBits? = some bits →
      ((∃ cause, send v t = .error cause) ↔ ¬ InRange bits n)) ∧
    (∀ n : UInt64, 2 ^ 63 ≤ n.toNat → ∀ u, ∃ cause, send (.uint n) u = .error cause) := by
  have settled := settles_send exact accepted single double
  have failed (cause : BindCause) (sent : send v t = .error cause) (u : Value) : ¬ Stored v t u := by
    rw [sent] at settled
    exact settled u
  have held (cell : Option (List UInt8)) (sent : send v t = .ok cell) :
      ∃ w, read t cell = some w ∧ ∀ u, Stored v t u ↔ u = w := by
    rw [sent] at settled
    exact settled
  refine ⟨held, failed, fun n bits given width => ?_, fun n beyond => send_beyond beyond⟩
  rw [← exists_stored_iff given width]
  constructor
  · rintro ⟨cause, sent⟩ ⟨u, stored⟩
    exact failed cause sent u stored
  · intro none
    cases sent : send v t with
    | error cause => exact ⟨cause, rfl⟩
    | ok cell =>
      obtain ⟨w, -, only⟩ := held cell sent
      exact absurd ⟨w, (only w).mpr rfl⟩ none

/-- The least number of two bytes, and the number behind the greatest. -/
theorem read_send_twoBytes :
    (∃ cell, send (.int (-32768)) .int2 = .ok cell ∧
      read .int2 cell = some (.int (-32768))) ∧
    ∃ cause, send (.uint 32768) .int2 = .error cause := by
  have sent : send (.int (-32768)) .int2 = .ok (some [128, 0]) := by decide +kernel
  have least : StoredInteger (-32768) .int2 (.int (-32768)) :=
    .number (rfl : ColumnType.int2.integerBits? = some 15) (by decide) (by decide)
  have stored : Stored (.int (-32768)) .int2 (.int (-32768)) :=
    .integer (n := -32768) (by decide) (by decide) least
  obtain ⟨w, given, only⟩ :=
    (read_send (v := .int (-32768)) (t := .int2) rfl rfl nofun nofun).1 _ sent
  have bounds := (read_send (v := .uint 32768) (t := .int2) rfl rfl nofun nofun).2.2.1
  refine ⟨⟨_, sent, ?_⟩, (bounds 32768 15 (by decide) rfl).mpr (by decide)⟩
  rw [given, (only _).mp stored]

end RecordSql.Postgres
