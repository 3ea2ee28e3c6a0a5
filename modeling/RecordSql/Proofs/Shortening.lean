import RecordSql.Middleware.QueryLog
/-! # Shortened texts

A text is shortened to its longest beginning within a number of bytes. Two ways lead there: taking
characters while they fit, and going back from the limit to a boundary. Each is described by where
its result ends, and that determines the result. A log shows this beginning and three dots, or the
whole text if it fits. -/
set_option autoImplicit false
namespace RecordSql

namespace Text

/-- The longest beginning of the text that ends at a boundary and has at most `limit` bytes. -/
structure IsLongestWithin (limit : Nat) (s shown : String) : Prop where
  begins : ∃ rest, s = shown ++ rest
  boundary : isBoundary s shown.utf8ByteSize = true
  fits : shown.utf8ByteSize ≤ limit
  longest : ∀ offset, offset ≤ limit → isBoundary s offset = true → offset ≤ shown.utf8ByteSize

section Boundaries

variable {s : String} {limit offset : Nat}

/-- The boundaries of a text are where it can be divided into two texts. -/
theorem isBoundary_iff :
    isBoundary s offset = true ↔ ∃ front rest, s = front ++ rest ∧ front.utf8ByteSize = offset := by
  rw [isBoundary, String.Pos.Raw.isValid_eq_true_iff, String.Pos.Raw.isValid_iff_exists_append]
  constructor
  · rintro ⟨front, rest, split, here⟩
    exact ⟨front, rest, split, (congrArg String.Pos.Raw.byteIdx here).symm⟩
  · rintro ⟨front, rest, split, rfl⟩
    exact ⟨front, rest, split, rfl⟩

theorem isBoundary_zero (s : String) : isBoundary s 0 = true :=
  isBoundary_iff.mpr ⟨"", s, by simp, rfl⟩

theorem scanBack_le (s : String) (offset : Nat) : scanBack s offset ≤ offset := by
  induction offset with
  | zero => exact Nat.le_refl 0
  | succ offset ih =>
    rw [scanBack]
    split
    · exact Nat.le_refl _
    · omega

theorem isBoundary_scanBack (s : String) (offset : Nat) : isBoundary s (scanBack s offset) = true := by
  induction offset with
  | zero => exact isBoundary_zero s
  | succ offset ih =>
    rw [scanBack]
    split
    next here => exact here
    next => exact ih

/-- No boundary is passed over on the way back. -/
theorem le_scanBack (within : offset ≤ limit) (boundary : isBoundary s offset = true) :
    offset ≤ scanBack s limit := by
  induction limit with
  | zero => exact within
  | succ limit ih =>
    rw [scanBack]
    by_cases here : isBoundary s (limit + 1) = true
    · rw [if_pos here]
      exact within
    · rw [if_neg here]
      apply ih
      have other : offset ≠ limit + 1 := fun same => here (same ▸ boundary)
      omega

theorem front?_of_append {front rest : String} (split : s = front ++ rest) :
    front? s front.utf8ByteSize = some front := by
  have boundary : isBoundary s front.utf8ByteSize = true :=
    isBoundary_iff.mpr ⟨front, rest, split, rfl⟩
  rw [front?, dif_pos boundary, Option.some_inj, String.copy_sliceTo_eq_iff_exists_splits]
  exact ⟨rest, split, String.offset_pos⟩

end Boundaries

/-! ## The longest beginning -/

namespace IsLongestWithin

variable {limit : Nat} {s shown : String}

theorem unique {other : String} (one : IsLongestWithin limit s shown)
    (two : IsLongestWithin limit s other) : shown = other := by
  have size : shown.utf8ByteSize = other.utf8ByteSize := by
    apply Nat.le_antisymm
    · exact two.longest _ one.fits one.boundary
    · exact one.longest _ two.fits two.boundary
  obtain ⟨rest, split⟩ := one.begins
  obtain ⟨tail, again⟩ := two.begins
  -- Only one text stands in front of an offset.
  have front := front?_of_append split
  rw [size, front?_of_append again] at front
  exact (Option.some.inj front).symm

theorem whole (fits : s.utf8ByteSize ≤ limit) : IsLongestWithin limit s s := by
  refine ⟨⟨"", by simp⟩, isBoundary_iff.mpr ⟨s, "", by simp, rfl⟩, fits, ?_⟩
  intro offset _ boundary
  obtain ⟨front, rest, split, rfl⟩ := isBoundary_iff.mp boundary
  rw [split, String.utf8ByteSize_append]
  omega

/-- What is left out of a longer text is less than the character that would follow. -/
theorem lt_add_four (is : IsLongestWithin limit s shown) (long : limit < s.utf8ByteSize) :
    limit < shown.utf8ByteSize + 4 := by
  obtain ⟨rest, split⟩ := is.begins
  have fits := is.fits
  cases behind : rest.toList with
  | nil =>
    have nothing : rest = "" := String.toList_eq_nil_iff.mp behind
    rw [split, nothing, String.append_empty] at long
    omega
  | cons c tail =>
    have next : s = (shown ++ String.singleton c) ++ String.ofList tail := by
      rw [split, String.append_assoc, ← String.ofList_cons, ← behind, String.ofList_toList]
    have size : (shown ++ String.singleton c).utf8ByteSize = shown.utf8ByteSize + c.utf8Size := by
      rw [String.utf8ByteSize_append, String.utf8ByteSize_singleton]
    have positive := c.utf8Size_pos
    have small := c.utf8Size_le_four
    apply Nat.lt_of_not_le
    intro far
    have nearer := is.longest (shown.utf8ByteSize + c.utf8Size) (by omega)
      (isBoundary_iff.mpr ⟨_, _, next, size⟩)
    omega

end IsLongestWithin

theorem isLongestWithin_scanBack {limit : Nat} {s front rest : String} (split : s = front ++ rest)
    (here : front.utf8ByteSize = scanBack s limit) : IsLongestWithin limit s front := by
  refine ⟨⟨rest, split⟩, isBoundary_iff.mpr ⟨front, rest, split, rfl⟩, ?_, ?_⟩
  · rw [here]
    exact scanBack_le s limit
  · intro offset within boundary
    rw [here]
    exact le_scanBack within boundary

/-- Going back from the limit ends at the longest beginning, and the text is divided there. -/
theorem exists_truncateAtBoundary? (limit : Nat) (s : String) :
    ∃ shown, truncateAtBoundary? limit s = some shown ∧ IsLongestWithin limit s shown := by
  rw [truncateAtBoundary?]
  by_cases fits : s.utf8ByteSize ≤ limit
  · rw [if_pos fits]
    exact ⟨s, rfl, IsLongestWithin.whole fits⟩
  · rw [if_neg fits]
    obtain ⟨front, rest, split, here⟩ := isBoundary_iff.mp (isBoundary_scanBack s limit)
    rw [← here]
    exact ⟨front, front?_of_append split, isLongestWithin_scanBack split here⟩

/-! ## Taking characters while they fit -/

theorem utf8ByteSize_ofList_cons (c : Char) (cs : List Char) :
    (String.ofList (c :: cs)).utf8ByteSize = c.utf8Size + (String.ofList cs).utf8ByteSize := by
  rw [String.ofList_cons, String.utf8ByteSize_append, String.utf8ByteSize_singleton]

theorem takeBytes_prefix (limit : Nat) (cs : List Char) : takeBytes limit cs <+: cs := by
  induction cs generalizing limit with
  | nil => exact List.nil_prefix
  | cons c rest ih =>
    rw [takeBytes]
    split
    · exact List.cons_prefix_cons.mpr ⟨rfl, ih _⟩
    · exact List.nil_prefix

theorem utf8ByteSize_takeBytes_le (limit : Nat) (cs : List Char) :
    (String.ofList (takeBytes limit cs)).utf8ByteSize ≤ limit := by
  induction cs generalizing limit with
  | nil => exact Nat.zero_le limit
  | cons c rest ih =>
    rw [takeBytes]
    by_cases fits : c.utf8Size ≤ limit
    · rw [if_pos fits, utf8ByteSize_ofList_cons]
      have tail := ih (limit - c.utf8Size)
      omega
    · rw [if_neg fits]
      exact Nat.zero_le limit

theorem utf8ByteSize_le_takeBytes {limit : Nat} {front : List Char} (back : List Char)
    (fits : (String.ofList front).utf8ByteSize ≤ limit) :
    (String.ofList front).utf8ByteSize ≤
      (String.ofList (takeBytes limit (front ++ back))).utf8ByteSize := by
  induction front generalizing limit with
  | nil => exact Nat.zero_le _
  | cons c rest ih =>
    rw [utf8ByteSize_ofList_cons] at fits
    rw [List.cons_append, takeBytes, if_pos (by omega), utf8ByteSize_ofList_cons,
      utf8ByteSize_ofList_cons]
    have tail := @ih (limit - c.utf8Size) (by omega)
    omega

theorem isLongestWithin_truncateBytes (limit : Nat) (s : String) :
    IsLongestWithin limit s (truncateBytes limit s) := by
  obtain ⟨back, split⟩ := takeBytes_prefix limit s.toList
  have whole : s = truncateBytes limit s ++ String.ofList back := by
    rw [truncateBytes, ← String.ofList_append, split, String.ofList_toList]
  refine ⟨⟨_, whole⟩, isBoundary_iff.mpr ⟨_, _, whole, rfl⟩, utf8ByteSize_takeBytes_le limit _, ?_⟩
  intro offset within boundary
  obtain ⟨front, rest, divided, rfl⟩ := isBoundary_iff.mp boundary
  have chars : s.toList = front.toList ++ rest.toList := by rw [divided, String.toList_append]
  have longer := @utf8ByteSize_le_takeBytes limit front.toList rest.toList
    (by rwa [String.ofList_toList])
  rwa [← chars, String.ofList_toList] at longer

end Text

/-! ## Logged texts -/

namespace QueryLog

variable {l : QueryLog} {limit : Nat} {s : String}

theorem shownSql_of_le (limited : l.textLimit = some limit) (fits : s.utf8ByteSize ≤ limit) :
    l.shownSql s = s := by
  rw [shownSql, limited]
  exact if_neg (by omega)

theorem shownSql_of_lt (limited : l.textLimit = some limit) (long : limit < s.utf8ByteSize) :
    l.shownSql s = Text.truncateBytes limit s ++ "..." := by
  rw [shownSql, limited]
  exact if_pos long

theorem ne_append_dots (s : String) : s ≠ s ++ "..." := by
  intro same
  have size := congrArg String.utf8ByteSize same
  rw [String.utf8ByteSize_append] at size
  have dots : "...".utf8ByteSize = 3 := rfl
  omega

/-- Taking characters and going back from the limit both give the longest beginning of a text within
the limit. It is the text if that fits, and otherwise falls short of the limit by three bytes at most.
A log with the limit shows this beginning and three dots exactly if the text has more bytes. -/
theorem shownSql_longest (limit : Nat) (s : String) :
    Text.IsLongestWithin limit s (Text.truncateBytes limit s) ∧
      Text.truncateAtBoundary? limit s = some (Text.truncateBytes limit s) ∧
      (s.utf8ByteSize ≤ limit → Text.truncateBytes limit s = s) ∧
      (limit < s.utf8ByteSize → limit < (Text.truncateBytes limit s).utf8ByteSize + 4) ∧
      ∀ l : QueryLog,
        (l.textLimit = some limit →
          (l.shownSql s = Text.truncateBytes limit s ++ "..." ↔ limit < s.utf8ByteSize) ∧
          (s.utf8ByteSize ≤ limit → l.shownSql s = s)) ∧
        (l.textLimit = none → l.shownSql s = s) := by
  have longest := Text.isLongestWithin_truncateBytes limit s
  have whole : s.utf8ByteSize ≤ limit → Text.truncateBytes limit s = s := fun fits =>
    longest.unique (Text.IsLongestWithin.whole fits)
  obtain ⟨shown, scanned, found⟩ := Text.exists_truncateAtBoundary? limit s
  rw [found.unique longest] at scanned
  refine ⟨longest, scanned, whole, longest.lt_add_four, ?_⟩
  intro l
  constructor
  · intro limited
    refine ⟨⟨?_, shownSql_of_lt limited⟩, shownSql_of_le limited⟩
    intro dotted
    apply Nat.lt_of_not_le
    intro fits
    rw [shownSql_of_le limited fits, whole fits] at dotted
    exact ne_append_dots s dotted
  · intro unlimited
    rw [shownSql, unlimited]
    rfl

/-- A limit within the second character. -/
example : Text.truncateAtBoundary? 2 "héllo" = some "h" ∧
    shownSql ⟨.debug, some 2, none⟩ "héllo" = "h..." := by
  decide +kernel

end QueryLog

end RecordSql
