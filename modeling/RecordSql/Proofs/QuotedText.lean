import RecordSql.Proofs.Quoting
import RecordSql.WhereScan
/-! # Blanked quotes and the word WHERE

Blanking quoted text treats a doubled quote as a part of the quoted text and a quote that
nothing closes as an ordinary character. In front of a text that starts without a quote,
neither matters for a text that closes its quotes: it is blanked on its own. So a WHERE
behind closed quotes is found, whatever follows it. -/
set_option autoImplicit false
namespace RecordSql

open Text

theorem openBehind_self (q : Char) (rest : List Char) :
    openBehind isQuoteChar (some q) (q :: rest) = openBehind isQuoteChar none rest := by
  simp [openBehind_cons, openAfter]

theorem openBehind_other {q c : Char} (other : c ≠ q) (rest : List Char) :
    openBehind isQuoteChar (some q) (c :: rest) = openBehind isQuoteChar (some q) rest := by
  simp [openBehind_cons, openAfter, other]

/-- Where the open quote is closed within `cs` and `tail` does not start with it, the quoted
text ends within `cs`. -/
theorem closing_append {q : Char} {cs : List Char} (isQuote : isQuoteChar q = true)
    (closes : openBehind isQuoteChar (some q) cs = none) {tail : List Char}
    (apart : tail.head? ≠ some q) :
    ∃ behind, closing q cs = some behind ∧ closing q (cs ++ tail) = some (behind ++ tail) ∧
      ClosesQuotes isQuoteChar behind := by
  -- One case for each equation of `closing`; the fourth is the doubled quote, behind which the
  -- scan is inside the quotes again.
  fun_induction closing q cs with
  | case1 => simp [openBehind] at closes
  | case2 =>
    refine ⟨[], rfl, ?_, rfl⟩
    cases tail with
    | nil => simp [closing]
    | cons d rest =>
      have other : d ≠ q := by simpa using apart
      simp [closing, other]
  | case3 c other =>
    rw [openBehind_other other] at closes
    simp [openBehind] at closes
  | case4 rest ih =>
    have reopens : openBehind isQuoteChar none (q :: rest) =
        openBehind isQuoteChar (some q) rest := by
      simp [openBehind_cons, openAfter, isQuote]
    rw [openBehind_self, reopens] at closes
    obtain ⟨behind, found, extended, closed⟩ := ih closes
    refine ⟨behind, by rw [found, Option.some_or], ?_, closed⟩
    simp [closing, extended]
  | case5 d rest other =>
    rw [openBehind_self] at closes
    refine ⟨d :: rest, rfl, ?_, closes⟩
    simp [closing, other]
  | case6 c d rest other ih =>
    rw [openBehind_other other] at closes
    obtain ⟨behind, found, extended, closed⟩ := ih closes
    refine ⟨behind, found, ?_, closed⟩
    rw [List.cons_append, List.cons_append, closing, if_neg other]
    exact extended

theorem blankQuoted_cons_closing {c : Char} {rest behind : List Char}
    (isQuote : isQuoteChar c = true) (closed : closing c rest = some behind) :
    blankQuoted (c :: rest) = ' ' :: blankQuoted behind := by
  rw [blankQuoted, if_pos isQuote]
  split
  next found same =>
    rw [closed, Option.some.injEq] at same
    rw [same]
  next none =>
    rw [closed] at none
    contradiction

theorem blankQuoted_cons_plain {c : Char} (plain : isQuoteChar c = false) (rest : List Char) :
    blankQuoted (c :: rest) = c :: blankQuoted rest := by
  rw [blankQuoted, if_neg (by simp [plain])]

theorem blankQuoted_append {front tail : List Char} (closes : ClosesQuotes isQuoteChar front)
    (apart : ∀ q, isQuoteChar q = true → tail.head? ≠ some q) :
    blankQuoted (front ++ tail) = blankQuoted front ++ blankQuoted tail := by
  induction length : front.length using Nat.strongRecOn generalizing front with
  | ind n ih =>
    cases front with
    | nil => simp [blankQuoted]
    | cons c rest =>
      rw [List.length_cons] at length
      rw [List.cons_append]
      cases isQuote : isQuoteChar c with
      | true =>
        have opened : openBehind isQuoteChar (some c) rest = none := by
          rw [ClosesQuotes, openBehind_cons] at closes
          simpa [openAfter, isQuote] using closes
        obtain ⟨behind, found, extended, closed⟩ := closing_append isQuote opened (apart c isQuote)
        have shorter := length_closing_lt found
        have tailwards := ih behind.length (by omega) closed rfl
        rw [blankQuoted_cons_closing isQuote found, blankQuoted_cons_closing isQuote extended,
          tailwards, List.cons_append]
      | false =>
        have closed : ClosesQuotes isQuoteChar rest := by
          rw [ClosesQuotes, openBehind_cons] at closes
          simpa [ClosesQuotes, openAfter, isQuote] using closes
        have tailwards := ih rest.length (by omega) closed rfl
        rw [blankQuoted_cons_plain isQuote, blankQuoted_cons_plain isQuote, tailwards,
          List.cons_append]

theorem blankQuoted_plain {front : List Char} (plain : ∀ c ∈ front, isQuoteChar c = false)
    (tail : List Char) : blankQuoted (front ++ tail) = front ++ blankQuoted tail := by
  induction front with
  | nil => rfl
  | cons c rest ih =>
    have head := plain c List.mem_cons_self
    have inside := ih fun d member => plain d (List.mem_cons_of_mem c member)
    rw [List.cons_append, blankQuoted_cons_plain head, inside, List.cons_append]

theorem hasWordFrom_append (word : List Char) (inside : Bool) (front tail : List Char)
    (later : ∀ inside, hasWordFrom word inside tail = true) :
    hasWordFrom word inside (front ++ tail) = true := by
  induction front generalizing inside with
  | nil => exact later inside
  | cons c rest ih => rw [List.cons_append, hasWordFrom, ih, Bool.or_true]

theorem startsWithWord_where (rest : List Char) :
    startsWithWord "where".toList ('W' :: 'H' :: 'E' :: 'R' :: 'E' :: ' ' :: rest) = true := by
  have word : "where".toList = ['w', 'h', 'e', 'r', 'e'] := by decide
  have small : (['W', 'H', 'E', 'R', 'E'].map asciiSmall == ['w', 'h', 'e', 'r', 'e']) = true := by
    decide
  have outside : isWordChar ' ' = false := by decide
  rw [word]
  show (['W', 'H', 'E', 'R', 'E'].map asciiSmall == ['w', 'h', 'e', 'r', 'e'] &&
    startsOutsideWord (' ' :: rest)) = true
  rw [small, startsOutsideWord, outside]
  rfl

/-- The keyword between blanks is found. -/
theorem hasWordFrom_where (inside : Bool) (rest : List Char) :
    hasWordFrom "where".toList inside (" WHERE ".toList ++ rest) = true := by
  have keyword : " WHERE ".toList = [' ', 'W', 'H', 'E', 'R', 'E', ' '] := by decide
  have blank : isWordChar ' ' = false := by decide
  rw [keyword]
  simp only [List.cons_append, List.nil_append, hasWordFrom, startsWithWord_where, blank,
    Bool.not_false, Bool.and_true, Bool.true_or, Bool.or_true]

/-- A text that closes its quotes in front of the keyword has conditions. -/
theorem sqlHasWhere_of_closes {front back : String}
    (closes : ClosesQuotes isQuoteChar front.toList) :
    sqlHasWhere (front ++ " WHERE " ++ back) = true := by
  have keyword : " WHERE ".toList = [' ', 'W', 'H', 'E', 'R', 'E', ' '] := by decide
  have plain : ∀ c ∈ " WHERE ".toList, isQuoteChar c = false := by
    rw [keyword]
    simp [isQuoteChar]
  have apart : ∀ q, isQuoteChar q = true → (" WHERE ".toList ++ back.toList).head? ≠ some q := by
    intro q isQuote same
    rw [keyword] at same
    obtain rfl : ' ' = q := by simpa using same
    exact absurd isQuote (by decide)
  have text : (front ++ " WHERE " ++ back).toList =
      front.toList ++ (" WHERE ".toList ++ back.toList) := by
    rw [String.toList_append, String.toList_append, List.append_assoc]
  rw [sqlHasWhere, hasWord, text, blankQuoted_append closes apart, blankQuoted_plain plain]
  exact hasWordFrom_append _ _ _ _ fun inside => hasWordFrom_where inside _

end RecordSql
