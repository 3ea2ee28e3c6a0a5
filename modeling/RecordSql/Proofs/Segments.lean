import Mathlib.Data.List.Chain
import RecordSql.Proofs.Patterns
/-! # The unquoted words of a text

A text falls into segments: quoted ones, in whose content the quote character is doubled, and plain
ones between them. Neighbours that are quoted by the same character read as one quoted text, but
what the scan leaves is the same: the plain segments with blanks around them. So a word is
found exactly where it stands in a plain segment. -/
set_option autoImplicit false
namespace RecordSql

open Text

/-! ## Quoted contents -/

/-- A content as it stands between quotes: the quote character is doubled. -/
def doubled (q : Char) : List Char → List Char
  | [] => []
  | c :: rest => if c = q then q :: q :: doubled q rest else c :: doubled q rest

theorem closing_cons_other {q c : Char} (other : c ≠ q) (rest : List Char) :
    closing q (c :: rest) = closing q rest := by
  cases rest with
  | nil => simp [closing, other]
  | cons d more => rw [closing, if_neg other]

theorem isSome_closing_self (q : Char) (rest : List Char) :
    (closing q (q :: rest)).isSome = true := by
  cases rest with
  | nil => simp [closing]
  | cons d more =>
    rw [closing, if_pos rfl]
    split
    next => cases closing q more <;> rfl
    next => rfl

/-- A doubled content is passed over. -/
theorem closing_doubled (q : Char) (content tail : List Char) :
    closing q (doubled q content ++ q :: tail) = closing q (q :: tail) := by
  induction content with
  | nil => rfl
  | cons c rest ih =>
    by_cases same : c = q
    · obtain ⟨behind, found⟩ := Option.isSome_iff_exists.mp (isSome_closing_self q tail)
      rw [doubled, if_pos same, List.cons_append, List.cons_append, closing, if_pos rfl, if_pos rfl,
        ih, found, Option.some_or]
    · rw [doubled, if_neg same, List.cons_append, closing_cons_other same, ih]

/-! ## Segments -/

/-- A part of a text: plain characters, or a content between two quotes. -/
inductive Segment
  | plain (cs : List Char) (given : cs ≠ []) (unquoted : cs.any isQuoteChar = false)
  | quoted (delimiter : Char) (isQuote : isQuoteChar delimiter = true) (content : List Char)

namespace Segment

def text : Segment → List Char
  | plain cs _ _ => cs
  | quoted q _ content => q :: (doubled q content ++ [q])

def plain? : Segment → Option (List Char)
  | plain cs _ _ => some cs
  | quoted _ _ _ => none

def isQuotedBy (q : Char) : Segment → Bool
  | plain _ _ _ => false
  | quoted d _ _ => d == q

/-- Plain segments have a quoted one between them. -/
def Apart (segments : List Segment) : Prop :=
  segments.IsChain fun a b => a.plain? = none ∨ b.plain? = none

instance (segments : List Segment) : Decidable (Apart segments) :=
  inferInstanceAs (Decidable (segments.IsChain _))

theorem text_quoted_append (q : Char) (isQuote : isQuoteChar q = true) (content tail : List Char) :
    (quoted q isQuote content).text ++ tail = q :: (doubled q content ++ q :: tail) := by
  rw [text, List.cons_append, List.append_assoc, List.singleton_append]

/-- Quoted text goes on through all neighbours that are quoted by the same character. -/
theorem closing_text {q : Char} (isQuote : isQuoteChar q = true) (content : List Char)
    (rest : List Segment) :
    closing q (doubled q content ++ q :: rest.flatMap text) =
      some ((rest.dropWhile (isQuotedBy q)).flatMap text) := by
  induction rest generalizing content with
  | nil =>
    rw [closing_doubled]
    simp [closing]
  | cons segment more ih =>
    rw [closing_doubled, List.flatMap_cons, List.dropWhile_cons]
    cases segment with
    | plain cs given unquoted =>
      obtain ⟨c, behind, rfl⟩ := List.exists_cons_of_ne_nil given
      have other : c ≠ q := by
        rintro rfl
        simp [isQuote] at unquoted
      rw [text, List.cons_append, closing, if_pos rfl, if_neg other, isQuotedBy,
        if_neg Bool.false_ne_true, List.flatMap_cons, text, List.cons_append]
    | quoted d _ inner =>
      rw [text_quoted_append, closing, if_pos rfl]
      by_cases same : d = q
      · subst same
        rw [if_pos rfl, ih, Option.some_or, isQuotedBy, if_pos (beq_self_eq_true d)]
      · rw [if_neg same, isQuotedBy, if_neg (by simpa using same), List.flatMap_cons,
          text_quoted_append]

end Segment

/-! ## Blanks between words -/

/-- A blank behind a text ends no word in it that its end would not end. -/
theorem startsWithWord_blank {word : List Char} (unspaced : ' ' ∉ word) (cs tail : List Char) :
    startsWithWord word (cs ++ ' ' :: tail) = startsWithWord word cs := by
  rw [Bool.eq_iff_iff, startsWithWord_iff, startsWithWord_iff]
  constructor
  · rintro ⟨middle, back, split, rfl, outside⟩
    rcases List.append_eq_append_iff.mp split with ⟨more, rfl, rest⟩ | ⟨more, rfl, rfl⟩
    · cases more with
      | nil => exact ⟨cs, [], by simp, by simp, rfl⟩
      | cons c more =>
        obtain rfl : ' ' = c := by simpa using congrArg List.head? rest
        have blank : asciiSmall ' ' = ' ' := by decide
        exact absurd (by simp [blank]) unspaced
    · exact ⟨middle, more, rfl, rfl, by cases more <;> first | rfl | exact outside⟩
  · rintro ⟨middle, back, rfl, rfl, outside⟩
    refine ⟨middle, back ++ ' ' :: tail, by simp, rfl, ?_⟩
    cases back with
    | nil => rfl
    | cons c rest => exact outside

theorem hasWordFrom_blank {word : List Char} (unspaced : ' ' ∉ word) (given : word ≠ [])
    (inside : Bool) (cs tail : List Char) :
    hasWordFrom word inside (cs ++ ' ' :: tail) =
      (hasWordFrom word inside cs || hasWord word tail) := by
  induction cs generalizing inside with
  | nil =>
    have nothing : startsWithWord word [] = false := by simp [startsWithWord, given]
    have here := startsWithWord_blank unspaced [] tail
    rw [List.nil_append] at here
    have outside : isWordChar ' ' = false := rfl
    simp [hasWordFrom, hasWord, here, nothing, outside]
  | cons c rest ih =>
    have here := startsWithWord_blank unspaced (c :: rest) tail
    rw [List.cons_append] at here
    rw [List.cons_append, hasWordFrom, hasWordFrom, ih, here, Bool.or_assoc]

theorem hasWord_blank {word : List Char} (unspaced : ' ' ∉ word) (given : word ≠ [])
    (tail : List Char) : hasWord word (' ' :: tail) = hasWord word tail :=
  hasWordFrom_blank unspaced given false [] tail

/-- No word goes on where the next text starts with a blank. -/
theorem hasWord_append {word : List Char} (unspaced : ' ' ∉ word) (given : word ≠ [])
    (cs : List Char) {tail : List Char} (blank : ∀ c, tail.head? = some c → c = ' ') :
    hasWord word (cs ++ tail) = (hasWord word cs || hasWord word tail) := by
  cases tail with
  | nil => simp [hasWord, hasWordFrom]
  | cons c rest =>
    obtain rfl := blank c rfl
    rw [hasWord_blank unspaced given]
    exact hasWordFrom_blank unspaced given false cs rest

/-! ## The scan of a text -/

namespace Segment

/-- Whether the word stands in the segment, which is never so of a quoted one. -/
def hasWord (word : List Char) (segment : Segment) : Bool :=
  segment.plain?.any (RecordSql.hasWord word)

theorem hasWord_eq_false {word : List Char} {q : Char} {segment : Segment}
    (isQuoted : segment.isQuotedBy q = true) : segment.hasWord word = false := by
  cases segment with
  | plain cs given unquoted => simp [isQuotedBy] at isQuoted
  | quoted d isQuote content => rfl

theorem any_dropWhile {word : List Char} {q : Char} (segments : List Segment) :
    (segments.dropWhile (isQuotedBy q)).any (hasWord word) = segments.any (hasWord word) := by
  induction segments with
  | nil => rfl
  | cons segment rest ih =>
    rw [List.dropWhile_cons]
    split
    next isQuoted => rw [ih, List.any_cons, hasWord_eq_false isQuoted, Bool.false_or]
    next => rfl

theorem Apart.dropWhile {segments : List Segment} (apart : Apart segments)
    (p : Segment → Bool) : Apart (segments.dropWhile p) :=
  List.IsChain.suffix apart (List.dropWhile_suffix p)

/-- Behind a plain segment the rest is at its end or starts with a blank. -/
theorem head?_blankQuoted {cs : List Char} {given : cs ≠ []}
    {unquoted : cs.any isQuoteChar = false} {rest : List Segment}
    (apart : Apart (plain cs given unquoted :: rest)) :
    ∀ c, (blankQuoted (rest.flatMap text)).head? = some c → c = ' ' := by
  cases rest with
  | nil => simp [blankQuoted]
  | cons segment more =>
    cases segment with
    | plain other _ _ =>
      have never := (List.isChain_cons_cons.mp apart).1
      simp [plain?] at never
    | quoted q isQuote content =>
      rw [List.flatMap_cons, text_quoted_append,
        blankQuoted_cons_closing isQuote (closing_text isQuote content more)]
      simp

/-- What is left of a text without its quoted segments has the word where a plain one has. -/
theorem hasWord_blankQuoted {word : List Char} (given : word ≠ []) (unspaced : ' ' ∉ word)
    {segments : List Segment} (apart : Apart segments) :
    RecordSql.hasWord word (blankQuoted (segments.flatMap text)) =
      segments.any (hasWord word) := by
  induction length : segments.length using Nat.strongRecOn generalizing segments with
  | ind n ih =>
    cases segments with
    | nil => simp [blankQuoted, RecordSql.hasWord, hasWordFrom]
    | cons segment rest =>
      rw [List.length_cons] at length
      have later : Apart rest := apart.tail
      rw [List.flatMap_cons, List.any_cons]
      cases segment with
      | plain cs nonempty unquoted =>
        have outside : ∀ c ∈ cs, isQuoteChar c = false := by simpa using unquoted
        rw [text, blankQuoted_plain outside,
          hasWord_append unspaced given cs (head?_blankQuoted apart),
          ih rest.length (by omega) later rfl]
        rfl
      | quoted q isQuote content =>
        have shorter : (rest.dropWhile (isQuotedBy q)).length ≤ rest.length :=
          (List.dropWhile_suffix _).length_le
        rw [text_quoted_append, blankQuoted_cons_closing isQuote (closing_text isQuote content rest),
          hasWord_blank unspaced given, ih _ (by omega) (later.dropWhile _) rfl, any_dropWhile]
        rfl

end Segment

/-- In a text of segments WHERE is found exactly where it stands on its own in a plain segment, and
this is what the two patterns say of the text. The quoted segments do not count: neither their
number and places nor what is in them. -/
theorem sqlHasWhere_segments {segments : List Segment} (apart : Segment.Apart segments) :
    let sql := String.ofList (segments.flatMap Segment.text)
    (sqlHasWhere sql = true ↔
      ∃ cs ∈ segments.filterMap Segment.plain?, StandsIn "where".toList cs) ∧
    (sqlHasWhere sql = true ↔ ∃ unquoted,
      Pattern.quotedText.Replaced [' '] ⟨none, sql.toList⟩ unquoted ∧
        (Pattern.word "where".toList).IsFoundIn unquoted) ∧
    ∀ others : List Segment, Segment.Apart others →
      others.filterMap Segment.plain? = segments.filterMap Segment.plain? →
        sqlHasWhere (.ofList (others.flatMap Segment.text)) = sqlHasWhere sql := by
  intro sql
  have given : "where".toList ≠ [] := by decide
  have unspaced : ' ' ∉ "where".toList := by decide
  have found {listed : List Segment} (apart : Segment.Apart listed) :
      sqlHasWhere (.ofList (listed.flatMap Segment.text)) =
        (listed.filterMap Segment.plain?).any (hasWord "where".toList) := by
    have chars : (String.ofList (listed.flatMap Segment.text)).toList =
        listed.flatMap Segment.text := String.toList_ofList
    rw [sqlHasWhere, chars, Segment.hasWord_blankQuoted given unspaced apart, List.any_filterMap]
    refine congrArg listed.any (funext fun segment => ?_)
    cases segment <;> rfl
  refine ⟨?_, Pattern.sqlHasWhere_iff_isFoundIn sql, ?_⟩
  · rw [found apart, List.any_eq_true]
    simp only [hasWord_iff given]
  · intro others apartToo same
    rw [found apartToo, same, found apart]

/-- Neighbours with one quote character, quotes within other quotes, and WHERE in all letter cases,
within quotes, within a word and on its own. -/
theorem sqlHasWhere_segments_neighbours :
    let segments : List Segment :=
      [.plain "DELETE FROM t".toList (by decide) (by decide),
        .quoted '\x27' (by decide) "it's where".toList, .quoted '\x27' (by decide) " \" ".toList,
        .quoted '\x60' (by decide) "where `x".toList,
        .plain "elsewhere\n(Where)".toList (by decide) (by decide), .quoted '"' (by decide) []]
    let emptied : List Segment :=
      [.plain "DELETE FROM t".toList (by decide) (by decide), .quoted '"' (by decide) [],
        .plain "elsewhere\n(Where)".toList (by decide) (by decide)]
    let sql : String := .ofList (segments.flatMap Segment.text)
    sql = "DELETE FROM t\x27it\x27\x27s where\x27\x27 \" \x27`where ``x`elsewhere\n(Where)\"\"" ∧
      Segment.Apart segments ∧ Segment.Apart emptied ∧ sqlHasWhere sql = true ∧
      (∃ cs ∈ segments.filterMap Segment.plain?, StandsIn "where".toList cs) ∧
      sqlHasWhere (.ofList (emptied.flatMap Segment.text)) = sqlHasWhere sql := by
  intro segments emptied sql
  have apart : Segment.Apart segments := by decide
  have apartToo : Segment.Apart emptied := by decide
  obtain ⟨stands, -, independent⟩ := sqlHasWhere_segments apart
  have found : sqlHasWhere sql = true := by decide +kernel
  exact ⟨by decide +kernel, apart, apartToo, found, stands.mp found,
    independent emptied apartToo (by decide)⟩

end RecordSql
