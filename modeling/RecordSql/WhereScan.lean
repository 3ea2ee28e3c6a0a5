import RecordSql.Text.Blank
import RecordSql.Text.LetterCase
import RecordSql.Text.Word
/-! # Looking for conditions in the text of a statement

Whether a text begins like an update or a deletion, and whether the word WHERE stands
somewhere outside quotes. Quoted text runs between two equal quote characters and contains
its own only doubled; a quote character that nothing closes is an ordinary one. -/
set_option autoImplicit false
namespace RecordSql

open Text

def isQuoteChar (c : Char) : Bool := c == '\x27' || c == '"' || c == '\x60'

/-- The rest behind quoted text whose opening quote was read. The text ends at the first
quote that is not doubled; when there is none, at the first of the last doubled pair. -/
def closing (quote : Char) : List Char → Option (List Char)
  | [] => none
  | [c] => if c = quote then some [] else none
  | c :: d :: rest =>
    if c = quote then
      if d = quote then (closing quote rest).or (some (d :: rest)) else some (d :: rest)
    else closing quote (d :: rest)

theorem length_closing_lt {quote : Char} {cs rest : List Char}
    (closed : closing quote cs = some rest) : rest.length < cs.length := by
  fun_induction closing quote cs generalizing rest with
  | case1 => simp at closed
  | case2 => simp_all
  | case3 => simp_all
  | case4 more ih =>
    rw [Option.or_eq_some_iff] at closed
    rcases closed with found | ⟨_, same⟩
    · have shorter := ih found
      simp only [List.length_cons]
      omega
    · simp only [Option.some.injEq] at same
      simp [← same]
  | case5 =>
    simp only [Option.some.injEq] at closed
    simp [← closed]
  | case6 c d more _ ih =>
    have shorter := ih closed
    simp only [List.length_cons] at shorter ⊢
    omega

/-- The text with a blank in place of each quoted part. -/
def blankQuoted : List Char → List Char
  | [] => []
  | c :: rest =>
    if isQuoteChar c then
      match closed : closing c rest with
      | some behind =>
        have := length_closing_lt closed
        ' ' :: blankQuoted behind
      | none => c :: blankQuoted rest
    else c :: blankQuoted rest
termination_by cs => cs.length

/-- Whether the text starts with the word, in capitals or small letters, and the word ends
there. -/
def startsWithWord (word cs : List Char) : Bool :=
  (cs.take word.length).map asciiSmall == word && startsOutsideWord (cs.drop word.length)

/-- Whether the word occurs; `inside` tells that a word character stands before the text. -/
def hasWordFrom (word : List Char) (inside : Bool) : List Char → Bool
  | [] => false
  | c :: rest =>
    (!inside && startsWithWord word (c :: rest)) || hasWordFrom word (isWordChar c) rest

def hasWord (word cs : List Char) : Bool := hasWordFrom word false cs

def sqlHasWhere (sql : String) : Bool := hasWord "where".toList (blankQuoted sql.toList)

def startsLikeChange (sql : String) : Bool :=
  let cs := trimStart sql.toList
  startsWithWord "update".toList cs || startsWithWord "delete".toList cs

end RecordSql
