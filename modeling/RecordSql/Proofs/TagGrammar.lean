import Mathlib.Data.List.DropRight
import Mathlib.Data.List.TakeDrop
import RecordSql.Proofs.ModelDerivation
import RecordSql.Tag.Table
/-! # The grammar of tags

A text is cut at the commas into pieces, in one way only. It holds a tag if it is empty or every piece
has exactly one equals sign; the trimmed texts on its two sides are a key and a value. A key has the
value of the last piece with it, in the list of the entries and in the table. Any other text is refused
for the first piece that is no pair. -/
set_option autoImplicit false
namespace RecordSql

/-! ## Cutting -/

namespace Text

/-- The texts without the separator that give the text with one separator between two. -/
structure IsCutAt (separator : Char) (cs : List Char) (pieces : List (List Char)) : Prop where
  given : pieces ≠ []
  whole : [separator].intercalate pieces = cs
  apart : ∀ piece ∈ pieces, separator ∉ piece

theorem splitOn_eq (separator : Char) (cs : List Char) :
    splitOn separator cs = cs.splitOn separator := by
  induction cs with
  | nil => rfl
  | cons c rest ih =>
    rw [splitOn, List.splitOn_cons_eq_if_modifyHead, ih]
    by_cases here : c = separator
    · simp [here]
    · have other : (c == separator) = false := by simpa using here
      obtain ⟨part, parts, split⟩ :=
        List.exists_cons_of_ne_nil (List.splitOn_ne_nil separator rest)
      rw [if_neg here, other, if_neg Bool.false_ne_true, split]
      rfl

theorem splitOn_ne_nil (separator : Char) (cs : List Char) : splitOn separator cs ≠ [] := by
  rw [splitOn_eq]
  exact List.splitOn_ne_nil separator cs

theorem splitOn_of_notMem {separator : Char} {cs : List Char} (absent : separator ∉ cs) :
    splitOn separator cs = [cs] := by
  rw [splitOn_eq, List.splitOn_eq_singleton absent]

theorem splitOn_append_cons (separator : Char) (front back : List Char) :
    splitOn separator (front ++ separator :: back) =
      splitOn separator front ++ splitOn separator back := by
  rw [splitOn_eq, splitOn_eq, splitOn_eq, List.splitOn_append_cons_self]

theorem notMem_of_mem_splitOn {separator : Char} {cs piece : List Char}
    (member : piece ∈ splitOn separator cs) : separator ∉ piece := by
  induction cs generalizing piece with
  | nil =>
    obtain rfl : piece = [] := by simpa [splitOn] using member
    exact List.not_mem_nil
  | cons c rest ih =>
    rw [splitOn] at member
    by_cases here : c = separator
    · rw [if_pos here] at member
      obtain rfl | later := List.mem_cons.mp member
      · exact List.not_mem_nil
      · exact ih later
    · rw [if_neg here] at member
      obtain ⟨part, parts, split⟩ := List.exists_cons_of_ne_nil (splitOn_ne_nil separator rest)
      rw [split] at member ih
      obtain rfl | later := List.mem_cons.mp member
      · have apart : separator ∉ part := ih List.mem_cons_self
        intro found
        obtain rfl | deeper := List.mem_cons.mp found
        · exact here rfl
        · exact apart deeper
      · exact ih (List.mem_cons_of_mem part later)

/-- There is one way to cut a text. -/
theorem isCutAt_iff {separator : Char} {cs : List Char} {pieces : List (List Char)} :
    IsCutAt separator cs pieces ↔ pieces = splitOn separator cs := by
  constructor
  · intro cut
    rw [splitOn_eq, ← cut.whole, List.splitOn_intercalate separator cut.apart cut.given]
  · rintro rfl
    refine ⟨splitOn_ne_nil separator cs, ?_, fun piece => notMem_of_mem_splitOn⟩
    rw [splitOn_eq, List.intercalate_splitOn]

theorem length_splitOn (separator : Char) (cs : List Char) :
    (splitOn separator cs).length = cs.count separator + 1 := by
  induction cs with
  | nil => rfl
  | cons c rest ih =>
    rw [splitOn]
    by_cases here : c = separator
    · rw [if_pos here, List.length_cons, ih, here, List.count_cons_self]
    · rw [if_neg here, List.count_cons_of_ne here, ← ih]
      obtain ⟨part, parts, split⟩ := List.exists_cons_of_ne_nil (splitOn_ne_nil separator rest)
      rw [split]
      rfl

/-! ## Trimming -/

/-- The core of a text: blanks stand around it, and no blank at its ends. -/
structure IsTrimmed (cs core : List Char) : Prop where
  around : ∃ front back, cs = front ++ core ++ back ∧ (∀ c ∈ front, isBlank c = true) ∧
    ∀ c ∈ back, isBlank c = true
  first : ∀ c ∈ core.head?, isBlank c = false
  last : ∀ c ∈ core.getLast?, isBlank c = false

def trimEnd (cs : List Char) : List Char := cs.rdropWhile isBlank

theorem trimChars_eq (cs : List Char) : trimChars cs = trimEnd (trimStart cs) := rfl

theorem trimStart_cons {c : Char} (solid : isBlank c = false) (back : List Char) :
    trimStart (c :: back) = c :: back := List.dropWhile_cons_of_neg (by simp [solid])

theorem trimStart_blank {front : List Char} (blank : ∀ b ∈ front, isBlank b = true)
    (cs : List Char) : trimStart (front ++ cs) = trimStart cs :=
  List.dropWhile_append_of_pos blank

theorem trimEnd_blank {back : List Char} (blank : ∀ b ∈ back, isBlank b = true)
    (cs : List Char) : trimEnd (cs ++ back) = trimEnd cs := by
  rw [trimEnd, trimEnd, List.rdropWhile, List.reverse_append,
    List.dropWhile_append_of_pos (by simpa using blank), List.rdropWhile]

/-- Trimming gives the one core that a text has. -/
theorem isTrimmed_iff {cs core : List Char} : IsTrimmed cs core ↔ core = trimChars cs := by
  constructor
  · rintro ⟨⟨front, back, rfl, blankFront, blankBack⟩, first, last⟩
    rw [trimChars_eq, List.append_assoc, trimStart_blank blankFront]
    cases core with
    | nil =>
      have nothing : trimStart back = [] := List.dropWhile_eq_nil_iff.mpr blankBack
      rw [List.nil_append, nothing]
      rfl
    | cons c rest =>
      rw [List.cons_append, trimStart_cons (first c rfl), ← List.cons_append, trimEnd_blank blankBack]
      refine (List.rdropWhile_eq_self_iff.mpr fun given => ?_).symm
      rw [last _ (List.getLast?_eq_some_getLast given)]
      exact Bool.false_ne_true
  · rintro rfl
    refine ⟨⟨cs.takeWhile isBlank, (trimStart cs).rtakeWhile isBlank, ?_, ?_, ?_⟩, ?_, ?_⟩
    · rw [trimChars_eq, trimEnd, List.append_assoc, List.rdropWhile_append_rtakeWhile]
      exact List.takeWhile_append_dropWhile.symm
    · intro c member
      exact List.mem_takeWhile_imp member
    · intro c member
      exact List.mem_rtakeWhile_imp member
    · intro c here
      have start : trimChars cs <+: trimStart cs := List.rdropWhile_prefix isBlank _
      obtain ⟨back, split⟩ := start
      have first := List.head?_dropWhile_not isBlank cs
      rw [← trimStart, ← split, List.head?_append, here] at first
      simpa using first
    · intro c here
      have given : trimChars cs ≠ [] := by
        intro nothing
        rw [nothing] at here
        contradiction
      have solid := List.rdropWhile_last_not isBlank (trimStart cs) given
      rw [List.getLast?_eq_some_getLast given, Option.mem_some] at here
      rw [← here]
      exact Bool.eq_false_iff.mpr solid

theorem IsTrimmed.surrounded {cs core front back : List Char} (trimmed : IsTrimmed cs core)
    (blankFront : ∀ c ∈ front, isBlank c = true) (blankBack : ∀ c ∈ back, isBlank c = true) :
    IsTrimmed (front ++ cs ++ back) core := by
  obtain ⟨⟨before, behind, rfl, blankBefore, blankBehind⟩, first, last⟩ := trimmed
  refine ⟨⟨front ++ before, behind ++ back, by simp, ?_, ?_⟩, first, last⟩
  · exact List.forall_mem_append.mpr ⟨blankFront, blankBefore⟩
  · exact List.forall_mem_append.mpr ⟨blankBehind, blankBack⟩

/-- Blanks at the start may be taken off first. -/
theorem trimChars_trimStart (cs : List Char) : trimChars (trimStart cs) = trimChars cs := by
  have core : IsTrimmed (trimStart cs) (trimChars (trimStart cs)) := isTrimmed_iff.mpr rfl
  have whole := core.surrounded (fun c => List.mem_takeWhile_imp (p := isBlank) (l := cs))
    (List.forall_mem_nil _)
  rw [List.append_nil, trimStart, List.takeWhile_append_dropWhile] at whole
  exact isTrimmed_iff.mp whole

/-- Blanks at the end may be taken off first. -/
theorem trimChars_trimEnd (cs : List Char) : trimChars (trimEnd cs) = trimChars cs := by
  have core : IsTrimmed (trimEnd cs) (trimChars (trimEnd cs)) := isTrimmed_iff.mpr rfl
  have whole := core.surrounded (List.forall_mem_nil _)
    (fun c => List.mem_rtakeWhile_imp (p := isBlank) (l := cs))
  rw [List.nil_append, trimEnd, List.rdropWhile_append_rtakeWhile] at whole
  exact isTrimmed_iff.mp whole

theorem trimStart_append_cons (front : List Char) {c : Char} (solid : isBlank c = false)
    (back : List Char) : trimStart (front ++ c :: back) = trimStart front ++ c :: back := by
  rw [trimStart, List.dropWhile_append, ← trimStart]
  split
  next nothing =>
    rw [List.isEmpty_iff.mp nothing]
    exact trimStart_cons solid back
  next => rfl

theorem trimEnd_append_cons (front : List Char) {c : Char} (solid : isBlank c = false)
    (back : List Char) : trimEnd (front ++ c :: back) = front ++ c :: trimEnd back := by
  have turned : (front ++ c :: back).reverse = back.reverse ++ c :: front.reverse := by simp
  rw [trimEnd, List.rdropWhile, turned, ← trimStart, trimStart_append_cons _ solid]
  simp [trimEnd, List.rdropWhile, trimStart]

theorem trimChars_append_cons (front : List Char) {c : Char} (solid : isBlank c = false)
    (back : List Char) : trimChars (front ++ c :: back) = trimStart front ++ c :: trimEnd back := by
  rw [trimChars_eq, trimStart_append_cons front solid, trimEnd_append_cons _ solid]

/-- Only blanks are taken off. -/
theorem count_trimChars {c : Char} (solid : isBlank c = false) (cs : List Char) :
    (trimChars cs).count c = cs.count c := by
  obtain ⟨front, back, split, blankFront, blankBack⟩ :=
    (isTrimmed_iff.mpr (Eq.refl (trimChars cs))).around
  have none {blanks : List Char} (blank : ∀ b ∈ blanks, isBlank b = true) : blanks.count c = 0 := by
    apply List.count_eq_zero_of_not_mem
    intro member
    rw [blank c member] at solid
    contradiction
  conv => right; rw [split]
  rw [List.count_append, List.count_append, none blankFront, none blankBack]
  omega

end Text

open Text

namespace Tag

/-! ## Pieces -/

/-- The piece has one equals sign, and the key and the value are what stands on its sides, without
the blanks around them. -/
def IsPair (piece : List Char) (key value : String) : Prop :=
  ∃ left right, piece = left ++ '=' :: right ∧ '=' ∉ left ∧ '=' ∉ right ∧
    IsTrimmed left key.toList ∧ IsTrimmed right value.toList

/-- What a piece without one equals sign is refused with: the piece without the blanks around it. -/
def Refusal (piece : List Char) (err : Error) : Prop :=
  piece.count '=' ≠ 1 ∧ ∃ shown, err = .invalidTagContent shown ∧ IsTrimmed piece shown.toList

section Pieces

variable {piece : List Char} {entry : String × String} {err : Error}

theorem exists_sides (one : piece.count '=' = 1) :
    ∃ left right, piece = left ++ '=' :: right ∧ '=' ∉ left ∧ '=' ∉ right := by
  have member : '=' ∈ piece := by
    rw [← List.count_pos_iff, one]
    exact Nat.one_pos
  obtain ⟨left, right, rfl⟩ := List.append_of_mem member
  rw [List.count_append, List.count_cons_self] at one
  refine ⟨left, right, rfl, ?_, ?_⟩
  · rw [← List.count_eq_zero]
    omega
  · rw [← List.count_eq_zero]
    omega

theorem parsePiece_sides {left right : List Char} (before : '=' ∉ left) (behind : '=' ∉ right) :
    parsePiece (left ++ '=' :: right) =
      .ok (.ofList (trimChars left), .ofList (trimChars right)) := by
  have start : '=' ∉ trimStart left := fun member =>
    before ((List.dropWhile_suffix isBlank).subset member)
  have finish : '=' ∉ trimEnd right := fun member =>
    behind ((List.rdropWhile_prefix isBlank right).subset member)
  rw [parsePiece, trimChars_append_cons left (by decide), splitOn_append_cons,
    splitOn_of_notMem start, splitOn_of_notMem finish, List.singleton_append]
  simp only [trimChars_trimStart, trimChars_trimEnd]

theorem parsePiece_malformed (other : piece.count '=' ≠ 1) :
    parsePiece piece = .error (.invalidTagContent (.ofList (trimChars piece))) := by
  have parts := length_splitOn '=' (trimChars piece)
  rw [count_trimChars (by decide)] at parts
  rw [parsePiece]
  split
  next key value split =>
    rw [split] at parts
    simp only [List.length_cons, List.length_nil] at parts
    omega
  next => rfl

theorem isTrimmed_toList {cs : List Char} {s : String} :
    IsTrimmed cs s.toList ↔ s = .ofList (trimChars cs) := by
  rw [isTrimmed_iff, ← String.toList_inj, String.toList_ofList]

theorem parsePiece_eq_ok_iff : parsePiece piece = .ok entry ↔ IsPair piece entry.1 entry.2 := by
  constructor
  · intro read
    by_cases one : piece.count '=' = 1
    · obtain ⟨left, right, rfl, before, behind⟩ := exists_sides one
      rw [parsePiece_sides before behind] at read
      obtain rfl := Except.ok.inj read
      exact ⟨left, right, rfl, before, behind, isTrimmed_toList.mpr rfl, isTrimmed_toList.mpr rfl⟩
    · rw [parsePiece_malformed one] at read
      contradiction
  · rintro ⟨left, right, rfl, before, behind, key, value⟩
    rw [parsePiece_sides before behind, ← isTrimmed_toList.mp key, ← isTrimmed_toList.mp value]

theorem parsePiece_eq_error_iff : parsePiece piece = .error err ↔ Refusal piece err := by
  constructor
  · intro read
    by_cases one : piece.count '=' = 1
    · obtain ⟨left, right, rfl, before, behind⟩ := exists_sides one
      rw [parsePiece_sides before behind] at read
      contradiction
    · rw [parsePiece_malformed one] at read
      exact ⟨one, _, (Except.error.inj read).symm, isTrimmed_toList.mpr rfl⟩
  · rintro ⟨other, shown, rfl, trimmed⟩
    rw [parsePiece_malformed other, ← isTrimmed_toList.mp trimmed]

theorem exists_parsePiece_iff : (∃ entry, parsePiece piece = .ok entry) ↔ piece.count '=' = 1 := by
  constructor
  · rintro ⟨entry, read⟩
    apply Classical.byContradiction
    intro other
    rw [parsePiece_malformed other] at read
    contradiction
  · intro one
    obtain ⟨left, right, rfl, before, behind⟩ := exists_sides one
    exact ⟨_, parsePiece_sides before behind⟩

end Pieces

/-! ## Lists of pieces -/

/-- The entries are the pairs of the pieces, in their order. -/
abbrev ArePairs (pieces : List (List Char)) (tag : Tag) : Prop :=
  List.Forall₂ (fun piece entry => IsPair piece entry.1 entry.2) pieces tag

section Lists

variable {pieces : List (List Char)} {tag : Tag} {key value : String} {err : Error}

theorem parsePieces_cons (piece : List Char) (rest : List (List Char)) :
    parsePieces (piece :: rest) =
      (parsePiece piece).bind fun entry => (parsePieces rest).map (entry :: ·) := by
  rw [parsePieces]
  cases parsePiece piece with
  | error bad => rfl
  | ok entry => cases parsePieces rest <;> rfl

theorem parsePieces_eq_ok_iff : parsePieces pieces = .ok tag ↔ ArePairs pieces tag := by
  induction pieces generalizing tag with
  | nil =>
    rw [ArePairs, List.forall₂_nil_left_iff]
    exact ⟨fun read => (Except.ok.inj read).symm, fun empty => congrArg Except.ok empty.symm⟩
  | cons piece rest ih =>
    rw [parsePieces_cons, ArePairs, List.forall₂_cons_left_iff]
    constructor
    · intro read
      cases first : parsePiece piece with
      | error bad =>
        rw [first] at read
        contradiction
      | ok entry =>
        cases later : parsePieces rest with
        | error bad =>
          rw [first, later] at read
          contradiction
        | ok entries =>
          rw [first, later] at read
          exact ⟨entry, entries, parsePiece_eq_ok_iff.mp first, ih.mp later,
            (Except.ok.inj read).symm⟩
    · rintro ⟨entry, entries, pair, others, rfl⟩
      rw [parsePiece_eq_ok_iff.mpr pair, ih.mpr others]
      rfl

theorem parsePieces_eq_error_iff : parsePieces pieces = .error err ↔
    First (fun piece => piece.count '=' = 1) (Refusal · err) pieces := by
  induction pieces with
  | nil => simp [parsePieces, first_nil]
  | cons piece rest ih =>
    rw [parsePieces_cons, first_cons, ← ih, ← exists_parsePiece_iff, ← parsePiece_eq_error_iff]
    cases parsePiece piece with
    | error bad => simp [Except.bind]
    | ok entry => cases parsePieces rest <;> simp [Except.bind, Except.map]

theorem exists_parsePieces_iff :
    (∃ tag, parsePieces pieces = .ok tag) ↔ ∀ piece ∈ pieces, piece.count '=' = 1 := by
  induction pieces with
  | nil => simp [parsePieces]
  | cons piece rest ih =>
    rw [parsePieces_cons, List.forall_mem_cons, ← ih, ← exists_parsePiece_iff]
    cases parsePiece piece with
    | error bad => simp [Except.bind]
    | ok entry => cases parsePieces rest <;> simp [Except.bind, Except.map]

/-! ## The last piece for a key -/

/-- The key and the value stand in a piece, and no piece behind it has the key. -/
def IsLastPair (pieces : List (List Char)) (key value : String) : Prop :=
  ∃ front piece back, pieces = front ++ piece :: back ∧ IsPair piece key value ∧
    ∀ other ∈ back, ∀ v, ¬ IsPair other key v

theorem isLastPair_cons {piece : List Char} {rest : List (List Char)} :
    IsLastPair (piece :: rest) key value ↔
      IsLastPair rest key value ∨
        IsPair piece key value ∧ ∀ other ∈ rest, ∀ v, ¬ IsPair other key v := by
  constructor
  · rintro ⟨front, found, back, split, pair, none⟩
    rcases List.cons_eq_append_iff.mp split with ⟨rfl, same⟩ | ⟨more, rfl, rfl⟩
    · obtain ⟨rfl, rfl⟩ := List.cons.inj same
      exact .inr ⟨pair, none⟩
    · exact .inl ⟨more, found, back, rfl, pair, none⟩
  · rintro (⟨front, found, back, rfl, pair, none⟩ | ⟨pair, none⟩)
    · exact ⟨piece :: front, found, back, rfl, pair, none⟩
    · exact ⟨[], piece, rest, rfl, pair, none⟩

theorem get?_cons (entry : String × String) (rest : Tag) (key : String) :
    get? (entry :: rest) key =
      (get? rest key).or (if entry.1 = key then some entry.2 else none) := by
  rw [get?, get?, List.findRev?]
  cases rest.findRev? fun entry => entry.1 == key with
  | some found => rfl
  | none => by_cases own : entry.1 = key <;> simp [own]

theorem IsPair.unique {piece : List Char} {entry : String × String}
    (one : IsPair piece entry.1 entry.2) (other : IsPair piece key value) :
    entry.1 = key ∧ entry.2 = value := by
  have read := parsePiece_eq_ok_iff.mpr one
  have again := (@parsePiece_eq_ok_iff piece (key, value)).mpr other
  rw [again] at read
  obtain rfl := Except.ok.inj read
  exact ⟨rfl, rfl⟩

theorem get?_eq_none_iff (read : ArePairs pieces tag) :
    get? tag key = none ↔ ∀ piece ∈ pieces, ∀ v, ¬ IsPair piece key v := by
  induction read with
  | nil => simp [get?]
  | @cons piece entry rest tag pair _ ih =>
    rw [get?_cons, Option.or_eq_none_iff, ih, List.forall_mem_cons, and_comm]
    refine and_congr_left fun _ => ?_
    by_cases own : entry.1 = key
    · rw [if_pos own]
      subst own
      constructor
      · intro same
        contradiction
      · intro none
        exact absurd pair (none entry.2)
    · rw [if_neg own]
      refine ⟨?_, fun _ => rfl⟩
      intro _ v other
      exact own (pair.unique other).1

theorem get?_eq_some_iff (read : ArePairs pieces tag) :
    get? tag key = some value ↔ IsLastPair pieces key value := by
  induction read with
  | nil => simp [get?, IsLastPair]
  | @cons piece entry rest tag pair others ih =>
    rw [get?_cons, isLastPair_cons, Option.or_eq_some_iff, ih, get?_eq_none_iff others]
    refine or_congr_right ?_
    by_cases own : entry.1 = key
    · rw [if_pos own]
      subst own
      constructor
      · rintro ⟨none, same⟩
        obtain rfl := Option.some.inj same
        exact ⟨pair, none⟩
      · rintro ⟨again, none⟩
        exact ⟨none, congrArg some (pair.unique again).2⟩
    · rw [if_neg own]
      constructor
      · rintro ⟨-, same⟩
        contradiction
      · rintro ⟨again, -⟩
        exact absurd (pair.unique again).1 own

end Lists

end Tag

/-! ## Texts -/

namespace TagTable

theorem enterAll_eq (table : TagTable) (pieces : List (List Char)) :
    table.enterAll pieces = (Tag.parsePieces pieces).map fun tag =>
      tag.foldl (fun table entry => table.insert entry.1 entry.2) table := by
  induction pieces generalizing table with
  | nil => rfl
  | cons piece rest ih =>
    rw [enterAll, Tag.parsePieces_cons]
    cases Tag.parsePiece piece with
    | error bad => rfl
    | ok entry =>
      dsimp only
      rw [ih]
      cases Tag.parsePieces rest <;> rfl

theorem parse_eq (text : String) : parse text = (Tag.parse text).map ofTag := by
  rw [parse, Tag.parse]
  split
  · rfl
  · exact enterAll_eq ∅ _

end TagTable

namespace Tag

variable {text key value : String} {tag : Tag}

theorem parse_of_ne_empty (given : text ≠ "") :
    parse text = parsePieces (splitOn ',' text.toList) := by
  rw [parse, if_neg (by simpa using given)]

/-- The one piece of the empty text is no pair, and its tag has no entry. -/
theorem not_isPair_of_empty {piece : List Char} (member : piece ∈ splitOn ',' "".toList) :
    ¬ IsPair piece key value := by
  obtain rfl : piece = [] := by simpa [splitOn] using member
  rintro ⟨left, right, split, -⟩
  simp at split

theorem get?_parse_eq_none_iff (read : parse text = .ok tag) : get? tag key = none ↔
    ∀ piece ∈ splitOn ',' text.toList, ∀ v, ¬ IsPair piece key v := by
  by_cases empty : text = ""
  · subst empty
    obtain rfl := Except.ok.inj read
    exact ⟨fun _ piece member v => not_isPair_of_empty member, fun _ => rfl⟩
  · rw [parse_of_ne_empty empty] at read
    exact get?_eq_none_iff (parsePieces_eq_ok_iff.mp read)

theorem get?_parse_eq_some_iff (read : parse text = .ok tag) :
    get? tag key = some value ↔ IsLastPair (splitOn ',' text.toList) key value := by
  by_cases empty : text = ""
  · subst empty
    obtain rfl := Except.ok.inj read
    constructor
    · intro found
      contradiction
    · rintro ⟨front, piece, back, split, pair, -⟩
      have member : piece ∈ splitOn ',' "".toList := by
        rw [split]
        exact List.mem_append_right front List.mem_cons_self
      exact absurd pair (not_isPair_of_empty member)
  · rw [parse_of_ne_empty empty] at read
    exact get?_eq_some_iff (parsePieces_eq_ok_iff.mp read)

/-- A text is cut at its commas in one way. It holds a tag exactly if it is empty or each piece has
one equals sign; then a key has the value of the last piece with it, in the entries and in the table,
and no other key has one. Otherwise it is refused for the first piece that has another number of equals
signs, which the error shows without the blanks around it. -/
theorem parse_grammar (text : String) :
    ∃ pieces, IsCutAt ',' text.toList pieces ∧
      (∀ others, IsCutAt ',' text.toList others → others = pieces) ∧
      ((∃ tag, parse text = .ok tag) ↔ text = "" ∨ ∀ piece ∈ pieces, piece.count '=' = 1) ∧
      (∀ tag, parse text = .ok tag → ∀ key,
        (∀ value, get? tag key = some value ↔ IsLastPair pieces key value) ∧
        (get? tag key = none ↔ ∀ piece ∈ pieces, ∀ value, ¬ IsPair piece key value)) ∧
      (∀ err, parse text = .error err ↔
        text ≠ "" ∧ First (fun piece => piece.count '=' = 1) (Refusal · err) pieces) ∧
      TagTable.parse text = (parse text).map TagTable.ofTag ∧
      ∀ (tag : Tag) (key : String), (TagTable.ofTag tag)[key]? = get? tag key := by
  refine ⟨splitOn ',' text.toList, isCutAt_iff.mpr rfl, fun others => isCutAt_iff.mp, ?_, ?_, ?_,
    TagTable.parse_eq text, TagTable.getElem?_ofTag⟩
  · by_cases empty : text = ""
    · subst empty
      exact ⟨fun _ => .inl rfl, fun _ => ⟨[], rfl⟩⟩
    · rw [parse_of_ne_empty empty, exists_parsePieces_iff, or_iff_right empty]
  · intro tag read key
    exact ⟨fun value => get?_parse_eq_some_iff read, get?_parse_eq_none_iff read⟩
  · intro err
    by_cases empty : text = ""
    · subst empty
      constructor
      · intro refused
        contradiction
      · rintro ⟨given, -⟩
        exact absurd rfl given
    · rw [parse_of_ne_empty empty, parsePieces_eq_error_iff, and_iff_right empty]

/-- A repeated key with blanks around it, and two malformed pieces. -/
example : parse " a = 1,b=2 , a=3" = .ok [("a", "1"), ("b", "2"), ("a", "3")] ∧
    parse "a=1, b ,c=d=e" = .error (.invalidTagContent "b") := by
  decide +kernel

end Tag

end RecordSql
