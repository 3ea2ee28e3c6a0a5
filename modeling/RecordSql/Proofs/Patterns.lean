import RecordSql.Proofs.QuotedText
/-! # The patterns behind the scan

A pattern tells where a match that starts at a place of a text may end, the preferred end first: that
of the first of two alternatives, and of a repetition with as many rounds as possible. A match takes
the first end, and the search for matches goes from left to right. The scan of a text is what two
patterns say: quoted text, in whose content the quote is doubled, and the word WHERE between word
boundaries. -/
set_option autoImplicit false
namespace RecordSql

open Text

/-! ## Patterns -/

/-- A place in a text: the character before it and the characters behind it. -/
structure Place where
  last : Option Char
  rest : List Char

inductive Pattern
  /-- One of these characters. -/
  | one (chars : Char → Bool)
  /-- A place with a word character on one side and none on the other. -/
  | boundary
  | follow (first second : Pattern)
  | either (first second : Pattern)
  | many (body : Pattern)

/-- The ends of a repetition, more rounds first; `rounds` are enough if each takes a character. -/
def greedy (step : Place → List Place) : Nat → Place → List Place
  | 0, x => [x]
  | rounds + 1, x => (step x).flatMap (greedy step rounds) ++ [x]

namespace Pattern

/-- Where a match that starts at a place may end, the preferred end first. -/
def ends : Pattern → Place → List Place
  | one chars, x =>
    match x.rest with
    | [] => []
    | c :: rest => if chars c then [⟨some c, rest⟩] else []
  | boundary, x => if x.last.any isWordChar = x.rest.head?.any isWordChar then [] else [x]
  | follow first second, x => (first.ends x).flatMap second.ends
  | either first second, x => first.ends x ++ second.ends x
  | many body, x => greedy body.ends x.rest.length x

/-- What a text becomes when each match, from left to right, is replaced. -/
inductive Replaced (p : Pattern) (replacement : List Char) : Place → List Char → Prop
  | done {last : Option Char} (missed : p.ends ⟨last, []⟩ = []) : Replaced p replacement ⟨last, []⟩ []
  | hit {x y : Place} {result : List Char} (found : (p.ends x).head? = some y)
      (behind : Replaced p replacement y result) : Replaced p replacement x (replacement ++ result)
  | miss {last : Option Char} {c : Char} {rest result : List Char}
      (missed : p.ends ⟨last, c :: rest⟩ = [])
      (behind : Replaced p replacement ⟨some c, rest⟩ result) :
      Replaced p replacement ⟨last, c :: rest⟩ (c :: result)

theorem Replaced.unique {p : Pattern} {replacement result other : List Char} {x : Place}
    (first : p.Replaced replacement x result) (second : p.Replaced replacement x other) :
    result = other := by
  induction first generalizing other with
  | done missed =>
    cases second with
    | done _ => rfl
    | hit found _ => simp [missed] at found
  | hit found behind ih =>
    cases second with
    | done missed => simp [missed] at found
    | hit foundToo behindToo =>
      obtain rfl := Option.some.inj (found.symm.trans foundToo)
      rw [ih behindToo]
    | miss missed _ => simp [missed] at found
  | miss missed behind ih =>
    cases second with
    | hit found _ => simp [missed] at found
    | miss _ behindToo => rw [ih behindToo]

def IsFoundIn (p : Pattern) (cs : List Char) : Prop :=
  ∃ front behind, cs = front ++ behind ∧ p.ends ⟨front.getLast?, behind⟩ ≠ []

/-! ## Quoted text -/

/-- What stands between two quotes: any other character, or two quotes. -/
def content (q : Char) : Pattern :=
  either (one fun c => c != q) (follow (one fun c => c == q) (one fun c => c == q))

def quotedBy (q : Char) : Pattern :=
  follow (one fun c => c == q) (follow (many (content q)) (one fun c => c == q))

def quotedText : Pattern := either (quotedBy '\x27') (either (quotedBy '"') (quotedBy '\x60'))

section

attribute [local simp] ends

theorem ends_content_other {q c : Char} (other : c ≠ q) (last : Option Char) (rest : List Char) :
    (content q).ends ⟨last, c :: rest⟩ = [⟨some c, rest⟩] := by
  simp [content, other]

theorem ends_content_doubled (q : Char) (last : Option Char) (rest : List Char) :
    (content q).ends ⟨last, q :: q :: rest⟩ = [⟨some q, rest⟩] := by
  simp [content]

theorem ends_content_single {q : Char} {rest : List Char} (last : Option Char)
    (apart : rest.head? ≠ some q) : (content q).ends ⟨last, q :: rest⟩ = [] := by
  cases rest with
  | nil => simp [content]
  | cons d more =>
    have other : d ≠ q := by simpa using apart
    simp [content, other]

theorem ends_one_of (q : Char) (last : Option Char) (rest : List Char) :
    (one fun c => c == q).ends ⟨last, q :: rest⟩ = [⟨some q, rest⟩] := by
  simp

theorem ends_one_other {q c : Char} (other : c ≠ q) (last : Option Char) (rest : List Char) :
    (one fun c => c == q).ends ⟨last, c :: rest⟩ = [] := by
  simp [other]

end

def closed (q : Char) (rounds : Nat) (x : Place) : List Place :=
  (greedy (content q).ends rounds x).flatMap (one fun c => c == q).ends

theorem closed_nil (q : Char) (rounds : Nat) (last : Option Char) :
    closed q rounds ⟨last, []⟩ = [] := by
  cases rounds <;> simp [closed, greedy, content, ends]

theorem closed_succ (q : Char) (rounds : Nat) (x : Place) :
    closed q (rounds + 1) x =
      ((content q).ends x).flatMap (closed q rounds) ++ (one fun c => c == q).ends x := by
  simp [closed, greedy, List.flatMap_assoc]
  rfl

/-- The preferred end of a content and its closing quote is the one that `closing` finds. -/
theorem head?_closed {q : Char} {cs : List Char} {rounds : Nat} (enough : cs.length ≤ rounds)
    (last : Option Char) : (closed q rounds ⟨last, cs⟩).head?.map Place.rest = closing q cs := by
  -- One case for each equation of `closing`; its fallback is the end behind the repetition.
  fun_induction closing q cs generalizing last rounds with
  | case1 => rw [closed_nil]; rfl
  | case2 =>
    obtain ⟨more, rfl⟩ := Nat.exists_eq_add_of_le' enough
    rw [List.length_singleton, closed_succ, ends_content_single last (by simp), ends_one_of]
    rfl
  | case3 c other =>
    obtain ⟨more, rfl⟩ := Nat.exists_eq_add_of_le' enough
    rw [List.length_singleton, closed_succ, ends_content_other other, ends_one_other other,
      List.flatMap_singleton, closed_nil]
    rfl
  | case4 rest ih =>
    obtain ⟨more, rfl⟩ := Nat.exists_eq_add_of_le' enough
    have inner : (closed q (more + rest.length + 1) ⟨some q, rest⟩).head?.map Place.rest =
        closing q rest := ih (by omega) (some q)
    rw [List.length_cons, List.length_cons, ← Nat.add_assoc, closed_succ, ends_content_doubled,
      ends_one_of, List.flatMap_singleton, List.head?_append, Option.map_or, ← Nat.add_assoc, inner]
    rfl
  | case5 d rest other =>
    obtain ⟨more, rfl⟩ := Nat.exists_eq_add_of_le' enough
    rw [List.length_cons, ← Nat.add_assoc, closed_succ,
      ends_content_single last (by simpa using other), ends_one_of]
    rfl
  | case6 c d rest other ih =>
    obtain ⟨more, rfl⟩ := Nat.exists_eq_add_of_le' enough
    have inner : (closed q (more + (d :: rest).length) ⟨some c, d :: rest⟩).head?.map Place.rest =
        closing q (d :: rest) := ih (Nat.le_add_left ..) (some c)
    rw [List.length_cons, ← Nat.add_assoc, closed_succ, ends_content_other other,
      ends_one_other other, List.flatMap_singleton, List.append_nil, inner]

theorem ends_quotedBy (q : Char) (last : Option Char) (c : Char) (rest : List Char) :
    (quotedBy q).ends ⟨last, c :: rest⟩ =
      if c = q then closed q rest.length ⟨some c, rest⟩ else [] := by
  by_cases same : c = q
  · subst same
    rw [if_pos rfl, quotedBy, ends, ends_one_of, List.flatMap_singleton]
    rfl
  · rw [if_neg same, quotedBy, ends, ends_one_other same]
    rfl

/-- A match of quoted text ends behind the quote that closes it. -/
theorem head?_ends_quotedText (last : Option Char) (c : Char) (rest : List Char) :
    (quotedText.ends ⟨last, c :: rest⟩).head?.map Place.rest =
      if isQuoteChar c then closing c rest else none := by
  have inner (q : Char) := head?_closed (q := q) (Nat.le_refl rest.length) (some q)
  simp only [quotedText, ends, ends_quotedBy]
  by_cases first : c = '\x27'
  · subst first
    simp [isQuoteChar, inner]
  by_cases second : c = '"'
  · subst second
    simp [isQuoteChar, inner]
  by_cases third : c = '\x60'
  · subst third
    simp [isQuoteChar, inner]
  · simp [isQuoteChar, first, second, third]

theorem blankQuoted_cons_unclosed {c : Char} {rest : List Char}
    (unclosed : (if isQuoteChar c then closing c rest else none) = none) :
    blankQuoted (c :: rest) = c :: blankQuoted rest := by
  rw [blankQuoted]
  split
  next isQuote =>
    rw [if_pos isQuote] at unclosed
    split
    next behind closed => simp [unclosed] at closed
    next => rfl
  next => rfl

/-- Blanking quoted text is replacing each match of quoted text by a blank. -/
theorem replaced_blankQuoted (last : Option Char) (cs : List Char) :
    quotedText.Replaced [' '] ⟨last, cs⟩ (blankQuoted cs) := by
  induction length : cs.length using Nat.strongRecOn generalizing cs last with
  | ind n ih =>
    cases cs with
    | nil =>
      rw [blankQuoted]
      exact .done rfl
    | cons c rest =>
      rw [List.length_cons] at length
      have first := head?_ends_quotedText last c rest
      cases found : (quotedText.ends ⟨last, c :: rest⟩).head? with
      | none =>
        rw [found, Option.map_none] at first
        rw [blankQuoted_cons_unclosed first.symm]
        exact .miss (List.head?_eq_none_iff.mp found) (ih rest.length (by omega) (some c) rest rfl)
      | some y =>
        obtain ⟨before, behind⟩ := y
        rw [found, Option.map_some] at first
        split at first
        next isQuote =>
          have shorter : behind.length < rest.length := length_closing_lt first.symm
          rw [blankQuoted_cons_closing isQuote first.symm]
          exact .hit found (ih behind.length (by omega) before behind rfl)
        next => simp at first

end Pattern

/-! ## Words -/

/-- The word stands in the text on its own, in any letter case: what is next to it on either
side is no word character. -/
def StandsIn (word cs : List Char) : Prop :=
  ∃ front middle back, cs = front ++ middle ++ back ∧ middle.map Char.toLower = word ∧
    (∀ c, front.getLast? = some c → isWordChar c = false) ∧
    (∀ c, back.head? = some c → isWordChar c = false)

theorem asciiSmall_of_le {c : Char} (beyond : 128 ≤ c.toNat) : asciiSmall c = c := by
  have other : isAsciiCapital c = false := by
    rw [isAsciiCapital, Bool.and_eq_false_iff, decide_eq_false_iff_not, decide_eq_false_iff_not]
    omega
  rw [asciiSmall, other, if_neg Bool.false_ne_true]

theorem asciiSmall_eq_toLower (c : Char) : asciiSmall c = c.toLower := by
  by_cases ascii : c.toNat < 128
  · have each : ∀ n : Nat, n < 128 → asciiSmall (.ofNat n) = (Char.ofNat n).toLower := by
      decide +kernel
    have here := each c.toNat ascii
    rwa [Char.ofNat_toNat] at here
  · have other : ¬ (c.val ≥ 'A'.val ∧ c.val ≤ 'Z'.val) := by
      rintro ⟨-, low⟩
      have bound : c.toNat ≤ 90 := low
      omega
    rw [asciiSmall_of_le (by omega)]
    delta Char.toLower
    rw [dif_neg other]

theorem startsOutsideWord_iff {cs : List Char} :
    startsOutsideWord cs = true ↔ ∀ c, cs.head? = some c → isWordChar c = false := by
  cases cs with
  | nil => simp [startsOutsideWord]
  | cons c rest => simp [startsOutsideWord]

theorem startsWithWord_iff {word cs : List Char} :
    startsWithWord word cs = true ↔
      ∃ middle back, cs = middle ++ back ∧ middle.map asciiSmall = word ∧
        startsOutsideWord back = true := by
  simp only [startsWithWord, Bool.and_eq_true, beq_iff_eq]
  constructor
  · rintro ⟨same, outside⟩
    exact ⟨_, _, (List.take_append_drop word.length cs).symm, same, outside⟩
  · rintro ⟨middle, back, rfl, rfl, outside⟩
    simpa using outside

theorem getLast?_cons_elim (inside : Bool) (c : Char) (front : List Char) :
    (c :: front).getLast?.elim inside isWordChar =
      front.getLast?.elim (isWordChar c) isWordChar := by
  rw [List.getLast?_cons, Option.elim_some]
  cases front.getLast? <;> rfl

/-- The word is found behind every front that does not end within another word. -/
theorem hasWordFrom_iff {word : List Char} (given : word ≠ []) (inside : Bool) (cs : List Char) :
    hasWordFrom word inside cs = true ↔
      ∃ front behind, cs = front ++ behind ∧ startsWithWord word behind = true ∧
        front.getLast?.elim inside isWordChar = false := by
  induction cs generalizing inside with
  | nil =>
    simp only [hasWordFrom, Bool.false_eq_true, false_iff]
    rintro ⟨front, behind, split, starts, -⟩
    obtain ⟨rfl, rfl⟩ := List.append_eq_nil_iff.mp split.symm
    simp [startsWithWord, given] at starts
  | cons c rest ih =>
    rw [hasWordFrom, Bool.or_eq_true, Bool.and_eq_true, Bool.not_eq_true', ih]
    constructor
    · rintro (⟨outside, starts⟩ | ⟨front, behind, rfl, starts, outside⟩)
      · exact ⟨[], c :: rest, rfl, starts, outside⟩
      · exact ⟨c :: front, behind, rfl, starts, (getLast?_cons_elim inside c front).trans outside⟩
    · rintro ⟨front, behind, split, starts, outside⟩
      cases front with
      | nil =>
        obtain rfl : c :: rest = behind := split
        exact .inl ⟨outside, starts⟩
      | cons d front =>
        obtain ⟨rfl, rfl⟩ := List.cons.inj split
        exact .inr ⟨front, behind, rfl, starts,
          (getLast?_cons_elim inside c front).symm.trans outside⟩

theorem hasWord_iff {word : List Char} (given : word ≠ []) (cs : List Char) :
    hasWord word cs = true ↔ StandsIn word cs := by
  have small : asciiSmall = Char.toLower := funext asciiSmall_eq_toLower
  rw [hasWord, hasWordFrom_iff given]
  constructor
  · rintro ⟨front, behind, rfl, starts, before⟩
    obtain ⟨middle, back, rfl, same, after⟩ := startsWithWord_iff.mp starts
    refine ⟨front, middle, back, (List.append_assoc ..).symm, small ▸ same, ?_,
      startsOutsideWord_iff.mp after⟩
    intro c last
    rwa [last, Option.elim_some] at before
  · rintro ⟨front, middle, back, rfl, same, before, after⟩
    refine ⟨front, middle ++ back, List.append_assoc .., ?_, ?_⟩
    · exact startsWithWord_iff.mpr ⟨middle, back, rfl, small ▸ same, startsOutsideWord_iff.mpr after⟩
    · cases last : front.getLast? with
      | none => rfl
      | some c => exact before c last

namespace Pattern

def spelled : List Char → Pattern
  | [] => boundary
  | w :: rest => follow (one fun c => asciiSmall c == w) (spelled rest)

/-- The word in any letter case, between word boundaries. -/
def word (letters : List Char) : Pattern := follow boundary (spelled letters)

theorem isWordChar_of_small {c : Char} (small : isAsciiSmall (asciiSmall c) = true) :
    isWordChar c = true := by
  by_cases ascii : c.toNat < 128
  · have each : ∀ n : Nat, n < 128 → isAsciiSmall (asciiSmall (.ofNat n)) = true →
        isWordChar (.ofNat n) = true := by decide +kernel
    have here := each c.toNat ascii
    rw [Char.ofNat_toNat] at here
    exact here small
  · rw [asciiSmall_of_le (by omega), isAsciiSmall, Bool.and_eq_true, decide_eq_true_eq,
      decide_eq_true_eq] at small
    omega

theorem startsWithWord_cons (w c : Char) (letters rest : List Char) :
    startsWithWord (w :: letters) (c :: rest) =
      (asciiSmall c == w && startsWithWord letters rest) := by
  simp [startsWithWord, Bool.and_assoc]

theorem ends_boundary_ne_nil {x : Place} :
    boundary.ends x ≠ [] ↔ x.last.any isWordChar ≠ x.rest.head?.any isWordChar := by
  rw [ends]
  split <;> simp_all

/-- The letters are matched exactly where the word starts and ends, if they are not within one. -/
theorem ends_spelled_ne_nil {letters : List Char} (small : letters.all isAsciiSmall = true)
    (last : Option Char) (inside : letters = [] → last.any isWordChar = true) (cs : List Char) :
    (spelled letters).ends ⟨last, cs⟩ ≠ [] ↔ startsWithWord letters cs = true := by
  induction letters generalizing last cs with
  | nil =>
    rw [spelled, ends_boundary_ne_nil, inside rfl]
    cases cs <;> simp [startsWithWord, startsOutsideWord]
  | cons w rest ih =>
    cases cs with
    | nil => simp [spelled, ends, startsWithWord]
    | cons c more =>
      rw [startsWithWord_cons]
      rw [List.all_cons, Bool.and_eq_true] at small
      by_cases same : asciiSmall c = w
      · subst same
        have isWord : isWordChar c = true := isWordChar_of_small small.1
        have later := ih small.2 (some c) (fun _ => isWord) more
        simpa [spelled, ends] using later
      · simp [spelled, ends, same]

theorem startsWithin_of_startsWithWord {letters cs : List Char} (given : letters ≠ [])
    (small : letters.all isAsciiSmall = true) (starts : startsWithWord letters cs = true) :
    cs.head?.any isWordChar = true := by
  obtain ⟨w, rest, rfl⟩ := List.exists_cons_of_ne_nil given
  cases cs with
  | nil => simp [startsWithWord] at starts
  | cons c more =>
    rw [startsWithWord_cons, Bool.and_eq_true, beq_iff_eq] at starts
    rw [List.all_cons, Bool.and_eq_true, ← starts.1] at small
    exact isWordChar_of_small small.1

theorem ends_word_ne_nil {letters : List Char} (given : letters ≠ [])
    (small : letters.all isAsciiSmall = true) (last : Option Char) (cs : List Char) :
    (word letters).ends ⟨last, cs⟩ ≠ [] ↔
      startsWithWord letters cs = true ∧ last.any isWordChar = false := by
  have within : startsWithWord letters cs = true → cs.head?.any isWordChar = true :=
    startsWithin_of_startsWithWord given small
  have spells := ends_spelled_ne_nil small last (fun none => absurd none given) cs
  rw [word, ends, ends]
  by_cases same : last.any isWordChar = cs.head?.any isWordChar
  · rw [if_pos same, same]
    simp only [List.flatMap_nil, ne_eq, not_true_eq_false, false_iff, not_and]
    exact fun starts => by simp [within starts]
  · rw [if_neg same, List.flatMap_singleton, spells]
    refine ⟨fun starts => ⟨starts, ?_⟩, And.left⟩
    rwa [within starts, Bool.not_eq_true] at same

/-- The word is found where the pattern has a match. -/
theorem hasWord_iff_isFoundIn {letters : List Char} (given : letters ≠ [])
    (small : letters.all isAsciiSmall = true) (cs : List Char) :
    hasWord letters cs = true ↔ (word letters).IsFoundIn cs := by
  simp only [hasWord, hasWordFrom_iff given, IsFoundIn, ends_word_ne_nil given small]
  have same (o : Option Char) : o.elim false isWordChar = o.any isWordChar := by cases o <;> rfl
  simp only [same]

/-- Looking for WHERE is replacing quoted text by blanks and looking for a match of the word. -/
theorem sqlHasWhere_iff_isFoundIn (sql : String) :
    sqlHasWhere sql = true ↔ ∃ unquoted, quotedText.Replaced [' '] ⟨none, sql.toList⟩ unquoted ∧
      (word "where".toList).IsFoundIn unquoted := by
  have given : "where".toList ≠ [] := by decide
  have found := hasWord_iff_isFoundIn given (by decide) (blankQuoted sql.toList)
  have blanked := replaced_blankQuoted none sql.toList
  rw [sqlHasWhere, found]
  constructor
  · exact fun here => ⟨_, blanked, here⟩
  · rintro ⟨unquoted, replaced, here⟩
    rwa [blanked.unique replaced]

end Pattern
end RecordSql
