import RecordSql.Proofs.Segments
import RecordSql.Render.Piece
/-! # The tokens of a text

Outside quotes a text falls into words and other characters. Quoted text is one token, and between
its quotes a doubled quote stands for itself. Up to the contents of quoted text the tokens depend on
the outline only, in which nothing is left of it but the quotes. -/
set_option autoImplicit false
namespace RecordSql

open Text

inductive Token
  | quoted (quote : Char) (content : List Char)
  /-- A quote that nothing closes, with all that follows. -/
  | unclosed (quote : Char)
  | word (letters : List Char)
  /-- An operator, a punctuation mark, a placeholder or a blank. -/
  | symbol (c : Char)
  deriving DecidableEq

/-- The token without what is quoted. -/
def Token.shape : Token → Token
  | quoted q _ => quoted q []
  | unclosed q => unclosed q
  | word letters => word letters
  | symbol c => symbol c

/-! ## Quoted text -/

def unquote (q : Char) : List Char → Option (List Char × List Char)
  | [] => none
  | [c] => if c = q then some ([], []) else none
  | c :: d :: rest =>
    if c = q then
      if d = q then (unquote q rest).map fun found => (q :: found.1, found.2)
      else some ([], d :: rest)
    else (unquote q (d :: rest)).map fun found => (c :: found.1, found.2)

section Unquote

variable {q : Char} {cs content behind : List Char}

theorem unquote_cons_other {c : Char} (other : c ≠ q) (cs : List Char) :
    unquote q (c :: cs) = (unquote q cs).map fun found => (c :: found.1, found.2) := by
  cases cs with
  | nil => simp [unquote, other]
  | cons d rest => rw [unquote, if_neg other]

theorem unquote_doubled (content : List Char) (apart : behind.head? ≠ some q) :
    unquote q (doubled q content ++ q :: behind) = some (content, behind) := by
  induction content with
  | nil =>
    cases behind with
    | nil => simp [doubled, unquote]
    | cons d rest =>
      have other : d ≠ q := by simpa using apart
      simp [doubled, unquote, other]
  | cons c rest ih =>
    by_cases same : c = q
    · subst same
      simp [doubled, unquote, ih]
    · simp [doubled, same, unquote_cons_other same, ih]

theorem eq_of_unquote (found : unquote q cs = some (content, behind)) :
    cs = doubled q content ++ q :: behind ∧ behind.head? ≠ some q := by
  fun_induction unquote q cs generalizing content with
  | case1 => simp at found
  | case2 =>
    obtain ⟨rfl, rfl⟩ : [] = content ∧ [] = behind := by simpa using found
    simp [doubled]
  | case3 => simp at found
  | case4 rest ih =>
    obtain ⟨⟨inner, left⟩, more, same⟩ := Option.map_eq_some_iff.mp found
    obtain ⟨rfl, rfl⟩ : q :: inner = content ∧ left = behind := by simpa using same
    obtain ⟨rfl, apart⟩ := ih more
    exact ⟨by simp [doubled], apart⟩
  | case5 d rest other =>
    obtain ⟨rfl, rfl⟩ : [] = content ∧ d :: rest = behind := by simpa using found
    simp [doubled, other]
  | case6 c d rest other ih =>
    obtain ⟨⟨inner, left⟩, more, same⟩ := Option.map_eq_some_iff.mp found
    obtain ⟨rfl, rfl⟩ : c :: inner = content ∧ left = behind := by simpa using same
    obtain ⟨split, apart⟩ := ih more
    exact ⟨by simp [doubled, other, split], apart⟩

theorem length_unquote_lt (found : unquote q cs = some (content, behind)) :
    behind.length < cs.length := by
  rw [(eq_of_unquote found).1, List.length_append, List.length_cons]
  omega

theorem exists_unquote_of_closes {quotes : Char → Bool} (isQuote : quotes q = true)
    (closes : openBehind quotes (some q) cs = none) :
    ∃ content behind, unquote q cs = some (content, behind) ∧ ClosesQuotes quotes behind := by
  fun_induction unquote q cs with
  | case1 => simp [openBehind] at closes
  | case2 => exact ⟨[], [], rfl, rfl⟩
  | case3 c other => simp [openBehind, openAfter, other] at closes
  | case4 rest ih =>
    have inside : openBehind quotes (some q) rest = none := by
      simpa [openBehind_cons, openAfter, isQuote] using closes
    obtain ⟨content, behind, found, closed⟩ := ih inside
    exact ⟨q :: content, behind, by rw [found, Option.map_some], closed⟩
  | case5 d rest other =>
    have closed : openBehind quotes none (d :: rest) = none := by
      rwa [openBehind_cons, openAfter, if_pos rfl] at closes
    exact ⟨[], d :: rest, rfl, closed⟩
  | case6 c d rest other ih =>
    rw [openBehind_cons, openAfter, if_neg other] at closes
    obtain ⟨content, behind, found, closed⟩ := ih closes
    exact ⟨c :: content, behind, by rw [found, Option.map_some], closed⟩

theorem length_doubled (q : Char) (cs : List Char) :
    (doubled q cs).length = cs.length + cs.count q := by
  induction cs with
  | nil => rfl
  | cons c rest ih =>
    by_cases same : c = q
    · simp [doubled, same, ih]
      omega
    · simp [doubled, same, ih]
      omega

/-- A content stands between quotes as it is exactly if it does not hold the quote. -/
theorem doubled_eq_self_iff : doubled q cs = cs ↔ q ∉ cs := by
  constructor
  · intro same
    have lengths := congrArg List.length same
    rw [length_doubled] at lengths
    exact List.count_eq_zero.mp (by omega)
  · intro absent
    induction cs with
    | nil => rfl
    | cons c rest ih =>
      rw [List.mem_cons, not_or] at absent
      rw [doubled, if_neg (Ne.symm absent.1), ih absent.2]

end Unquote

/-! ## Tokens -/

variable (quotes : Char → Bool)

def tokens : List Char → List Token
  | [] => []
  | c :: rest =>
    if quotes c then
      match found : unquote c rest with
      | some (content, behind) =>
        have := length_unquote_lt found
        .quoted c content :: tokens behind
      | none => [.unclosed c]
    else if isWordChar c then
      have := (List.dropWhile_suffix (l := rest) isWordChar).length_le
      .word (c :: rest.takeWhile isWordChar) :: tokens (rest.dropWhile isWordChar)
    else .symbol c :: tokens rest
termination_by cs => cs.length

variable {quotes} {q c : Char} {rest content behind : List Char}

theorem tokens_cons_closed (isQuote : quotes c = true)
    (found : unquote c rest = some (content, behind)) :
    tokens quotes (c :: rest) = .quoted c content :: tokens quotes behind := by
  rw [tokens, if_pos isQuote]
  split
  next inner left same =>
    rw [found, Option.some.injEq, Prod.mk.injEq] at same
    rw [same.1, same.2]
  next none =>
    rw [found] at none
    contradiction

theorem tokens_cons_unclosed (isQuote : quotes c = true) (missing : unquote c rest = none) :
    tokens quotes (c :: rest) = [.unclosed c] := by
  rw [tokens, if_pos isQuote]
  split
  next inner left same =>
    rw [missing] at same
    contradiction
  next => rfl

theorem tokens_cons_word (unquoted : quotes c = false) (isWord : isWordChar c = true) :
    tokens quotes (c :: rest) =
      .word (c :: rest.takeWhile isWordChar) :: tokens quotes (rest.dropWhile isWordChar) := by
  rw [tokens, if_neg (by simp [unquoted]), if_pos isWord]

theorem tokens_cons_symbol (unquoted : quotes c = false) (wordless : isWordChar c = false) :
    tokens quotes (c :: rest) = .symbol c :: tokens quotes rest := by
  rw [tokens, if_neg (by simp [unquoted]), if_neg (by simp [wordless])]

theorem eq_nil_of_tokens {cs : List Char} (none : tokens quotes cs = []) : cs = [] := by
  cases cs with
  | nil => rfl
  | cons c rest =>
    rw [tokens] at none
    split at none
    next => split at none <;> simp at none
    next => split at none <;> simp at none

/-- A name between quotes is one quoted token exactly if its own quotes are doubled, and then the
content has each of them once. -/
theorem tokens_quotedName (isQuote : quotes q = true) (name : String) (content : List Char) :
    tokens quotes (quotedName q name).toList = [.quoted q content] ↔
      name.toList = doubled q content := by
  have text : (quotedName q name).toList = q :: (name.toList ++ [q]) := by simp [quotedName]
  rw [text]
  constructor
  · intro single
    cases found : unquote q (name.toList ++ [q]) with
    | none =>
      rw [tokens_cons_unclosed isQuote found] at single
      simp at single
    | some read =>
      obtain ⟨inner, behind⟩ := read
      rw [tokens_cons_closed isQuote found, List.cons.injEq, Token.quoted.injEq] at single
      obtain ⟨⟨-, rfl⟩, nothing⟩ := single
      obtain rfl := eq_nil_of_tokens nothing
      exact List.append_cancel_right (eq_of_unquote found).1
  · intro spelled
    have found : unquote q (name.toList ++ [q]) = some (content, []) := by
      rw [spelled]
      exact unquote_doubled content (by simp)
    rw [tokens_cons_closed isQuote found, tokens]

/-! ## Outlines -/

/-- Of a content between quotes its own quotes are left, which are doubled still. -/
theorem outline_doubled (isQuote : quotes q = true) (content tail : List Char) :
    outline quotes (some q) (doubled q content ++ tail) =
      doubled q (content.filter (· == q)) ++ outline quotes (some q) tail := by
  induction content with
  | nil => rfl
  | cons c rest ih =>
    by_cases same : c = q
    · subst same
      simp [doubled, outline, openAfter, isQuote, ih]
    · have differs : (q == c) = false := by simpa using Ne.symm same
      simp [doubled, outline, openAfter, same, differs, ih]

theorem head?_outline (cs : List Char) : (outline quotes none cs).head? = cs.head? := by
  cases cs <;> rfl

/-- A word goes on in the outline as it does in the text, for none of its letters is a quote. -/
theorem outline_word (wordless : ∀ c, quotes c = true → isWordChar c = false) (cs : List Char) :
    (outline quotes none cs).takeWhile isWordChar = cs.takeWhile isWordChar ∧
      (outline quotes none cs).dropWhile isWordChar = outline quotes none (cs.dropWhile isWordChar) ∧
      openBehind quotes none (cs.dropWhile isWordChar) = openBehind quotes none cs := by
  induction cs with
  | nil => exact ⟨rfl, rfl, rfl⟩
  | cons c rest ih =>
    rw [outline_none_cons, List.takeWhile_cons, List.takeWhile_cons, List.dropWhile_cons,
      List.dropWhile_cons]
    cases isWord : isWordChar c with
    | true =>
      have unquoted : quotes c = false := by
        rw [Bool.eq_false_iff]
        intro isQuote
        rw [wordless c isQuote] at isWord
        contradiction
      have stays : openAfter quotes none c = none := by simp [openAfter, unquoted]
      obtain ⟨taken, dropped, left⟩ := ih
      rw [stays, if_pos rfl, if_pos rfl, if_pos rfl, if_pos rfl, openBehind_cons, stays]
      exact ⟨by rw [taken], dropped, left⟩
    | false =>
      rw [if_neg Bool.false_ne_true, if_neg Bool.false_ne_true, if_neg Bool.false_ne_true,
        if_neg Bool.false_ne_true]
      exact ⟨rfl, rfl, rfl⟩

/-- Up to the contents of quoted text, a text that closes its quotes has the tokens of its
outline. -/
theorem shapes_outline (wordless : ∀ c, quotes c = true → isWordChar c = false) {cs : List Char}
    (closes : ClosesQuotes quotes cs) :
    (tokens quotes cs).map Token.shape =
      (tokens quotes (outline quotes none cs)).map Token.shape := by
  induction length : cs.length using Nat.strongRecOn generalizing cs with
  | ind n ih =>
    cases cs with
    | nil => rfl
    | cons c rest =>
      rw [List.length_cons] at length
      rw [ClosesQuotes, openBehind_cons] at closes
      cases isQuote : quotes c with
      | true =>
        rw [openAfter, if_pos isQuote] at closes
        obtain ⟨content, behind, found, closed⟩ := exists_unquote_of_closes isQuote closes
        have shorter := length_unquote_lt found
        obtain ⟨split, apart⟩ := eq_of_unquote found
        -- The outline is quoted text again, whose content are the quotes of the content.
        have kept : outline quotes (some c) rest =
            doubled c (content.filter (· == c)) ++ c :: outline quotes none behind := by
          rw [split, outline_doubled isQuote, outline, openAfter, if_pos rfl]
          simp
        have foundToo : unquote c (outline quotes (some c) rest) =
            some (content.filter (· == c), outline quotes none behind) := by
          rw [kept]
          exact unquote_doubled _ (by rwa [head?_outline])
        rw [outline_none_cons, openAfter, if_pos isQuote, tokens_cons_closed isQuote found,
          tokens_cons_closed isQuote foundToo, List.map_cons, List.map_cons,
          ih behind.length (by omega) closed rfl]
        rfl
      | false =>
        rw [openAfter, if_neg (by simp [isQuote])] at closes
        rw [outline_none_cons, openAfter, if_neg (by simp [isQuote])]
        cases isWord : isWordChar c with
        | true =>
          obtain ⟨taken, dropped, left⟩ := outline_word wordless rest
          have shorter := (List.dropWhile_suffix (l := rest) isWordChar).length_le
          rw [tokens_cons_word isQuote isWord, tokens_cons_word isQuote isWord, List.map_cons,
            List.map_cons, taken, dropped, ih _ (by omega) (left.trans closes) rfl]
        | false =>
          rw [tokens_cons_symbol isQuote isWord, tokens_cons_symbol isQuote isWord, List.map_cons,
            List.map_cons, ih rest.length (by omega) closes rfl]

end RecordSql
