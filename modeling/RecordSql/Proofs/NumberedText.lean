import RecordSql.Proofs.Numbering
/-! # What numbering does to any text

A text is read as characters and quotations. A question mark is a placeholder if the text in front
of it has no open quotation. Numbering puts a number behind each placeholder's place and leaves
all else, so a numbered text has no placeholders, a text can be numbered part by part, and the
number that stands at a dollar sign follows from what is in front of it. -/
set_option autoImplicit false
namespace RecordSql.Postgres

/-! ## Quotations -/

/-- A text whose quotations are all closed. A quotation goes from a quote character to the next
one of its kind; the other kind means nothing inside. -/
inductive Balanced : List Char → Prop
  | nil : Balanced []
  | char {c : Char} {rest : List Char} (plain : quotes c = false) (behind : Balanced rest) :
      Balanced (c :: rest)
  | quotation {q : Char} {content rest : List Char} (quoting : quotes q = true)
      (inside : q ∉ content) (behind : Balanced rest) : Balanced (q :: (content ++ q :: rest))

theorem openBehind_quotation {q : Char} {content rest : List Char} (quoting : quotes q = true)
    (inside : q ∉ content) :
    openBehind quotes none (q :: (content ++ q :: rest)) = openBehind quotes none rest := by
  have opens : openAfter quotes none q = some q := by simp [openAfter, quoting]
  have closes : openAfter quotes (some q) q = none := by simp [openAfter]
  rw [openBehind_cons, opens, openBehind_append, openBehind_some inside, openBehind_cons, closes]

theorem openBehind_char {c : Char} {rest : List Char} (plain : quotes c = false) :
    openBehind quotes none (c :: rest) = openBehind quotes none rest := by
  have stays : openAfter quotes none c = none := by simp [openAfter, plain]
  rw [openBehind_cons, stays]

/-- The scan finds no quote open exactly behind a text whose quotations are closed. -/
theorem balanced_iff (cs : List Char) : Balanced cs ↔ ClosesQuotes quotes cs := by
  constructor
  · intro balanced
    induction balanced with
    | nil => rfl
    | char plain _ ih => exact (openBehind_char plain).trans ih
    | quotation quoting inside _ ih => exact (openBehind_quotation quoting inside).trans ih
  · intro closes
    -- A quotation takes any number of characters at once.
    induction length : cs.length using Nat.strongRecOn generalizing cs with
    | ind n ih =>
      subst length
      cases cs with
      | nil => exact .nil
      | cons c rest =>
        cases quoting : quotes c with
        | false =>
          have shorter : rest.length < (c :: rest).length := Nat.lt_succ_self rest.length
          exact .char quoting
            (ih rest.length shorter rest ((openBehind_char quoting).symm.trans closes) rfl)
        | true =>
          have ends : c ∈ rest := by
            by_contra absent
            rw [ClosesQuotes, openBehind_cons, openAfter, if_pos quoting,
              openBehind_some absent] at closes
            contradiction
          obtain ⟨content, behind, rfl, inside⟩ := List.eq_append_cons_of_mem ends
          have shorter : behind.length < (c :: (content ++ c :: behind)).length := by
            simp only [List.length_cons, List.length_append]
            omega
          have closed : ClosesQuotes quotes behind :=
            (openBehind_quotation quoting inside).symm.trans closes
          exact .quotation quoting inside (ih behind.length shorter behind closed rfl)

theorem mem_marks_iff (opened : Option Char) (start i : Nat) (cs : List Char) :
    start + i ∈ marks quotes opened start cs ↔
      cs[i]? = some '?' ∧ openBehind quotes opened (cs.take i) = none := by
  induction cs generalizing opened start i with
  | nil => simp [marks]
  | cons c rest ih =>
    have later (j : Nat) (marked : j ∈ marks quotes (openAfter quotes opened c) (start + 1) rest) :
        start < j := (getElem?_of_mem_marks marked).1
    rw [marks, List.mem_append]
    cases i with
    | zero =>
      have here : start ∉ marks quotes (openAfter quotes opened c) (start + 1) rest := fun marked =>
        Nat.lt_irrefl start (later start marked)
      simp only [Nat.add_zero, here, or_false]
      cases opened with
      | none => by_cases mark : c = '?' <;> simp [mark, openBehind]
      | some q => simp [openBehind]
    | succ i =>
      have behind := ih (openAfter quotes opened c) (start + 1) i
      rw [List.getElem?_cons_succ, List.take_succ_cons, openBehind_cons, ← behind,
        show start + 1 + i = start + (i + 1) by omega]
      have elsewhere : start + (i + 1) ∉ if opened.isNone && c == '?' then [start] else [] := by
        split
        · simp
        · simp
      simp only [elsewhere, false_or]

/-- The marked positions of a text are those of its placeholders. -/
theorem mem_marks_iff_balanced {i : Nat} {cs : List Char} :
    i ∈ marks quotes none 0 cs ↔ cs[i]? = some '?' ∧ Balanced (cs.take i) := by
  have marked := mem_marks_iff none 0 i cs
  rw [Nat.zero_add] at marked
  rw [marked, balanced_iff, ClosesQuotes]

def positions (s : String) : List Nat := marks quotes none 0 s.toList

/-! ## Numbering -/

/-- The text with numbers in place of the characters at these positions, where `count`
placeholders stood before. -/
def numberBehind (count : Nat) (positions : List Nat) (cs : List Char) : List Char :=
  cs.zipIdx.flatMap (numbered count positions)

theorem closesQuotes_number (n : Nat) : ClosesQuotes quotes ('$' :: Nat.toDigits 10 n) := by
  refine closesQuotes_of_unquoted fun c member => ?_
  rcases List.mem_cons.mp member with rfl | digit
  · decide
  · have isDigit := Nat.isDigit_of_mem_toDigits (by decide) (by decide) digit
    cases quoting : quotes c with
    | false => rfl
    | true =>
      simp only [quotes, Bool.or_eq_true, beq_iff_eq] at quoting
      rcases quoting with rfl | rfl
      · contradiction
      · contradiction

theorem marks_number (n start : Nat) : marks quotes none start ('$' :: Nat.toDigits 10 n) = [] := by
  refine marks_eq_nil none start fun c member => ?_
  rcases List.mem_cons.mp member with rfl | digit
  · decide
  · have isDigit := Nat.isDigit_of_mem_toDigits (by decide) (by decide) digit
    rintro rfl
    contradiction

/-- A numbered text has no placeholders. -/
theorem marks_numberChars (opened : Option Char) (count start : Nat) (cs : List Char) :
    marks quotes opened start (numberChars opened count cs) = [] := by
  induction cs generalizing opened count start with
  | nil => rfl
  | cons c rest ih =>
    rw [numberChars]
    split
    next mark =>
      obtain ⟨rfl, rfl⟩ : opened = none ∧ c = '?' := by simpa using mark
      have closed : openBehind quotes none ('$' :: Nat.toDigits 10 (count + 1)) = none :=
        closesQuotes_number (count + 1)
      rw [← List.cons_append, marks_append, marks_number, closed, ih, List.nil_append]
    next other => rw [marks, if_neg other, quoteAfter_eq, ih, List.nil_append]

/-- Numbering leaves a text without placeholders as it is. -/
theorem numberChars_of_marks_eq_nil {opened : Option Char} {start : Nat} {cs : List Char}
    (unmarked : marks quotes opened start cs = []) (count : Nat) :
    numberChars opened count cs = cs := by
  rw [numberChars_eq opened count start, unmarked]
  have kept : numbered count [] = fun found => [found.1] := by
    funext found
    rfl
  rw [kept, ← List.map_eq_flatMap, List.zipIdx_map_fst]

theorem numberChars_append (opened : Option Char) (count start : Nat) (front back : List Char) :
    numberChars opened count (front ++ back) =
      numberChars opened count front ++
        numberChars (openBehind quotes opened front)
          (count + (marks quotes opened start front).length) back := by
  induction front generalizing opened count start with
  | nil => rfl
  | cons c rest ih =>
    rw [List.cons_append, numberChars, numberChars, marks, openBehind_cons]
    split
    next mark =>
      obtain ⟨rfl, rfl⟩ : opened = none ∧ c = '?' := by simpa using mark
      have stays : openAfter quotes none '?' = none := by decide
      rw [stays, ih none (count + 1) (start + 1), List.cons_append, List.append_assoc,
        List.length_append, List.length_singleton, Nat.add_assoc]
    next other =>
      rw [quoteAfter_eq, ih _ count (start + 1), List.cons_append, List.nil_append]

/-- Two texts without dollar signs that are numbered alike are the same: the first dollar sign of
the numbered text stands for the first placeholder, and what number follows it is known. -/
theorem eq_of_numberChars_eq {opened : Option Char} {count : Nat} {cs ds : List Char}
    (first : '$' ∉ cs) (second : '$' ∉ ds)
    (same : numberChars opened count cs = numberChars opened count ds) : cs = ds := by
  induction cs generalizing opened count ds with
  | nil =>
    cases ds with
    | nil => rfl
    | cons d more =>
      rw [numberChars, numberChars] at same
      split at same <;> simp at same
  | cons c rest ih =>
    rw [List.mem_cons, not_or] at first
    cases ds with
    | nil =>
      rw [numberChars, numberChars] at same
      split at same <;> simp at same
    | cons d more =>
      rw [List.mem_cons, not_or] at second
      rw [numberChars, numberChars] at same
      split at same
      next mark =>
        split at same
        next too =>
          simp only [Bool.and_eq_true, beq_iff_eq] at mark too
          rw [List.cons.injEq, List.append_cancel_left_eq] at same
          rw [mark.2, too.2, ih first.2 second.2 same.2]
        next =>
          rw [List.cons.injEq] at same
          exact absurd same.1 second.1
      next =>
        split at same
        next =>
          rw [List.cons.injEq] at same
          exact absurd same.1.symm first.1
        next =>
          rw [List.cons.injEq] at same
          obtain ⟨rfl, tails⟩ := same
          rw [ih first.2 second.2 tails]

/-- Numbering puts `$k` in place of the `k`-th question mark outside quotations, counted from one,
and leaves every other character. A numbered text stays as it is. Behind a text whose quotations
are closed, the numbers go on from its count, and different texts without dollar signs are
numbered differently. -/
theorem numberPlaceholders_text (s t : String) :
    (∀ u : String, (positions u).Pairwise (· < ·) ∧
      ∀ i, i ∈ positions u ↔ u.toList[i]? = some '?' ∧ Balanced (u.toList.take i)) ∧
    numberPlaceholders s = .ofList (numberBehind 0 (positions s) s.toList) ∧
    numberPlaceholders (numberPlaceholders s) = numberPlaceholders s ∧
    (Balanced s.toList → numberPlaceholders (s ++ t) =
      numberPlaceholders s ++
        .ofList (numberBehind (positions s).length (positions t) t.toList)) ∧
    ('$' ∉ s.toList → '$' ∉ t.toList → s ≠ t → numberPlaceholders s ≠ numberPlaceholders t) := by
  refine ⟨fun u => ⟨pairwise_marks none 0 u.toList, fun i => mem_marks_iff_balanced⟩,
    numberPlaceholders_eq s, ?_, ?_, ?_⟩
  · have unmarked := marks_numberChars none 0 0 s.toList
    rw [numberPlaceholders, numberPlaceholders, String.toList_ofList,
      numberChars_of_marks_eq_nil unmarked]
  · intro balanced
    have closed : openBehind quotes none s.toList = none := (balanced_iff s.toList).mp balanced
    rw [numberPlaceholders, numberPlaceholders, String.toList_append, numberChars_append none 0 0,
      closed, Nat.zero_add, numberChars_eq none _ 0 t.toList, String.ofList_append]
    rfl
  · intro first second different same
    have texts : numberChars none 0 s.toList = numberChars none 0 t.toList :=
      String.ofList_injective same
    exact different (String.toList_injective (eq_of_numberChars_eq first second texts))

/-- A doubled quote, a quote of the other kind within quotes, and a number that a digit follows. -/
theorem numberPlaceholders_text_quotations :
    let s := "a = ?1 AND b = 'it''s ?' AND \"c?'\" = ?"
    let t := " OR d = ? OR e = '?"
    Balanced s.toList ∧ '$' ∉ s.toList ∧ '$' ∉ t.toList ∧ s ≠ t ∧
      positions s = [4, 37] ∧
      numberPlaceholders s = "a = $11 AND b = 'it''s ?' AND \"c?'\" = $2" ∧
      numberPlaceholders (s ++ t) =
        numberPlaceholders s ++ .ofList (numberBehind 2 [8] t.toList) ∧
      numberPlaceholders (s ++ t) =
        "a = $11 AND b = 'it''s ?' AND \"c?'\" = $2 OR d = $3 OR e = '?" ∧
      numberPlaceholders s ≠ numberPlaceholders t := by
  intro s t
  have balanced : Balanced s.toList := (balanced_iff _).mpr (by decide +kernel)
  have first : '$' ∉ s.toList := by decide +kernel
  have second : '$' ∉ t.toList := by decide +kernel
  have different : s ≠ t := by decide +kernel
  have places : positions s = [4, 37] := by decide +kernel
  have more : positions t = [8] := by decide +kernel
  obtain ⟨-, -, -, behind, apart⟩ := numberPlaceholders_text s t
  have joined := behind balanced
  rw [places, more] at joined
  exact ⟨balanced, first, second, different, places, by decide +kernel, joined, by decide +kernel,
    apart first second different⟩

end RecordSql.Postgres
