import RecordSql.Postgres.Placeholder
import RecordSql.Proofs.Placeholders
/-! # Numbered placeholders are the placeholders

PostgreSQL scans the finished text again, with its own notion of quotes. Wherever names and
raw fragments close their quotes, that scan finds the question marks that were written for
the arguments, in their order, and gives the `k`-th of them the number `k`. -/
set_option autoImplicit false
namespace RecordSql.Postgres

def quotes (c : Char) : Bool := c == '\x27' || c == '"'

/-- What stands for a character and its position: a number in place of one of `positions`,
where `count` placeholders stood before. -/
def numbered (count : Nat) (positions : List Nat) (found : Char × Nat) : List Char :=
  match positions.idxOf? found.2 with
  | some k => '$' :: Nat.toDigits 10 (count + k + 1)
  | none => [found.1]

/-- The text with `$1`, `$2`, … in place of the characters at these positions. -/
def numberAt (positions : List Nat) (cs : List Char) : List Char :=
  cs.zipIdx.flatMap (numbered 0 positions)

theorem quoteAfter_eq (opened : Option Char) (c : Char) :
    quoteAfter opened c = openAfter quotes opened c := by
  cases opened <;> simp [quoteAfter, openAfter, quotes]

theorem numbered_of_mem_zipIdx {count start : Nat} {positions : List Nat} {cs : List Char}
    {found : Char × Nat} (member : found ∈ cs.zipIdx (start + 1)) :
    numbered count (start :: positions) found = numbered (count + 1) positions found := by
  have behind : start + 1 ≤ found.2 := List.le_snd_of_mem_zipIdx member
  have other : (start == found.2) = false := by
    rw [beq_eq_false_iff_ne]
    omega
  unfold numbered
  rw [List.idxOf?_cons, other]
  cases positions.idxOf? found.2 with
  | none => rfl
  | some k =>
    show '$' :: Nat.toDigits 10 (count + (k + 1) + 1) = '$' :: Nat.toDigits 10 (count + 1 + k + 1)
    rw [Nat.add_right_comm count 1 k, Nat.add_assoc count k 1]

/-- The numbering replaces the question marks outside quotes, in order. -/
theorem numberChars_eq (opened : Option Char) (count start : Nat) (cs : List Char) :
    numberChars opened count cs =
      (cs.zipIdx start).flatMap (numbered count (marks quotes opened start cs)) := by
  induction cs generalizing opened count start with
  | nil => rfl
  | cons c rest ih =>
    rw [List.zipIdx_cons, List.flatMap_cons]
    -- A placeholder is in front of all that follow, so it raises their numbers by one; any other
    -- character is none of the positions, which all lie behind it.
    by_cases mark : (opened.isNone && c == '?') = true
    · have here : opened = none ∧ c = '?' := by simpa using mark
      obtain ⟨rfl, rfl⟩ := here
      have stays : openAfter quotes none '?' = none := by decide
      have tail := ih none (count + 1) (start + 1)
      rw [numberChars, if_pos mark, marks, if_pos mark, stays, List.singleton_append, tail]
      have first (positions : List Nat) :
          numbered count (start :: positions) ('?', start) =
            '$' :: Nat.toDigits 10 (count + 1) := by
        simp [numbered, List.idxOf?_cons]
      rw [first, List.cons_append]
      exact congrArg _ (congrArg _ (List.flatMap_congr fun found member =>
        (numbered_of_mem_zipIdx member).symm))
    · have tail := ih (openAfter quotes opened c) count (start + 1)
      rw [numberChars, if_neg mark, marks, if_neg mark, List.nil_append, quoteAfter_eq, tail]
      have absent : start ∉ marks quotes (openAfter quotes opened c) (start + 1) rest := by
        intro marked
        have behind := (getElem?_of_mem_marks marked).1
        omega
      have same : numbered count (marks quotes (openAfter quotes opened c) (start + 1) rest)
          (c, start) = [c] := by
        simp [numbered, List.idxOf?_eq_none_iff.mpr absent]
      rw [same, List.singleton_append]

theorem numberPlaceholders_eq (sql : String) :
    numberPlaceholders sql =
      .ofList (numberAt (marks quotes none 0 sql.toList) sql.toList) := by
  rw [numberPlaceholders, numberChars_eq none 0 0, numberAt]

/-- The placeholders of a statement built for PostgreSQL are in the order of the arguments,
and the numbering puts `$k` in place of that of the `k`-th argument and changes nothing else,
as long as no name holds a quotation mark, and each raw fragment closes its quotes and has
outside them one question mark for each of its arguments. -/
theorem numberPlaceholders_build {e : Entity} {k : Materializer} {registry : Registry}
    {s : Statement e} {q : Query} (built : (s.build ⟨.postgres, k⟩ registry).result = .ok q)
    (names : ∀ name ∈ namesOf (s.draft ⟨.postgres, k⟩ registry).pieces, '"' ∉ name.toList)
    (raws : ∀ r ∈ rawsOf (s.draft ⟨.postgres, k⟩ registry).pieces,
      ClosesQuotes quotes r.sql.toList ∧
        (marks quotes none 0 r.sql.toList).length = r.args.length) :
    let found := placeholders quotes '"' 0 (s.draft ⟨.postgres, k⟩ registry).pieces
    found.map Prod.snd = q.args ∧
      (found.map Prod.fst).Pairwise (· < ·) ∧
      (∀ place ∈ found, q.sql.toList[place.1]? = some '?') ∧
      numberPlaceholders q.sql = .ofList (numberAt (found.map Prod.fst) q.sql.toList) := by
  intro found
  have plain := Statement.plain_of_build built
  obtain ⟨-, rfl⟩ := Statement.build_eq_ok built
  have known (c : Char) (quoting : quotes c = true) : isQuoteChar c = true := by
    simp only [quotes, Bool.or_eq_true] at quoting
    simp only [isQuoteChar, Bool.or_eq_true]
    exact .inl quoting
  have located : ∀ piece ∈ (s.draft ⟨.postgres, k⟩ registry).pieces, piece.Located quotes '"' :=
    located_of_plain (by decide) known plain
      (fun name member => located_quotedName (by decide) (by decide) (names name member))
      (fun r member => located_raw (raws r member).1 (raws r member).2)
  obtain ⟨positions, arguments⟩ := placeholders_sqlOf located 0
  refine ⟨arguments, ?_, fun place member => getElem?_placeholder located member, ?_⟩
  · rw [← positions]
    exact pairwise_marks none 0 _
  · rw [numberPlaceholders_eq, ← positions]
    rfl

def quotedDeletion : Statement account :=
  .delete
    { table := some "a?'b"
      conditions := [.and (.raw ⟨"note <> 'why?' AND owner = ?", [.int 2]⟩)
        (.compare ⟨"id", none, none⟩ .eq (.value (.int 1)))] }

theorem numberPlaceholders_quotedDeletion :
    let q : Query :=
      ⟨"DELETE FROM \"a?'b\" WHERE ((note <> 'why?' AND owner = ?)) AND (\"id\" = ?);",
        [.int 2, .int 1]⟩
    (quotedDeletion.build ⟨.postgres, .accessor⟩ .empty).result = .ok q ∧
      placeholders quotes '"' 0 (quotedDeletion.draft ⟨.postgres, .accessor⟩ .empty).pieces =
        [(54, .int 2), (70, .int 1)] ∧
      numberPlaceholders q.sql = .ofList (numberAt [54, 70] q.sql.toList) ∧
      numberPlaceholders q.sql =
        "DELETE FROM \"a?'b\" WHERE ((note <> 'why?' AND owner = $1)) AND (\"id\" = $2);" := by
  intro q
  have built : (quotedDeletion.build ⟨.postgres, .accessor⟩ .empty).result = .ok q := by decide +kernel
  have found : placeholders quotes '"' 0
      (quotedDeletion.draft ⟨.postgres, .accessor⟩ .empty).pieces =
        [(54, .int 2), (70, .int 1)] := by decide +kernel
  obtain ⟨-, -, -, numbering⟩ :=
    numberPlaceholders_build built (by decide +kernel) (by decide +kernel)
  rw [found] at numbering
  exact ⟨built, found, numbering, by decide +kernel⟩

end RecordSql.Postgres
