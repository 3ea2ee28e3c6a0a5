import RecordSql.Proofs.Placeholders
import RecordSql.Proofs.Renaming
import RecordSql.Proofs.Tokens
/-! # Names as tokens

A name is written between quotes as it is. It is read back as one quoted token exactly if its own
quotes are doubled, and as itself exactly if it has none. Where it has none, names have no say in
the other tokens of a statement. -/
set_option autoImplicit false
namespace RecordSql

open Text

variable {quotes : Char → Bool} {quote : Char} {pieces : List Piece}

/-- The outline of a text does not depend on the names in it. -/
theorem outline_sqlOf_unnamed (isQuote : quotes quote = true)
    (closes : ∀ piece ∈ pieces, ClosesQuotes quotes (piece.sql quote).toList)
    (clean : ∀ name ∈ namesOf pieces, quote ∉ name.toList) :
    outline quotes none (sqlOf quote pieces).toList =
      (pieces.map Piece.unnamed).flatMap fun piece =>
        outline quotes none (piece.sql quote).toList := by
  rw [outline_sqlOf closes, List.flatMap_map]
  refine List.flatMap_congr fun piece member => ?_
  cases piece with
  | name s =>
    have empty : quote ∉ "".toList := by simp
    exact (outline_quotedName isQuote (clean s (mem_namesOf.mpr member))).trans
      (outline_quotedName isQuote empty).symm
  | text s => rfl
  | raw r => rfl
  | bound v => rfl

/-- No name holds the quote character, and no raw fragment leaves a quote open. -/
structure Clean (quotes : Char → Bool) (quote : Char) (pieces : List Piece) : Prop where
  names : ∀ name ∈ namesOf pieces, quote ∉ name.toList
  fragments : ∀ r ∈ rawsOf pieces, ClosesQuotes quotes r.sql.toList

theorem argsOf_unnamed (pieces : List Piece) : argsOf (pieces.map Piece.unnamed) = argsOf pieces := by
  induction pieces with
  | nil => rfl
  | cons piece rest ih =>
    rw [List.map_cons, argsOf, argsOf, ih]
    cases piece <;> rfl

section Built

variable {e : Entity} {style : Style} {r r' : Registry} {s s' : Statement e} {q q' : Query}

/-- Two built statements with the same pieces but for names have the same tokens but for what is
quoted. -/
theorem shapes_of_build (isQuote : quotes style.dialect.quote = true)
    (known : ∀ c, quotes c = true → isQuoteChar c = true)
    (alike : (s.draft style r).Alike Eq (s'.draft style r'))
    (built : (s.build style r).result = .ok q) (builtToo : (s'.build style r').result = .ok q')
    (clean : Clean quotes style.dialect.quote (s.draft style r).pieces)
    (cleanToo : Clean quotes style.dialect.quote (s'.draft style r').pieces) :
    (tokens quotes q.sql.toList).map Token.shape = (tokens quotes q'.sql.toList).map Token.shape := by
  have wordless (c : Char) (quoting : quotes c = true) : isWordChar c = false := by
    have which := known c quoting
    simp only [isQuoteChar, Bool.or_eq_true, beq_iff_eq] at which
    rcases which with (rfl | rfl) | rfl <;> decide
  have each := Statement.closesQuotes_piece_of_build isQuote known built clean.names clean.fragments
  have eachToo := Statement.closesQuotes_piece_of_build isQuote known builtToo cleanToo.names
    cleanToo.fragments
  obtain ⟨-, rfl⟩ := Statement.build_eq_ok built
  obtain ⟨-, rfl⟩ := Statement.build_eq_ok builtToo
  simp only [Query.ofPieces]
  rw [shapes_outline wordless (closesQuotes_sqlOf each),
    shapes_outline wordless (closesQuotes_sqlOf eachToo),
    outline_sqlOf_unnamed isQuote each clean.names,
    outline_sqlOf_unnamed isQuote eachToo cleanToo.names, alike.pieces]

/-- A name between quotes is one quoted token exactly if its own quotes are doubled, and its
content is the name exactly if it has none. Two statements that differ in names only, against
registries that do, fail with one error or have the same arguments, and the same tokens but for
what is quoted where no name holds the quote character and no raw fragment leaves a quote open. -/
theorem tokens_of_names (d : Dialect) (isQuote : quotes d.quote = true)
    (known : ∀ c, quotes c = true → isQuoteChar c = true) :
    (∀ (name : String) (content : List Char),
      tokens quotes (quotedName d.quote name).toList = [.quoted d.quote content] ↔
        name.toList = doubled d.quote content) ∧
    (∀ name : String, tokens quotes (quotedName d.quote name).toList =
      [.quoted d.quote name.toList] ↔ d.quote ∉ name.toList) ∧
    (∀ calls others : List RegistryCall,
      calls.map RegistryCall.unnamed = others.map RegistryCall.unnamed →
        (Registry.empty.run calls).Matches (Registry.empty.run others)) ∧
    ∀ {e : Entity} (s s' : Statement e) (k : Materializer) (r r' : Registry),
      s.unnamed = s'.unnamed → r.Matches r' →
        let style : Style := ⟨d, k⟩
        SameOutcome (fun q q' => q.args = q'.args ∧
            (Clean quotes d.quote (s.draft style r).pieces →
              Clean quotes d.quote (s'.draft style r').pieces →
              (tokens quotes q.sql.toList).map Token.shape =
                (tokens quotes q'.sql.toList).map Token.shape))
          (s.build style r).result (s'.build style r').result := by
  refine ⟨tokens_quotedName isQuote, fun name => ?_, fun _ _ => Registry.matches_run, ?_⟩
  · rw [tokens_quotedName isQuote, ← doubled_eq_self_iff, eq_comm]
  · intro e s s' k r r' same registry style
    have alike := Statement.alike_draft same registry style
    rcases alike.result.cases with ⟨err, failed, failedToo⟩ | ⟨u, u', succeeded, succeededToo, -⟩
    · simp only [Statement.build, failed, failedToo, Except.map, SameOutcome]
    · have built : (s.build style r).result =
          .ok (.ofPieces d.quote (s.draft style r).pieces) := by
        simp only [Statement.build, succeeded, Except.map, style]
      have builtToo : (s'.build style r').result =
          .ok (.ofPieces d.quote (s'.draft style r').pieces) := by
        simp only [Statement.build, succeededToo, Except.map, style]
      rw [built, builtToo]
      refine ⟨?_, shapes_of_build isQuote known alike built builtToo⟩
      simp only [Query.ofPieces]
      rw [← argsOf_unnamed, alike.pieces, argsOf_unnamed]

end Built

/-- Two selections that differ in three aliases, from a table that two registries name differently. -/
theorem tokens_of_names_aliases :
    let registry (table : String) := Registry.empty.run [.register account [.tableName table]]
    let s (label source : String) : Statement account := .select
      ⟨some (.table ⟨account, some source⟩),
        [.column ⟨"id", some label, some ⟨account, some source⟩⟩],
        [.raw ⟨"owner = 'o''x'", []⟩], [], [], [], some 1, none⟩
    let built (table label source : String) :=
      ((s label source).build ⟨.mysql, .accessor⟩ (registry table)).result
    let p : Query := ⟨"SELECT `t`.`id` AS `n` FROM `people` AS `t` WHERE (owner = 'o''x') LIMIT ?;",
      [.uint 1]⟩
    let q : Query := ⟨"SELECT `\"; --`.`id` AS `a ? b` FROM `'` AS `\"; --` " ++
      "WHERE (owner = 'o''x') LIMIT ?;", [.uint 1]⟩
    isQuoteChar Dialect.mysql.quote = true ∧ (s "n" "t").unnamed = (s "a ? b" "\"; --").unnamed ∧
      built "people" "n" "t" = .ok p ∧ built "'" "a ? b" "\"; --" = .ok q ∧
      tokens isQuoteChar (quotedName '\x60' "\"; --").toList = [.quoted '\x60' "\"; --".toList] ∧
      (tokens isQuoteChar p.sql.toList).map Token.shape =
        (tokens isQuoteChar q.sql.toList).map Token.shape := by
  intro registry s built p q
  have known : ∀ c, isQuoteChar c = true → isQuoteChar c = true := fun _ => id
  obtain ⟨-, itself, registries, statements⟩ := tokens_of_names .mysql (by decide) known
  have first : built "people" "n" "t" = .ok p := by decide +kernel
  have second : built "'" "a ? b" "\"; --" = .ok q := by decide +kernel
  have same : (s "n" "t").unnamed = (s "a ? b" "\"; --").unnamed := rfl
  have outcome : SameOutcome _ (built "people" "n" "t") (built "'" "a ? b" "\"; --") :=
    statements (s "n" "t") (s "a ? b" "\"; --") .accessor (registry "people") (registry "'") same
      (registries _ _ rfl)
  rw [first, second] at outcome
  exact ⟨by decide, same, first, second, (itself _).mpr (by decide),
    outcome.2 ⟨by decide +kernel, by decide +kernel⟩ ⟨by decide +kernel, by decide +kernel⟩⟩

/-- The quote in the name of a table ends its quoting: what is behind it is a condition. -/
theorem tokens_of_names_injection :
    let name := "a` WHERE `b"
    let s (table : String) : Statement account := .delete ⟨some table, []⟩
    let built (table : String) := ((s table).build ⟨.mysql, .accessor⟩ .empty).result
    let shapes (sql : String) := (tokens isQuoteChar sql.toList).map Token.shape
    tokens isQuoteChar (quotedName '\x60' name).toList =
        [.quoted '\x60' ['a'], .symbol ' ', .word "WHERE".toList, .symbol ' ',
          .quoted '\x60' ['b']] ∧
      (s "a").unnamed = (s name).unnamed ∧
      built "a" = .ok ⟨"DELETE FROM `a`;", []⟩ ∧
      built name = .ok ⟨"DELETE FROM `a` WHERE `b`;", []⟩ ∧
      shapes "DELETE FROM `a`;" ≠ shapes "DELETE FROM `a` WHERE `b`;" := by
  intro name s built shapes
  refine ⟨?_, rfl, ?_, ?_, ?_⟩
  · decide +kernel
  · decide +kernel
  · decide +kernel
  · decide +kernel

end RecordSql
