import RecordSql.Proofs.Bindings.Statement
import RecordSql.Proofs.Quoting
/-! # Placeholders and arguments

`placeholders` tells for every argument of a sequence of pieces where its question mark
stands: a bound value writes its own, a raw fragment has one for each of its arguments. The
question marks of the whole text are exactly these, as long as every piece is located: it
closes its quotes and has no other question mark outside them. Which characters quote is a
parameter; without any, every question mark counts. -/
set_option autoImplicit false
namespace RecordSql

/-- The names that pieces write: tables, columns and aliases. -/
def namesOf (pieces : List Piece) : List String :=
  pieces.filterMap fun
    | .name s => some s
    | _ => none

def rawsOf (pieces : List Piece) : List RawExpr :=
  pieces.filterMap fun
    | .raw r => some r
    | _ => none

theorem mem_namesOf {pieces : List Piece} {s : String} : s ∈ namesOf pieces ↔ .name s ∈ pieces := by
  simp only [namesOf, List.mem_filterMap]
  constructor
  · rintro ⟨piece, member, found⟩
    cases piece <;> simp_all
  · exact fun member => ⟨_, member, rfl⟩

theorem mem_rawsOf {pieces : List Piece} {r : RawExpr} : r ∈ rawsOf pieces ↔ .raw r ∈ pieces := by
  simp only [rawsOf, List.mem_filterMap]
  constructor
  · rintro ⟨piece, member, found⟩
    cases piece <;> simp_all
  · exact fun member => ⟨_, member, rfl⟩

section Location

variable (quotes : Char → Bool) (quote : Char)

def Piece.placeholders : Piece → List (Nat × Value)
  | text _ => []
  | name _ => []
  | raw r => (marks quotes none 0 r.sql.toList).zip r.args
  | bound v => [(0, v)]

def placeholders (start : Nat) : List Piece → List (Nat × Value)
  | [] => []
  | piece :: rest =>
    (piece.placeholders quotes).map (fun found => (start + found.1, found.2)) ++
      placeholders (start + (piece.sql quote).length) rest

/-- A piece whose question marks outside quotes are its placeholders. -/
structure Piece.Located (piece : Piece) : Prop where
  closes : ClosesQuotes quotes (piece.sql quote).toList
  positions : marks quotes none 0 (piece.sql quote).toList =
    (piece.placeholders quotes).map Prod.fst
  arguments : (piece.placeholders quotes).map Prod.snd = piece.args

variable {quotes quote}

/-- In the text of located pieces the question marks outside quotes are the placeholders,
and their arguments are those of the pieces. -/
theorem placeholders_sqlOf {pieces : List Piece}
    (located : ∀ piece ∈ pieces, piece.Located quotes quote) (start : Nat) :
    marks quotes none start (sqlOf quote pieces).toList =
        (placeholders quotes quote start pieces).map Prod.fst ∧
      (placeholders quotes quote start pieces).map Prod.snd = argsOf pieces := by
  induction pieces generalizing start with
  | nil => exact ⟨rfl, rfl⟩
  | cons piece rest ih =>
    have head := located piece List.mem_cons_self
    have tail := ih (fun other member => located other (List.mem_cons_of_mem piece member))
      (start + (piece.sql quote).length)
    constructor
    · have moved : marks quotes none (start + 0) (piece.sql quote).toList = _ :=
        marks_add none start 0 (piece.sql quote).toList
      rw [Nat.add_zero, head.positions, List.map_map] at moved
      rw [sqlOf, String.toList_append, marks_append, head.closes, String.length_toList, tail.1,
        moved, placeholders, List.map_append, List.map_map]
      rfl
    · rw [placeholders, List.map_append, List.map_map, tail.2, argsOf, ← head.arguments]
      rfl

theorem closesQuotes_sqlOf {pieces : List Piece}
    (closes : ∀ piece ∈ pieces, ClosesQuotes quotes (piece.sql quote).toList) :
    ClosesQuotes quotes (sqlOf quote pieces).toList := by
  induction pieces with
  | nil => rfl
  | cons piece rest ih =>
    have head := closes piece List.mem_cons_self
    have tail := ih fun other member => closes other (List.mem_cons_of_mem piece member)
    rw [sqlOf, String.toList_append]
    exact head.append tail

theorem outline_sqlOf {pieces : List Piece}
    (closes : ∀ piece ∈ pieces, ClosesQuotes quotes (piece.sql quote).toList) :
    outline quotes none (sqlOf quote pieces).toList =
      pieces.flatMap fun piece => outline quotes none (piece.sql quote).toList := by
  induction pieces with
  | nil => rfl
  | cons piece rest ih =>
    have head : openBehind quotes none (piece.sql quote).toList = none :=
      closes piece List.mem_cons_self
    have tail := ih fun other member => closes other (List.mem_cons_of_mem piece member)
    rw [sqlOf, String.toList_append, outline_append, head, tail, List.flatMap_cons]

/-- Whatever a name holds but the quote itself, only its quotes are left of it. -/
theorem outline_quotedName {s : String} (quoting : quotes quote = true)
    (unquoted : quote ∉ s.toList) :
    outline quotes none (quotedName quote s).toList = [quote, quote] := by
  have text : (quotedName quote s).toList = quote :: (s.toList ++ [quote]) := by
    simp [quotedName]
  have inside : openBehind quotes (some quote) s.toList = some quote := openBehind_some unquoted
  rw [text, outline_none_cons, openAfter, if_pos quoting, outline_append, outline_some unquoted,
    inside]
  simp [outline]

/-- What is found at a placeholder of located pieces is a question mark. -/
theorem getElem?_placeholder {pieces : List Piece}
    (located : ∀ piece ∈ pieces, piece.Located quotes quote) {found : Nat × Value}
    (member : found ∈ placeholders quotes quote 0 pieces) :
    (sqlOf quote pieces).toList[found.1]? = some '?' := by
  have position : found.1 ∈ marks quotes none 0 (sqlOf quote pieces).toList := by
    rw [(placeholders_sqlOf located 0).1]
    exact List.mem_map_of_mem member
  exact (getElem?_of_mem_marks position).2

theorem located_text {s : String} (unmarked : ∀ c ∈ s.toList, c ≠ '?')
    (unquoted : ∀ c ∈ s.toList, quotes c = false) : (Piece.text s).Located quotes quote :=
  ⟨closesQuotes_of_unquoted unquoted, marks_eq_nil none 0 unmarked, rfl⟩

theorem located_bound {v : Value} (notQuote : quotes '?' = false) :
    (Piece.bound v).Located quotes quote := by
  have text : ((Piece.bound v).sql quote).toList = ['?'] := by
    rw [Piece.sql]
    decide
  refine ⟨?_, by rw [text]; rfl, rfl⟩
  rw [text]
  exact closesQuotes_of_unquoted fun c member => by rw [List.mem_singleton.mp member, notQuote]

theorem located_raw {r : RawExpr} (closes : ClosesQuotes quotes r.sql.toList)
    (balanced : (marks quotes none 0 r.sql.toList).length = r.args.length) :
    (Piece.raw r).Located quotes quote :=
  ⟨closes, (List.map_fst_zip (Nat.le_of_eq balanced)).symm,
    List.map_snd_zip (Nat.le_of_eq balanced.symm)⟩

/-- A name that holds no question mark, where nothing quotes. -/
theorem located_name {s : String} (notMark : quote ≠ '?') (unmarked : '?' ∉ s.toList) :
    (Piece.name s).Located (fun _ => false) quote := by
  have text : ((Piece.name s).sql quote).toList = quote :: s.toList ++ [quote] := by
    simp [Piece.sql, quotedName]
  refine ⟨closesQuotes_of_unquoted fun _ _ => rfl, ?_, rfl⟩
  refine marks_eq_nil none 0 fun c member => ?_
  rw [text] at member
  simp only [List.cons_append, List.mem_cons, List.mem_append, List.not_mem_nil, or_false] at member
  rcases member with rfl | inside | rfl
  · exact notMark
  · exact fun mark => unmarked (mark ▸ inside)
  · exact notMark

/-- A name between quotes, whatever it holds but the quote itself. -/
theorem located_quotedName {s : String} (quoting : quotes quote = true) (notMark : quote ≠ '?')
    (unquoted : quote ∉ s.toList) : (Piece.name s).Located quotes quote := by
  have text : ((Piece.name s).sql quote).toList = quote :: (s.toList ++ [quote]) := by
    simp [Piece.sql, quotedName]
  have opens : openAfter quotes none quote = some quote := by simp [openAfter, quoting]
  have inside : openBehind quotes (some quote) s.toList = some quote := openBehind_some unquoted
  refine ⟨?_, ?_, rfl⟩
  · rw [text, ClosesQuotes, openBehind_cons, opens, openBehind_append, inside]
    simp [openBehind, openAfter]
  · rw [text, marks, opens, marks_append, marks_some _ unquoted, inside]
    simp [marks, notMark, Piece.placeholders]

/-- The pieces of a statement are located as soon as its names and its raw fragments are. -/
theorem located_of_plain {pieces : List Piece} (notQuote : quotes '?' = false)
    (known : ∀ c, quotes c = true → isQuoteChar c = true)
    (plain : ∀ t, .text t ∈ pieces → IsPlain t)
    (names : ∀ s ∈ namesOf pieces, (Piece.name s).Located quotes quote)
    (raws : ∀ r ∈ rawsOf pieces, (Piece.raw r).Located quotes quote) :
    ∀ piece ∈ pieces, piece.Located quotes quote := by
  intro piece member
  cases piece with
  | text t =>
    have quiet := plain t member
    refine located_text (fun c inside => (quiet c inside).1) fun c inside => ?_
    cases quoting : quotes c with
    | false => rfl
    | true => rw [← known c quoting, (quiet c inside).2]
  | name s => exact names s (mem_namesOf.mpr member)
  | raw r => exact raws r (mem_rawsOf.mpr member)
  | bound v => exact located_bound notQuote

end Location

theorem Dialect.quote_ne_mark (d : Dialect) : d.quote ≠ '?' := by
  cases d <;> decide

theorem Dialect.isQuoteChar_quote (d : Dialect) : isQuoteChar d.quote = true := by
  cases d <;> decide

/-- How many question marks a text has in all. -/
theorem length_marks_unquoted (cs : List Char) :
    (marks (fun _ => false) none 0 cs).length = cs.count '?' := by
  rw [marks_eq_findIdxs, List.length_findIdxs, List.count]

/-- Every text of a built statement is plain. -/
theorem Statement.plain_of_build {e : Entity} {style : Style} {registry : Registry}
    {s : Statement e} {q : Query} (built : (s.build style registry).result = .ok q) (t : String)
    (member : .text t ∈ (s.draft style registry).pieces) : IsPlain t := by
  by_cases written : s.queryType = .raw
  · cases s with
    | raw r => simp [draft] at member
    | _ => simp [queryType] at written
  · obtain ⟨model, middle, body, after, -, run, pieces⟩ :=
      yields_of_draft written (build_eq_ok built).1
    rw [pieces, List.mem_append, List.mem_singleton] at member
    rcases member with inside | atEnd
    · exact (s.binds_render style _ _ _ _ run).plain t inside
    · rw [Piece.text.inj atEnd]
      decide

namespace Statement

variable {e : Entity} {style : Style} {registry : Registry} {s : Statement e} {q : Query}

/-- Where no name holds the quote character and no raw fragment leaves a quote open, every piece of
a built statement closes its quotes. -/
theorem closesQuotes_piece_of_build {quotes : Char → Bool}
    (isQuote : quotes style.dialect.quote = true)
    (known : ∀ c, quotes c = true → isQuoteChar c = true)
    (built : (s.build style registry).result = .ok q)
    (clean : ∀ name ∈ namesOf (s.draft style registry).pieces, style.dialect.quote ∉ name.toList)
    (closes : ∀ r ∈ rawsOf (s.draft style registry).pieces, ClosesQuotes quotes r.sql.toList)
    (piece : Piece) (member : piece ∈ (s.draft style registry).pieces) :
    ClosesQuotes quotes (piece.sql style.dialect.quote).toList := by
  have unquoted {c : Char} (plain : isQuoteChar c = false) : quotes c = false :=
    Bool.eq_false_iff.mpr fun quoting => Bool.eq_false_iff.mp plain (known c quoting)
  cases piece with
  | text t =>
    exact closesQuotes_of_unquoted fun c found => unquoted (plain_of_build built t member c found).2
  | name t =>
    exact (located_quotedName isQuote style.dialect.quote_ne_mark
      (clean t (mem_namesOf.mpr member))).closes
  | raw r => exact closes r (mem_rawsOf.mpr member)
  | bound v => exact (located_bound (v := v) (unquoted (by decide))).closes

/-- A statement that builds is one sequence of pieces: its text and its arguments are the two
views of that sequence, and the bindings in it are those of the statement in order. Where no
name holds a question mark and every raw fragment has one for each of its arguments, the
question marks of the text are the placeholders, each written for its own argument. -/
theorem build_placeholders (written : s.queryType ≠ .raw)
    (built : (s.build style registry).result = .ok q) :
    let pieces := (s.draft style registry).pieces
    q.sql = sqlOf style.dialect.quote pieces ∧ q.args = argsOf pieces ∧
      (∃ model after, registry.get e = .ok (model, after) ∧
        pieces.filter Piece.isBinding = s.bindings style.materializer model) ∧
      ((∀ name ∈ namesOf pieces, '?' ∉ name.toList) →
        (∀ r ∈ rawsOf pieces, r.sql.toList.count '?' = r.args.length) →
        let found := placeholders (fun _ => false) style.dialect.quote 0 pieces
        q.sql.toList.count '?' = q.args.length ∧
          found.map Prod.fst = q.sql.toList.findIdxs (· == '?') ∧
          found.map Prod.snd = q.args) := by
  intro pieces
  obtain ⟨success, rfl⟩ := build_eq_ok built
  refine ⟨rfl, rfl, ?_, ?_⟩
  · obtain ⟨model, middle, body, after, found, run, drafted⟩ := yields_of_draft written success
    refine ⟨model, middle, found, ?_⟩
    have inside := (s.binds_render style _ _ _ _ run).bindings
    simp [pieces, drafted, inside, Piece.isBinding]
  · intro names raws
    have located : ∀ piece ∈ pieces, piece.Located (fun _ => false) style.dialect.quote :=
      located_of_plain rfl (by simp) (plain_of_build built)
        (fun name member => located_name style.dialect.quote_ne_mark (names name member))
        (fun r member => located_raw (closesQuotes_of_unquoted fun _ _ => rfl)
          (by rw [length_marks_unquoted, raws r member]))
    obtain ⟨positions, arguments⟩ := placeholders_sqlOf located 0
    refine ⟨?_, ?_, arguments⟩
    · rw [← length_marks_unquoted, Query.ofPieces, positions, ← arguments, List.length_map,
        List.length_map]
    · rw [← positions, marks_eq_findIdxs]
      rfl

def boundSelection : Statement account :=
  .select
    { source := none
      projection := [.raw ⟨"id + ?", [.int 5]⟩]
      conditions := [.and (.compare ⟨"id", none, none⟩ .eq (.value (.int 1)))
        (.raw ⟨"owner < ?", [.int 2]⟩)]
      groupBy := [], having := [], orderBy := [], limit := some 3, offset := none }

theorem build_placeholders_boundSelection :
    let q : Query := ⟨"SELECT id + ? FROM `account` WHERE (`id` = ?) AND ((owner < ?)) LIMIT ?;",
      [.int 5, .int 1, .int 2, .uint 3]⟩
    boundSelection.queryType ≠ .raw ∧
      (boundSelection.build ⟨.mysql, .accessor⟩ .empty).result = .ok q ∧
      placeholders (fun _ => false) '\x60' 0
          (boundSelection.draft ⟨.mysql, .accessor⟩ .empty).pieces =
        [(12, .int 5), (43, .int 1), (60, .int 2), (70, .uint 3)] ∧
      q.sql.toList.findIdxs (· == '?') = [12, 43, 60, 70] := by
  intro q
  have written : boundSelection.queryType ≠ .raw := by decide
  have built : (boundSelection.build ⟨.mysql, .accessor⟩ .empty).result = .ok q := by decide +kernel
  have found : placeholders (fun _ => false) '\x60' 0
      (boundSelection.draft ⟨.mysql, .accessor⟩ .empty).pieces =
        [(12, .int 5), (43, .int 1), (60, .int 2), (70, .uint 3)] := by decide +kernel
  obtain ⟨-, -, -, located⟩ := build_placeholders written built
  obtain ⟨-, positions, -⟩ := located (by decide +kernel) (by decide +kernel)
  refine ⟨written, built, found, ?_⟩
  rw [← positions]
  exact congrArg (List.map Prod.fst) found

end Statement

end RecordSql
