import RecordSql.Proofs.Reading
/-! # Reading sources back

A join stands in parentheses, and behind its right source there is ` USING (`, ` ON ` or the
closing parenthesis. None of these begins like ` AS `, so a reader that goes from left to
right and never looks ahead finds the resolved source again (`reads_source`), whatever stands
behind it. -/
set_option autoImplicit false
namespace RecordSql

namespace Resolved

/-- A source with all its names in place. A join has its list of conditions as one. -/
inductive Source
  | table (name : String) (aliasName : Option String)
  | join (kind : JoinKind) (left right : Source) (columns : List String)
    (condition : Option Condition)

def aliasPieces : Option String → List Piece
  | none => []
  | some name => [.text " AS ", .name name]

def tailPieces (columns : List String) : List Piece :=
  columns.flatMap fun column => [.text ",", .name column]

def usingPieces : List String → List Piece
  | [] => []
  | column :: rest => .text " USING (" :: .name column :: tailPieces rest ++ [.text ")"]

def onPieces : Option Condition → List Piece
  | none => []
  | some p => .text " ON " :: p.pieces

def clausePieces (columns : List String) (condition : Option Condition) : List Piece :=
  usingPieces columns ++ onPieces condition ++ [.text ")"]

def Source.pieces : Source → List Piece
  | table name aliasName => .name name :: aliasPieces aliasName
  | join kind left right columns condition =>
    .text "(" :: left.pieces ++ .text (" " ++ kind.sql ++ " ") :: right.pieces ++
      clausePieces columns condition

/-! ## The reader -/

section Reader

variable (quote : Char)

def readAlias (cs : List Char) : Option (Option String × List Char) :=
  match skip " AS " cs with
  | none => some (none, cs)
  | some cs => (readName quote cs).map fun (name, cs) => (some name, cs)

def readNames : Nat → List Char → Option (List String × List Char)
  | 0, _ => none
  | fuel + 1, cs => do
    let (name, cs) ← readName quote cs
    match skip "," cs with
    | none => some ([name], cs)
    | some cs => (readNames fuel cs).map fun (rest, cs) => (name :: rest, cs)

def readUsing (fuel : Nat) (cs : List Char) : Option (List String × List Char) :=
  match skip " USING (" cs with
  | none => some ([], cs)
  | some cs => do
    let (columns, cs) ← readNames quote fuel cs
    let cs ← skip ")" cs
    some (columns, cs)

def readOn (fuel : Nat) (cs : List Char) (args : List Value) :
    Option (Option Condition × List Char × List Value) :=
  match skip " ON " cs with
  | none => some (none, cs, args)
  | some cs => (readCondition quote fuel cs args).map fun (p, cs, args) => (some p, cs, args)

def readClauses (fuel : Nat) (cs : List Char) (args : List Value) :
    Option (List String × Option Condition × List Char × List Value) := do
  let (columns, cs) ← readUsing quote fuel cs
  let (condition, cs, args) ← readOn quote fuel cs args
  let cs ← skip ")" cs
  some (columns, condition, cs, args)

def readKind (cs : List Char) : Option (JoinKind × List Char) :=
  [JoinKind.inner, .left, .right].findSome? fun kind =>
    (skip (" " ++ kind.sql ++ " ") cs).map fun cs => (kind, cs)

/-- Reads one source from a text and its arguments. The fuel bounds the nesting. -/
def readSource : Nat → List Char → List Value → Option (Source × List Char × List Value)
  | 0, _, _ => none
  | fuel + 1, cs, args =>
    match skip "(" cs with
    | none => do
      let (name, cs) ← readName quote cs
      let (aliasName, cs) ← readAlias quote cs
      some (.table name aliasName, cs, args)
    | some cs => do
      let (left, cs, args) ← readSource fuel cs args
      let (kind, cs) ← readKind cs
      let (right, cs, args) ← readSource fuel cs args
      let (columns, condition, cs, args) ← readClauses quote fuel cs args
      some (.join kind left right columns condition, cs, args)

def Source.read (sql : String) (args : List Value) : Option Source :=
  match readSource quote sql.toList.length sql.toList args with
  | some (s, [], []) => some s
  | _ => none

end Reader

/-! ## Reading the clauses -/

/-- Two texts that differ where both still have characters. -/
def differ (text other : String) : Bool := (text.toList.zip other.toList).any fun (a, b) => a != b

theorem skip_other {text other : String} (different : differ text other = true)
    (rest : List Char) : skip text (other.toList ++ rest) = none := by
  have noPrefix (as bs : List Char) (different : (as.zip bs).any (fun (a, b) => a != b) = true) :
      as.isPrefixOf (bs ++ rest) = false := by
    induction as generalizing bs with
    | nil => simp at different
    | cons a as ih =>
      cases bs with
      | nil => simp at different
      | cons b bs =>
        rw [List.zip_cons_cons, List.any_cons, Bool.or_eq_true] at different
        rw [List.cons_append, List.isPrefixOf, Bool.and_eq_false_iff]
        rcases different with here | later
        · left
          simpa using here
        · right
          exact ih bs later
  rw [skip, noPrefix _ _ different]
  rfl

variable {quote : Char}

theorem readAlias_append {aliasName : Option String}
    (clean : ∀ name ∈ namesOf (aliasPieces aliasName), quote ∉ name.toList) {rest : List Char}
    (ends : skip " AS " rest = none) :
    readAlias quote ((sqlOf quote (aliasPieces aliasName)).toList ++ rest) =
      some (aliasName, rest) := by
  cases aliasName with
  | none => simp [aliasPieces, sqlOf, readAlias, ends]
  | some name =>
    have ownName : quote ∉ name.toList := clean name (by simp [aliasPieces, namesOf])
    have text : (sqlOf quote (aliasPieces (some name))).toList ++ rest =
        " AS ".toList ++ ((quotedName quote name).toList ++ rest) := by
      simp [aliasPieces, sqlOf, Piece.sql]
    rw [text]
    simp only [readAlias, skip_append, readName_append ownName, Option.map_some]

theorem readNames_append {column : String} {columns : List String}
    (clean : ∀ name ∈ column :: columns, quote ∉ name.toList) {rest : List Char}
    (ends : rest.head? ≠ some ',') {fuel : Nat} (enough : columns.length < fuel) :
    readNames quote fuel
        ((quotedName quote column).toList ++ ((sqlOf quote (tailPieces columns)).toList ++ rest)) =
      some (column :: columns, rest) := by
  induction columns generalizing column fuel with
  | nil =>
    obtain ⟨fuel, rfl⟩ : ∃ less, fuel = less + 1 := ⟨fuel - 1, by simp at enough; omega⟩
    have ownName : quote ∉ column.toList := clean column List.mem_cons_self
    have noComma : skip "," rest = none := skip_eq_none (d := ',') (by decide) ends
    have text : (sqlOf quote (tailPieces [])).toList ++ rest = rest := by simp [tailPieces, sqlOf]
    rw [text]
    simp only [readNames, readName_append ownName, Option.bind_eq_bind, Option.bind_some, noComma]
  | cons next columns ih =>
    rw [List.length_cons] at enough
    obtain ⟨fuel, rfl⟩ : ∃ less, fuel = less + 1 := ⟨fuel - 1, by omega⟩
    have ownName : quote ∉ column.toList := clean column List.mem_cons_self
    have text : (sqlOf quote (tailPieces (next :: columns))).toList ++ rest =
        ",".toList ++ ((quotedName quote next).toList ++
          ((sqlOf quote (tailPieces columns)).toList ++ rest)) := by
      simp [tailPieces, sqlOf, Piece.sql]
    have smaller : columns.length < fuel := by omega
    have others := ih (fun name member => clean name (List.mem_cons_of_mem _ member)) smaller
    rw [text]
    simp only [readNames, readName_append ownName, Option.bind_eq_bind, Option.bind_some,
      skip_append, others, Option.map_some]

theorem namesOf_tail (columns : List String) : namesOf (tailPieces columns) = columns := by
  induction columns with
  | nil => rfl
  | cons column rest ih =>
    have split : tailPieces (column :: rest) = .text "," :: .name column :: tailPieces rest := rfl
    simp only [split, namesOf, List.filterMap_cons] at ih ⊢
    rw [ih]

theorem namesOf_using (columns : List String) : namesOf (usingPieces columns) = columns := by
  cases columns with
  | nil => rfl
  | cons column rest =>
    have tail := namesOf_tail rest
    simp only [namesOf] at tail
    simp [usingPieces, namesOf, tail]

theorem head?_shut (rest : List Char) : (")".toList ++ rest).head? = some ')' := by
  have shut : ")".toList = [')'] := by decide
  rw [shut]
  rfl

theorem readUsing_append {columns : List String}
    (clean : ∀ name ∈ namesOf (usingPieces columns), quote ∉ name.toList) {rest : List Char}
    (ends : skip " USING (" rest = none) {fuel : Nat} (enough : columns.length ≤ fuel) :
    readUsing quote fuel ((sqlOf quote (usingPieces columns)).toList ++ rest) =
      some (columns, rest) := by
  rw [namesOf_using] at clean
  cases columns with
  | nil => simp [usingPieces, sqlOf, readUsing, ends]
  | cons column columns =>
    have text : (sqlOf quote (usingPieces (column :: columns))).toList ++ rest =
        " USING (".toList ++ ((quotedName quote column).toList ++
          ((sqlOf quote (tailPieces columns)).toList ++ (")".toList ++ rest))) := by
      simp [usingPieces, sqlOf, sqlOf_append, Piece.sql]
    have shut : (")".toList ++ rest).head? ≠ some ',' := by
      rw [head?_shut]
      decide
    rw [text]
    simp only [readUsing, skip_append, readNames_append clean shut (Nat.lt_of_succ_le enough),
      Option.bind_eq_bind, Option.bind_some]

theorem readKind_append (kind : JoinKind) (rest : List Char) :
    readKind ((" " ++ kind.sql ++ " ").toList ++ rest) = some (kind, rest) := by
  have others (other : JoinKind) (different : other ≠ kind) :
      skip (" " ++ other.sql ++ " ") ((" " ++ kind.sql ++ " ").toList ++ rest) = none := by
    apply skip_other
    cases other <;> cases kind <;> first | exact absurd rfl different | decide
  cases kind with
  | inner => simp only [readKind, List.findSome?_cons, skip_append, Option.map_some]
  | left =>
    have notInner := others .inner (by decide)
    simp only [readKind, List.findSome?_cons, notInner, skip_append, Option.map_none,
      Option.map_some]
  | right =>
    have notInner := others .inner (by decide)
    have notLeft := others .left (by decide)
    simp only [readKind, List.findSome?_cons, notInner, notLeft, skip_append, Option.map_none,
      Option.map_some]

theorem namesOf_on (p : Condition) : namesOf (onPieces (some p)) = namesOf p.pieces := rfl

theorem argsOf_alias (aliasName : Option String) : argsOf (aliasPieces aliasName) = [] := by
  cases aliasName <;> rfl

theorem argsOf_tail (columns : List String) : argsOf (tailPieces columns) = [] := by
  induction columns with
  | nil => rfl
  | cons column rest ih => exact ih

theorem argsOf_using (columns : List String) : argsOf (usingPieces columns) = [] := by
  cases columns with
  | nil => rfl
  | cons column rest => simp [usingPieces, argsOf, argsOf_append, Piece.args, argsOf_tail]

/-! ## Reading a join -/

section Whole

variable (known : isQuoteChar quote = true)

include known in
/-- The condition of a join, in front of the closing parenthesis. -/
theorem readOn_append {condition : Option Condition}
    (clean : ∀ name ∈ namesOf (onPieces condition), quote ∉ name.toList) {fuel : Nat}
    (enough : (sqlOf quote (onPieces condition)).toList.length ≤ fuel) (rest : List Char)
    (more : List Value) :
    readOn quote fuel ((sqlOf quote (onPieces condition)).toList ++ (")".toList ++ rest))
        (argsOf (onPieces condition) ++ more) =
      some (condition, ")".toList ++ rest, more) := by
  cases condition with
  | none =>
    have noOn : skip " ON " (")".toList ++ rest) = none := skip_other (by decide) rest
    simp only [onPieces, sqlOf, argsOf, readOn, String.toList_empty, List.nil_append, noOn]
  | some p =>
    rw [namesOf_on] at clean
    rw [onPieces, length_text] at enough
    have text : (sqlOf quote (onPieces (some p))).toList ++ (")".toList ++ rest) =
        " ON ".toList ++ ((sqlOf quote p.pieces).toList ++ (")".toList ++ rest)) := by
      rw [onPieces, toList_sqlOf_cons, Piece.sql, List.append_assoc]
    have args : argsOf (onPieces (some p)) ++ more = argsOf p.pieces ++ more := by
      simp [onPieces, argsOf, Piece.args]
    have inner := reads_condition known p fuel (by omega) clean (")".toList ++ rest) more
      (by rw [head?_shut]; decide)
    rw [text, args]
    simp only [readOn, skip_append, inner, Option.map_some]

theorem toList_sqlOf_clauses (columns : List String) (condition : Option Condition)
    (rest : List Char) :
    (sqlOf quote (clausePieces columns condition)).toList ++ rest =
      (sqlOf quote (usingPieces columns)).toList ++
        ((sqlOf quote (onPieces condition)).toList ++ (")".toList ++ rest)) := by
  simp [clausePieces, sqlOf_append, sqlOf, Piece.sql]

theorem length_clauses (columns : List String) (condition : Option Condition) :
    (sqlOf quote (clausePieces columns condition)).toList.length =
      (sqlOf quote (usingPieces columns)).toList.length +
        (sqlOf quote (onPieces condition)).toList.length + 1 := by
  have shut : ")".toList.length = 1 := by decide
  rw [← List.append_nil (sqlOf quote (clausePieces columns condition)).toList,
    toList_sqlOf_clauses, List.append_nil, List.length_append, List.length_append, shut]
  omega

theorem skip_on {text : String} (noOn : differ text " ON " = true) (noShut : differ text ")" = true)
    (condition : Option Condition) (rest : List Char) :
    skip text ((sqlOf quote (onPieces condition)).toList ++ (")".toList ++ rest)) = none := by
  cases condition with
  | none =>
    have empty : (sqlOf quote (onPieces none)).toList = [] := by simp [onPieces, sqlOf]
    rw [empty]
    exact skip_other noShut rest
  | some p =>
    rw [onPieces, toList_sqlOf_cons, Piece.sql, List.append_assoc]
    exact skip_other noOn _

/-- Nothing between the right source and what follows the join is read as an alias. -/
theorem skip_clauses (columns : List String) (condition : Option Condition) (rest : List Char) :
    skip " AS " ((sqlOf quote (clausePieces columns condition)).toList ++ rest) = none := by
  rw [toList_sqlOf_clauses]
  cases columns with
  | nil =>
    have empty : (sqlOf quote (usingPieces [])).toList = [] := by simp [usingPieces, sqlOf]
    rw [empty]
    exact skip_on (by decide) (by decide) condition rest
  | cons column columns =>
    rw [usingPieces, List.cons_append, toList_sqlOf_cons, Piece.sql, List.append_assoc]
    exact skip_other (by decide) _

theorem length_tail (columns : List String) :
    columns.length ≤ (sqlOf quote (tailPieces columns)).toList.length := by
  induction columns with
  | nil => exact Nat.zero_le _
  | cons column rest ih =>
    have comma : ",".toList.length = 1 := by decide
    have split : tailPieces (column :: rest) = .text "," :: .name column :: tailPieces rest := rfl
    rw [split, length_text, toList_sqlOf_cons, List.length_append, List.length_cons, comma]
    omega

theorem length_using (columns : List String) :
    columns.length ≤ (sqlOf quote (usingPieces columns)).toList.length := by
  cases columns with
  | nil => exact Nat.zero_le _
  | cons column rest =>
    have tail : rest.length ≤ (sqlOf quote (tailPieces rest)).toList.length := length_tail rest
    have keyword : " USING (".toList.length = 8 := by decide
    rw [usingPieces, List.cons_append, length_text, List.cons_append, toList_sqlOf_cons,
      toList_sqlOf_append, List.length_append, List.length_append, List.length_cons, keyword]
    omega

include known in
theorem readClauses_append {columns : List String} {condition : Option Condition} {fuel : Nat}
    (clean : ∀ n ∈ namesOf (clausePieces columns condition), quote ∉ n.toList)
    (enough : (sqlOf quote (clausePieces columns condition)).toList.length ≤ fuel)
    (rest : List Char) (more : List Value) :
    readClauses quote fuel ((sqlOf quote (clausePieces columns condition)).toList ++ rest)
        (argsOf (clausePieces columns condition) ++ more) =
      some (columns, condition, rest, more) := by
  rw [length_clauses] at enough
  have many : columns.length ≤ (sqlOf quote (usingPieces columns)).toList.length :=
    length_using columns
  have names : namesOf (clausePieces columns condition) =
      namesOf (usingPieces columns) ++ namesOf (onPieces condition) := by
    simp [clausePieces, namesOf]
  rw [names, List.forall_mem_append] at clean
  have args : argsOf (clausePieces columns condition) = argsOf (onPieces condition) := by
    simp [clausePieces, argsOf, argsOf_append, Piece.args, argsOf_using]
  have notUsing : skip " USING ("
      ((sqlOf quote (onPieces condition)).toList ++ (")".toList ++ rest)) = none :=
    skip_on (by decide) (by decide) condition rest
  have enoughColumns : columns.length ≤ fuel := by omega
  have enoughCondition : (sqlOf quote (onPieces condition)).toList.length ≤ fuel := by omega
  have readColumns := readUsing_append clean.1 notUsing enoughColumns
  have readCondition := readOn_append known clean.2 enoughCondition rest more
  rw [args, toList_sqlOf_clauses]
  simp only [readClauses, skip_append, readColumns, readCondition, Option.bind_eq_bind,
    Option.bind_some]

theorem head?_sqlOf_table (name : String) (aliasName : Option String) (rest : List Char) :
    ((sqlOf quote (Source.table name aliasName).pieces).toList ++ rest).head? = some quote := by
  simp [Source.pieces, sqlOf, Piece.sql, quotedName]

/-- A reader of sources that takes exactly this one from the front of any text and any
arguments. Only an alias behind a table would be mistaken for a part of it. -/
def ReadsSource (quote : Char) (fuel : Nat) (s : Source) : Prop :=
  ∀ rest more, skip " AS " rest = none →
    readSource quote fuel ((sqlOf quote s.pieces).toList ++ rest) (argsOf s.pieces ++ more) =
      some (s, rest, more)

include known in
theorem readsSource_table {name : String} {aliasName : Option String} {fuel : Nat}
    (clean : ∀ n ∈ namesOf (Source.table name aliasName).pieces, quote ∉ n.toList) :
    ReadsSource quote (fuel + 1) (.table name aliasName) := by
  intro rest more ends
  have names : namesOf (Source.table name aliasName).pieces =
      name :: namesOf (aliasPieces aliasName) := rfl
  rw [names, List.forall_mem_cons] at clean
  have notJoin : skip "(" ((sqlOf quote (Source.table name aliasName).pieces).toList ++ rest) =
      none := by
    apply skip_eq_none (d := '(') (by decide)
    rw [head?_sqlOf_table]
    exact quote_ne known (by decide)
  have text : (sqlOf quote (Source.table name aliasName).pieces).toList ++ rest =
      (quotedName quote name).toList ++ ((sqlOf quote (aliasPieces aliasName)).toList ++ rest) := by
    rw [Source.pieces, toList_sqlOf_cons, Piece.sql, List.append_assoc]
  have args : argsOf (Source.table name aliasName).pieces ++ more = more := by
    simp [Source.pieces, argsOf, Piece.args, argsOf_alias]
  rw [args]
  simp only [readSource, notJoin]
  rw [text]
  simp only [readName_append clean.1, readAlias_append clean.2 ends, Option.bind_eq_bind,
    Option.bind_some]

include known in
theorem readsSource_join {kind : JoinKind} {left right : Source} {columns : List String}
    {condition : Option Condition} {fuel : Nat}
    (clean : ∀ n ∈ namesOf (clausePieces columns condition), quote ∉ n.toList)
    (enough : (sqlOf quote (clausePieces columns condition)).toList.length ≤ fuel)
    (first : ReadsSource quote fuel left) (second : ReadsSource quote fuel right) :
    ReadsSource quote (fuel + 1) (.join kind left right columns condition) := by
  intro rest more _
  have text : (sqlOf quote (Source.join kind left right columns condition).pieces).toList ++ rest =
      "(".toList ++ ((sqlOf quote left.pieces).toList ++ ((" " ++ kind.sql ++ " ").toList ++
        ((sqlOf quote right.pieces).toList ++
          ((sqlOf quote (clausePieces columns condition)).toList ++ rest)))) := by
    simp [Source.pieces, sqlOf, sqlOf_append, Piece.sql]
  have args : argsOf (Source.join kind left right columns condition).pieces ++ more =
      argsOf left.pieces ++
        (argsOf right.pieces ++ (argsOf (clausePieces columns condition) ++ more)) := by
    simp [Source.pieces, argsOf, argsOf_append, Piece.args]
  -- Behind the left source stands the kind of join, behind the right one what closes the join.
  have notAlias (behind : List Char) :
      skip " AS " ((" " ++ kind.sql ++ " ").toList ++ behind) = none := by
    apply skip_other
    cases kind <;> decide
  have readLeft := first _ (argsOf right.pieces ++ (argsOf (clausePieces columns condition) ++ more))
    (notAlias ((sqlOf quote right.pieces).toList ++
      ((sqlOf quote (clausePieces columns condition)).toList ++ rest)))
  have readRight := second ((sqlOf quote (clausePieces columns condition)).toList ++ rest)
    (argsOf (clausePieces columns condition) ++ more) (skip_clauses columns condition rest)
  have readRest := readClauses_append known clean enough rest more
  rw [text, args]
  simp only [readSource, skip_append, readLeft, readKind_append, readRight, readRest,
    Option.bind_eq_bind, Option.bind_some]

include known in
/-- By induction on the source: a join spends one step of the fuel, and is longer than each of
its sources by the parenthesis at least. -/
theorem reads_source {s : Source} {fuel : Nat}
    (enough : (sqlOf quote s.pieces).toList.length ≤ fuel)
    (clean : ∀ name ∈ namesOf s.pieces, quote ∉ name.toList) : ReadsSource quote fuel s := by
  induction s generalizing fuel with
  | table name aliasName =>
    have positive : 2 ≤ (sqlOf quote (Source.table name aliasName).pieces).toList.length := by
      rw [Source.pieces, toList_sqlOf_cons, List.length_append]
      simp [Piece.sql, quotedName]
      omega
    obtain ⟨fuel, rfl⟩ : ∃ less, fuel = less + 1 := ⟨fuel - 1, by omega⟩
    exact readsSource_table known clean
  | join kind left right columns condition ihLeft ihRight =>
    have opening : "(".toList.length = 1 := by decide
    have split : (Source.join kind left right columns condition).pieces =
        .text "(" :: left.pieces ++ .text (" " ++ kind.sql ++ " ") ::
          (right.pieces ++ clausePieces columns condition) := by
      simp [Source.pieces]
    have names : namesOf (Source.join kind left right columns condition).pieces =
        namesOf left.pieces ++ (namesOf right.pieces ++ namesOf (clausePieces columns condition)) := by
      simp [split, namesOf]
    rw [names, List.forall_mem_append, List.forall_mem_append] at clean
    rw [split, length_around, length_text, toList_sqlOf_append, List.length_append, opening] at enough
    obtain ⟨fuel, rfl⟩ : ∃ less, fuel = less + 1 := ⟨fuel - 1, by omega⟩
    have first : ReadsSource quote fuel left := ihLeft (by omega) clean.1
    have second : ReadsSource quote fuel right := ihRight (by omega) clean.2.1
    exact readsSource_join known clean.2.2 (by omega) first second

include known in
theorem Source.read_sqlOf {s : Source} (clean : ∀ name ∈ namesOf s.pieces, quote ∉ name.toList) :
    Source.read quote (sqlOf quote s.pieces) (argsOf s.pieces) = some s := by
  have nothing : skip " AS " [] = none := by decide
  have whole := reads_source known (Nat.le_refl _) clean [] [] nothing
  rw [List.append_nil, List.append_nil] at whole
  rw [Source.read, whole]

end Whole

end Resolved

end RecordSql
