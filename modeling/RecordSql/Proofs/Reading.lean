import RecordSql.Proofs.Placeholders
import RecordSql.Proofs.Resolution
/-! # Reading conditions back

In the text of a condition every operand of an operator is a name, a placeholder or a group
in parentheses (`IsCondition`). A reader that takes one operand, one operator and one more
operand, and knows nothing of precedence, finds the resolved condition again
(`readCondition_append`). So conditions with the same text and the same arguments have the
same resolved tree. -/
set_option autoImplicit false
namespace RecordSql

/-! ## The shape of the text -/

section Grammar

variable (quote : Char)

/-- A name between quotes, which does not hold the quote itself. -/
def IsName (s : String) : Prop := ∃ name : String, quote ∉ name.toList ∧ s = quotedName quote name

mutual

/-- What may stand beside an operator. -/
inductive IsOperand : String → Prop
  | column {name : String} (isName : IsName quote name) : IsOperand name
  | qualified {qualifier name : String} (isQualifier : IsName quote qualifier)
      (isName : IsName quote name) : IsOperand (qualifier ++ "." ++ name)
  | placeholder : IsOperand "?"
  | group {s : String} (inner : IsCondition s) : IsOperand ("(" ++ s ++ ")")

/-- One operator and its operands. -/
inductive IsCondition : String → Prop
  | binary {left right : String} {op : Operator} (isBinary : op ≠ .not) (isLeft : IsOperand left)
      (isRight : IsOperand right) : IsCondition (left ++ " " ++ op.sql ++ " " ++ right)
  | not {operand : String} (isOperand : IsOperand operand) : IsCondition ("NOT " ++ operand)

end

end Grammar

/-! ## The reader -/

def skip (text : String) (cs : List Char) : Option (List Char) :=
  if text.toList.isPrefixOf cs then some (cs.drop text.toList.length) else none

namespace Resolved

section Reader

variable (quote : Char)

def readName (cs : List Char) : Option (String × List Char) := do
  let cs ← skip (.singleton quote) cs
  let behind ← skip (.singleton quote) (cs.dropWhile (· != quote))
  some (.ofList (cs.takeWhile (· != quote)), behind)

def readColumn (cs : List Char) : Option (Column × List Char) := do
  let (first, behind) ← readName quote cs
  match skip "." behind with
  | none => some (⟨none, first⟩, behind)
  | some cs => do
    let (name, behind) ← readName quote cs
    some (⟨some first, name⟩, behind)

def binaryOperators : List Operator :=
  [.comparison .eq, .comparison .ne, .comparison .lt, .comparison .le, .comparison .gt,
    .comparison .ge, .comparison .like, .and, .or]

def readOperator (cs : List Char) : Option (Operator × List Char) := do
  let cs ← skip " " cs
  let op ← binaryOperators.find? fun op => op.sql.toList == cs.takeWhile (· != ' ')
  let behind ← skip " " (cs.dropWhile (· != ' '))
  some (op, behind)

/-- A comparison has a column on its left; AND and OR stand between groups. -/
def binary? : Operand → Operator → Operand → Option Condition
  | .column c, .comparison op, right => some (.compare c op right)
  | .group p, .and, .group q => some (.and p q)
  | .group p, .or, .group q => some (.or p q)
  | _, _, _ => none

def negation? : Operand → Option Condition
  | .group p => some (.not p)
  | _ => none

mutual

/-- Reads one operand from a text and its arguments. The fuel bounds the nesting. -/
def readOperand : Nat → List Char → List Value → Option (Operand × List Char × List Value)
  | 0, _, _ => none
  | fuel + 1, cs, args =>
    match skip "(" cs with
    | some cs => do
      let (p, cs, args) ← readCondition fuel cs args
      let cs ← skip ")" cs
      some (.group p, cs, args)
    | none =>
      match skip "?" cs with
      | some cs => args.head?.map fun v => (.value v, cs, args.tail)
      | none => (readColumn quote cs).map fun (c, cs) => (.column c, cs, args)

def readCondition : Nat → List Char → List Value → Option (Condition × List Char × List Value)
  | 0, _, _ => none
  | fuel + 1, cs, args =>
    match skip "NOT " cs with
    | some cs => do
      let (operand, cs, args) ← readOperand fuel cs args
      let p ← negation? operand
      some (p, cs, args)
    | none => do
      let (left, cs, args) ← readOperand fuel cs args
      let (op, cs) ← readOperator cs
      let (right, cs, args) ← readOperand fuel cs args
      let p ← binary? left op right
      some (p, cs, args)

end

/-- The condition that a text with its arguments spells, if nothing is left over. -/
def read (sql : String) (args : List Value) : Option Condition :=
  match readCondition quote sql.toList.length sql.toList args with
  | some (p, [], []) => some p
  | _ => none

end Reader

/-! ## Reading what was written -/

theorem skip_append (text : String) (rest : List Char) : skip text (text.toList ++ rest) = some rest := by
  simp [skip]

theorem skip_eq_none {text : String} {d : Char} {cs : List Char}
    (starts : text.toList.head? = some d) (other : cs.head? ≠ some d) : skip text cs = none := by
  unfold skip
  split
  next found =>
    obtain ⟨rest, rfl⟩ := List.isPrefixOf_iff_prefix.mp found
    rw [List.head?_append, starts] at other
    exact absurd rfl other
  next => rfl

variable {quote : Char}

theorem readName_append {name : String} (clean : quote ∉ name.toList) (rest : List Char) :
    readName quote ((quotedName quote name).toList ++ rest) = some (name, rest) := by
  have text : (quotedName quote name).toList ++ rest =
      (String.singleton quote).toList ++ (name.toList ++ quote :: rest) := by
    simp [quotedName]
  have inside : ∀ c ∈ name.toList, (c != quote) = true := by
    intro c member
    rw [bne_iff_ne]
    intro same
    exact clean (same ▸ member)
  have closes : skip (.singleton quote) (quote :: rest) = some rest := by
    have opened := skip_append (.singleton quote) rest
    rwa [String.toList_singleton] at opened
  rw [readName, text, skip_append, Option.bind_eq_bind, Option.bind_some,
    List.dropWhile_append_of_pos inside, List.takeWhile_append_of_pos inside]
  simp [closes]

theorem toList_sqlOf_cons (piece : Piece) (rest : List Piece) :
    (sqlOf quote (piece :: rest)).toList = (piece.sql quote).toList ++ (sqlOf quote rest).toList := by
  rw [sqlOf, String.toList_append]

theorem toList_sqlOf_append (front back : List Piece) :
    (sqlOf quote (front ++ back)).toList = (sqlOf quote front).toList ++ (sqlOf quote back).toList := by
  rw [sqlOf_append, String.toList_append]

theorem readColumn_append {c : Column} (clean : ∀ name ∈ namesOf c.pieces, quote ∉ name.toList)
    {rest : List Char} (ends : rest.head? ≠ some '.') :
    readColumn quote ((sqlOf quote c.pieces).toList ++ rest) = some (c, rest) := by
  obtain ⟨qualifier, name⟩ := c
  have dot : ".".toList.head? = some '.' := by decide
  cases qualifier with
  | none =>
    have ownName : quote ∉ name.toList := clean name (by simp [Column.pieces, namesOf])
    have text : (sqlOf quote (Column.pieces ⟨none, name⟩)).toList = (quotedName quote name).toList := by
      simp [Column.pieces, sqlOf, Piece.sql]
    rw [text]
    simp only [readColumn, readName_append ownName, Option.bind_eq_bind, Option.bind_some,
      skip_eq_none dot ends]
  | some qualifier =>
    have firstName : quote ∉ qualifier.toList := clean qualifier (by simp [Column.pieces, namesOf])
    have ownName : quote ∉ name.toList := clean name (by simp [Column.pieces, namesOf])
    have text : (sqlOf quote (Column.pieces ⟨some qualifier, name⟩)).toList ++ rest =
        (quotedName quote qualifier).toList ++
          (".".toList ++ ((quotedName quote name).toList ++ rest)) := by
      simp [Column.pieces, sqlOf, Piece.sql]
    rw [text]
    simp only [readColumn, readName_append firstName, Option.bind_eq_bind, Option.bind_some,
      skip_append, readName_append ownName]

theorem readOperator_append {op : Operator} (isBinary : op ≠ .not) (rest : List Char) :
    readOperator ((" " ++ op.sql ++ " ").toList ++ rest) = some (op, rest) := by
  have blank : " ".toList = [' '] := by decide
  have text : (" " ++ op.sql ++ " ").toList ++ rest =
      " ".toList ++ (op.sql.toList ++ ' ' :: rest) := by
    simp [blank]
  have inside : ∀ c ∈ op.sql.toList, (c != ' ') = true := by
    rw [← List.all_eq_true]
    cases op with
    | comparison op => cases op <;> decide
    | _ => decide
  have listed : (binaryOperators.find? fun other => other.sql.toList == op.sql.toList) = some op := by
    cases op with
    | comparison op => cases op <;> decide
    | not => exact absurd rfl isBinary
    | _ => decide
  have closes : skip " " (' ' :: rest) = some rest := by
    have opened := skip_append " " rest
    rwa [blank] at opened
  rw [text, readOperator, skip_append, Option.bind_eq_bind, Option.bind_some,
    List.dropWhile_append_of_pos inside, List.takeWhile_append_of_pos inside]
  simp [listed, closes]

/-- A reader that takes exactly what these pieces write from the front of any text and any
arguments. Only a point behind a name would be mistaken for a part of it. -/
def Reads {τ : Type} (quote : Char)
    (reader : List Char → List Value → Option (τ × List Char × List Value)) (pieces : List Piece)
    (t : τ) : Prop :=
  ∀ rest more, rest.head? ≠ some '.' →
    reader ((sqlOf quote pieces).toList ++ rest) (argsOf pieces ++ more) = some (t, rest, more)

theorem head?_sqlOf_column (c : Column) (rest : List Char) :
    ((sqlOf quote c.pieces).toList ++ rest).head? = some quote := by
  obtain ⟨qualifier, name⟩ := c
  cases qualifier <;> simp [Column.pieces, sqlOf, Piece.sql, quotedName]

theorem argsOf_column (c : Column) : argsOf c.pieces = [] := by
  obtain ⟨qualifier, name⟩ := c
  cases qualifier <;> rfl

section Reads

variable (known : isQuoteChar quote = true) {fuel : Nat}

include known in
theorem quote_ne {c : Char} (plain : isQuoteChar c = false) : some quote ≠ some c := by
  intro same
  rw [Option.some.inj same, plain] at known
  contradiction

include known in
theorem reads_column {c : Column} (clean : ∀ name ∈ namesOf c.pieces, quote ∉ name.toList) :
    Reads quote (readOperand quote (fuel + 1)) c.pieces (.column c) := by
  intro rest more ends
  have head : ((sqlOf quote c.pieces).toList ++ rest).head? = some quote :=
    head?_sqlOf_column c rest
  have notGroup : skip "(" ((sqlOf quote c.pieces).toList ++ rest) = none :=
    skip_eq_none (d := '(') (by decide) (by rw [head]; exact quote_ne known (by decide))
  have notMark : skip "?" ((sqlOf quote c.pieces).toList ++ rest) = none :=
    skip_eq_none (d := '?') (by decide) (by rw [head]; exact quote_ne known (by decide))
  simp only [readOperand, notGroup, notMark, readColumn_append clean ends, argsOf_column,
    List.nil_append, Option.map_some]

theorem reads_value {v : Value} :
    Reads quote (readOperand quote (fuel + 1)) [.bound v] (.value v) := by
  intro rest more _
  have text : (sqlOf quote [.bound v]).toList ++ rest = "?".toList ++ rest := by
    simp [sqlOf, Piece.sql]
  have mark : "?".toList = ['?'] := by decide
  have notGroup : skip "(" ("?".toList ++ rest) = none :=
    skip_eq_none (d := '(') (by decide) (by simp [mark])
  rw [text]
  simp only [readOperand, notGroup, skip_append]
  rfl

theorem toList_sqlOf_group (p : Condition) :
    (sqlOf quote (Operand.group p).pieces).toList =
      "(".toList ++ ((sqlOf quote p.pieces).toList ++ ")".toList) := by
  simp [Operand.pieces, toList_sqlOf_append, sqlOf, Piece.sql]

theorem reads_group {p : Condition} (inner : Reads quote (readCondition quote fuel) p.pieces p) :
    Reads quote (readOperand quote (fuel + 1)) (Operand.group p).pieces (.group p) := by
  intro rest more _
  have args : argsOf (Operand.group p).pieces ++ more = argsOf p.pieces ++ more := by
    simp [Operand.pieces, argsOf, argsOf_append, Piece.args]
  have shut : ")".toList = [')'] := by decide
  have inside := inner (")".toList ++ rest) more (by simp [shut])
  rw [toList_sqlOf_group, args, List.append_assoc, List.append_assoc]
  simp only [readOperand, skip_append, inside, Option.bind_eq_bind, Option.bind_some]

theorem head?_sqlOf_group (p : Condition) (rest : List Char) :
    ((sqlOf quote (Operand.group p).pieces).toList ++ rest).head? = some '(' := by
  have opening : "(".toList = ['('] := by decide
  rw [toList_sqlOf_group, opening]
  rfl

theorem reads_binary {left right : Operand} {op : Operator} {p : Condition}
    (joined : binary? left op right = some p)
    (notNegated : ∀ rest, ((sqlOf quote left.pieces).toList ++ rest).head? ≠ some 'N')
    (first : Reads quote (readOperand quote fuel) left.pieces left)
    (second : Reads quote (readOperand quote fuel) right.pieces right) :
    Reads quote (readCondition quote (fuel + 1))
      (left.pieces ++ .text (" " ++ op.sql ++ " ") :: right.pieces) p := by
  intro rest more ends
  have isBinary : op ≠ .not := by
    rintro rfl
    cases left <;> simp [binary?] at joined
  have text : (sqlOf quote (left.pieces ++ .text (" " ++ op.sql ++ " ") :: right.pieces)).toList ++
      rest = (sqlOf quote left.pieces).toList ++ ((" " ++ op.sql ++ " ").toList ++
        ((sqlOf quote right.pieces).toList ++ rest)) := by
    rw [toList_sqlOf_append, toList_sqlOf_cons, Piece.sql, List.append_assoc, List.append_assoc]
  have args : argsOf (left.pieces ++ .text (" " ++ op.sql ++ " ") :: right.pieces) ++ more =
      argsOf left.pieces ++ (argsOf right.pieces ++ more) := by
    simp [argsOf, argsOf_append, Piece.args]
  have blank : " ".toList = [' '] := by decide
  have notNot : skip "NOT " ((sqlOf quote left.pieces).toList ++ ((" " ++ op.sql ++ " ").toList ++
      ((sqlOf quote right.pieces).toList ++ rest))) = none :=
    skip_eq_none (d := 'N') (by decide) (notNegated _)
  have readFirst := first ((" " ++ op.sql ++ " ").toList ++
    ((sqlOf quote right.pieces).toList ++ rest)) (argsOf right.pieces ++ more) (by simp [blank])
  have readSecond := second rest more ends
  rw [text, args]
  simp only [readCondition, notNot, readFirst, readOperator_append isBinary, readSecond, joined,
    Option.bind_eq_bind, Option.bind_some]

/-- Two groups with AND or OR between them. -/
theorem reads_joined {left right p : Condition} {op : Operator}
    (joined : binary? (.group left) op (.group right) = some p)
    (first : Reads quote (readCondition quote fuel) left.pieces left)
    (second : Reads quote (readCondition quote fuel) right.pieces right) :
    Reads quote (readCondition quote (fuel + 1 + 1))
      ((Operand.group left).pieces ++ .text (" " ++ op.sql ++ " ") ::
        (Operand.group right).pieces) p := by
  refine reads_binary joined (fun rest => ?_) (reads_group first) (reads_group second)
  rw [head?_sqlOf_group]
  decide

theorem reads_not {p : Condition}
    (operand : Reads quote (readOperand quote fuel) (Operand.group p).pieces (.group p)) :
    Reads quote (readCondition quote (fuel + 1)) (.text "NOT " :: (Operand.group p).pieces)
      (.not p) := by
  intro rest more ends
  have read := operand rest more ends
  rw [toList_sqlOf_cons, Piece.sql, List.append_assoc, argsOf, Piece.args, List.nil_append]
  simp only [readCondition, skip_append, read, negation?, Option.bind_eq_bind, Option.bind_some]

theorem length_sqlOf_column (c : Column) : 2 ≤ (sqlOf quote c.pieces).toList.length := by
  obtain ⟨qualifier, name⟩ := c
  cases qualifier with
  | none => simp [Column.pieces, sqlOf, Piece.sql, quotedName]
  | some qualifier =>
    simp only [Column.pieces, sqlOf, Piece.sql, quotedName, String.toList_append,
      String.toList_singleton, List.length_append, List.length_singleton]
    omega

end Reads

/-! ## Reading a whole tree -/

theorem pieces_compare (left : Column) (op : Comparison) (right : Operand) :
    (Condition.compare left op right).pieces = (Operand.column left).pieces ++
      .text (" " ++ (Operator.comparison op).sql ++ " ") :: right.pieces := by
  simp [Condition.pieces, Operand.pieces, Operator.sql]

theorem pieces_and (left right : Condition) :
    (Condition.and left right).pieces = (Operand.group left).pieces ++
      .text (" " ++ Operator.and.sql ++ " ") :: (Operand.group right).pieces := by
  have keyword : " " ++ Operator.and.sql ++ " " = " AND " := by decide
  simp [Condition.pieces, Operand.pieces, keyword]

theorem pieces_or (left right : Condition) :
    (Condition.or left right).pieces = (Operand.group left).pieces ++
      .text (" " ++ Operator.or.sql ++ " ") :: (Operand.group right).pieces := by
  have keyword : " " ++ Operator.or.sql ++ " " = " OR " := by decide
  simp [Condition.pieces, Operand.pieces, keyword]

theorem pieces_not (p : Condition) :
    (Condition.not p).pieces = .text "NOT " :: (Operand.group p).pieces := by
  simp [Condition.pieces, Operand.pieces]

theorem namesOf_group (p : Condition) : namesOf (Operand.group p).pieces = namesOf p.pieces := by
  simp [Operand.pieces, namesOf]

theorem namesOf_text (t : String) (back : List Piece) :
    namesOf (.text t :: back) = namesOf back := rfl

theorem namesOf_around (front back : List Piece) (t : String) :
    namesOf (front ++ .text t :: back) = namesOf front ++ namesOf back := by
  simp [namesOf]

theorem length_group (p : Condition) :
    (sqlOf quote (Operand.group p).pieces).toList.length =
      (sqlOf quote p.pieces).toList.length + 2 := by
  have opening : "(".toList.length = 1 := by decide
  have shut : ")".toList.length = 1 := by decide
  rw [toList_sqlOf_group, List.length_append, List.length_append, opening, shut]
  omega

theorem length_text (t : String) (back : List Piece) :
    (sqlOf quote (.text t :: back)).toList.length =
      t.toList.length + (sqlOf quote back).toList.length := by
  rw [toList_sqlOf_cons, Piece.sql, List.length_append]

theorem length_around (front back : List Piece) (t : String) :
    (sqlOf quote (front ++ .text t :: back)).toList.length =
      (sqlOf quote front).toList.length + t.toList.length + (sqlOf quote back).toList.length := by
  rw [toList_sqlOf_append, List.length_append, length_text, Nat.add_assoc]

section Whole

variable (known : isQuoteChar quote = true)

include known

-- By induction on the tree: every level of nesting spends two steps of the fuel, one for the
-- condition and one for its operand, and is longer by two parentheses at least.
mutual

theorem reads_operand : (o : Operand) → (fuel : Nat) →
    (sqlOf quote o.pieces).toList.length ≤ fuel →
    (∀ name ∈ namesOf o.pieces, quote ∉ name.toList) →
    Reads quote (readOperand quote fuel) o.pieces o
  | .group p, fuel, enough, clean => by
    rw [length_group] at enough
    rw [namesOf_group] at clean
    obtain ⟨fuel, rfl⟩ : ∃ less, fuel = less + 1 := ⟨fuel - 1, by omega⟩
    exact reads_group (reads_condition p fuel (by omega) clean)
  | .column c, fuel, enough, clean => by
    rw [Operand.pieces] at enough clean ⊢
    have positive : 2 ≤ (sqlOf quote c.pieces).toList.length := length_sqlOf_column c
    obtain ⟨fuel, rfl⟩ : ∃ less, fuel = less + 1 := ⟨fuel - 1, by omega⟩
    exact reads_column known clean
  | .value v, fuel, enough, _ => by
    rw [Operand.pieces] at enough ⊢
    have positive : (sqlOf quote [.bound v]).toList.length = 1 := by simp [sqlOf, Piece.sql]
    obtain ⟨fuel, rfl⟩ : ∃ less, fuel = less + 1 := ⟨fuel - 1, by omega⟩
    exact reads_value

theorem reads_condition : (p : Condition) → (fuel : Nat) →
    (sqlOf quote p.pieces).toList.length ≤ fuel →
    (∀ name ∈ namesOf p.pieces, quote ∉ name.toList) →
    Reads quote (readCondition quote fuel) p.pieces p
  | .compare left op right, fuel, enough, clean => by
    rw [pieces_compare] at enough clean ⊢
    rw [namesOf_around, List.forall_mem_append] at clean
    rw [length_around] at enough
    have positive : 2 ≤ (sqlOf quote (Operand.column left).pieces).toList.length := by
      rw [Operand.pieces]
      exact length_sqlOf_column left
    obtain ⟨fuel, rfl⟩ : ∃ less, fuel = less + 1 + 1 := ⟨fuel - 2, by omega⟩
    have first : Reads quote (readOperand quote (fuel + 1)) (Operand.column left).pieces
        (.column left) := by
      rw [Operand.pieces] at clean ⊢
      exact reads_column known clean.1
    have second := reads_operand right (fuel + 1) (by omega) clean.2
    refine reads_binary rfl (fun rest => ?_) first second
    rw [Operand.pieces, head?_sqlOf_column]
    exact quote_ne known (by decide)
  | .and left right, fuel, enough, clean => by
    rw [pieces_and] at enough clean ⊢
    rw [namesOf_around, List.forall_mem_append, namesOf_group, namesOf_group] at clean
    rw [length_around, length_group, length_group] at enough
    obtain ⟨fuel, rfl⟩ : ∃ less, fuel = less + 1 + 1 := ⟨fuel - 2, by omega⟩
    have first := reads_condition left fuel (by omega) clean.1
    have second := reads_condition right fuel (by omega) clean.2
    exact reads_joined rfl first second
  | .or left right, fuel, enough, clean => by
    rw [pieces_or] at enough clean ⊢
    rw [namesOf_around, List.forall_mem_append, namesOf_group, namesOf_group] at clean
    rw [length_around, length_group, length_group] at enough
    obtain ⟨fuel, rfl⟩ : ∃ less, fuel = less + 1 + 1 := ⟨fuel - 2, by omega⟩
    have first := reads_condition left fuel (by omega) clean.1
    have second := reads_condition right fuel (by omega) clean.2
    exact reads_joined rfl first second
  | .not p, fuel, enough, clean => by
    rw [pieces_not] at enough clean ⊢
    rw [namesOf_text, namesOf_group] at clean
    rw [length_text, length_group] at enough
    obtain ⟨fuel, rfl⟩ : ∃ less, fuel = less + 1 + 1 := ⟨fuel - 2, by omega⟩
    exact reads_not (reads_group (reads_condition p fuel (by omega) clean))

end

theorem read_sqlOf {p : Condition} (clean : ∀ name ∈ namesOf p.pieces, quote ∉ name.toList) :
    read quote (sqlOf quote p.pieces) (argsOf p.pieces) = some p := by
  have whole := reads_condition known p _ (Nat.le_refl _) clean [] [] (by simp)
  rw [List.append_nil, List.append_nil] at whole
  rw [read, whole]

end Whole

/-! ## The shape of what was written -/

theorem sqlOf_group (p : Condition) :
    sqlOf quote (Operand.group p).pieces = "(" ++ sqlOf quote p.pieces ++ ")" := by
  simp [Operand.pieces, sqlOf, sqlOf_append, Piece.sql, String.append_assoc]

theorem sqlOf_around (front back : List Piece) (op : Operator) :
    sqlOf quote (front ++ .text (" " ++ op.sql ++ " ") :: back) =
      sqlOf quote front ++ " " ++ op.sql ++ " " ++ sqlOf quote back := by
  simp [sqlOf, sqlOf_append, Piece.sql, String.append_assoc]

theorem isOperand_column {c : Column} (clean : ∀ name ∈ namesOf c.pieces, quote ∉ name.toList) :
    IsOperand quote (sqlOf quote c.pieces) := by
  obtain ⟨qualifier, name⟩ := c
  have ownName : quote ∉ name.toList := clean name (by cases qualifier <;> simp [Column.pieces, namesOf])
  cases qualifier with
  | none =>
    have text : sqlOf quote (Column.pieces ⟨none, name⟩) = quotedName quote name := by
      simp [Column.pieces, sqlOf, Piece.sql]
    rw [text]
    exact .column ⟨name, ownName, rfl⟩
  | some qualifier =>
    have firstName : quote ∉ qualifier.toList := clean qualifier (by simp [Column.pieces, namesOf])
    have text : sqlOf quote (Column.pieces ⟨some qualifier, name⟩) =
        quotedName quote qualifier ++ "." ++ quotedName quote name := by
      simp [Column.pieces, sqlOf, Piece.sql, String.append_assoc]
    rw [text]
    exact .qualified ⟨qualifier, firstName, rfl⟩ ⟨name, ownName, rfl⟩

mutual

theorem isOperand_sqlOf : (o : Operand) → (∀ name ∈ namesOf o.pieces, quote ∉ name.toList) →
    IsOperand quote (sqlOf quote o.pieces)
  | .group p, clean => by
    rw [namesOf_group] at clean
    rw [sqlOf_group]
    exact .group (isCondition_sqlOf p clean)
  | .column c, clean => by
    rw [Operand.pieces] at clean ⊢
    exact isOperand_column clean
  | .value v, _ => by
    have text : sqlOf quote (Operand.value v).pieces = "?" := by
      simp [Operand.pieces, sqlOf, Piece.sql]
    rw [text]
    exact .placeholder

theorem isCondition_sqlOf : (p : Condition) → (∀ name ∈ namesOf p.pieces, quote ∉ name.toList) →
    IsCondition quote (sqlOf quote p.pieces)
  | .compare left op right, clean => by
    rw [pieces_compare] at clean ⊢
    rw [namesOf_around, List.forall_mem_append, Operand.pieces] at clean
    rw [sqlOf_around, Operand.pieces]
    exact .binary (by simp) (isOperand_column clean.1) (isOperand_sqlOf right clean.2)
  | .and left right, clean => by
    rw [pieces_and] at clean ⊢
    rw [namesOf_around, List.forall_mem_append, namesOf_group, namesOf_group] at clean
    rw [sqlOf_around, sqlOf_group, sqlOf_group]
    exact .binary (by simp) (.group (isCondition_sqlOf left clean.1))
      (.group (isCondition_sqlOf right clean.2))
  | .or left right, clean => by
    rw [pieces_or] at clean ⊢
    rw [namesOf_around, List.forall_mem_append, namesOf_group, namesOf_group] at clean
    rw [sqlOf_around, sqlOf_group, sqlOf_group]
    exact .binary (by simp) (.group (isCondition_sqlOf left clean.1))
      (.group (isCondition_sqlOf right clean.2))
  | .not p, clean => by
    rw [pieces_not] at clean ⊢
    rw [namesOf_text, namesOf_group] at clean
    rw [sqlOf, Piece.sql, sqlOf_group]
    exact .not (.group (isCondition_sqlOf p clean))

end

end Resolved

namespace Predicate

/-- A condition that renders, without raw fragments and with names that do not hold the quote
character, is written so that each operand is a name, a placeholder or a group. The reader
finds its resolved tree in that text, so another such condition that is written alike has the
same resolved tree. -/
theorem resolve?_of_sqlOf_eq {d : Dialect} {m : Model} {r : Registry} {p : Predicate}
    (renders : (p.render m r).result = .ok ()) (noRaw : ∀ f, .raw f ∉ p.bindings)
    (clean : ∀ name ∈ namesOf (p.render m r).pieces, d.quote ∉ name.toList) :
    let sql := sqlOf d.quote (p.render m r).pieces
    let args := argsOf (p.render m r).pieces
    IsCondition d.quote sql ∧
      ∃ tree, p.resolve? m (p.render m r).registry = some tree ∧
        Resolved.read d.quote sql args = some tree ∧
        ∀ q : Predicate, (q.render m r).result = .ok () → (∀ f, .raw f ∉ q.bindings) →
          (∀ name ∈ namesOf (q.render m r).pieces, d.quote ∉ name.toList) →
          sqlOf d.quote (q.render m r).pieces = sql → argsOf (q.render m r).pieces = args →
          q.resolve? m (q.render m r).registry = some tree := by
  have known := d.isQuoteChar_quote
  have written (q : Predicate) (renders : (q.render m r).result = .ok ())
      (noRaw : ∀ f, .raw f ∉ q.bindings) :
      ∃ tree : Resolved.Condition, (q.render m r).pieces = tree.pieces ∧
        q.resolve? m (q.render m r).registry = some tree := by
    have run : q.render.Yields m r (q.render m r).pieces (q.render m r).registry () := by
      rw [Render.Yields, ← renders]
    obtain ⟨-, tree, pieces, resolved⟩ := q.writes_render noRaw _ _ _ run
    exact ⟨tree, pieces, resolved _ (Registry.extends_refl _)⟩
  obtain ⟨tree, pieces, resolved⟩ := written p renders noRaw
  intro sql args
  have found : Resolved.read d.quote sql args = some tree := by
    simp only [sql, args, pieces] at clean ⊢
    exact Resolved.read_sqlOf known clean
  refine ⟨?_, tree, resolved, found, ?_⟩
  · simp only [sql, pieces] at clean ⊢
    exact Resolved.isCondition_sqlOf tree clean
  · intro q rendersOther noRawOther cleanOther sameSql sameArgs
    obtain ⟨other, piecesOther, resolvedOther⟩ := written q rendersOther noRawOther
    rw [piecesOther] at cleanOther sameSql sameArgs
    have foundOther := Resolved.read_sqlOf known cleanOther
    rw [sameSql, sameArgs, found] at foundOther
    rw [resolvedOther, foundOther]

def nested (t : Option Table) : Predicate :=
  .not (.compare ⟨"id", none, none⟩ .eq
    (.predicate (.or (.compare ⟨"owner", none, t⟩ .lt (.value (.int 1)))
      (.compare ⟨"owner", none, t⟩ .gt (.column ⟨"id", none, none⟩)))))

theorem resolve?_of_sqlOf_eq_nested :
    let m : Model := ⟨"account", [⟨"id", "id", "i64", 0⟩, ⟨"owner", "owner", "i64", 1⟩]⟩
    let p := nested none
    let q := nested (some ⟨account, none⟩)
    sqlOf '\x60' (p.render m .empty).pieces =
        "NOT (`id` = ((`owner` < ?) OR (`owner` > `id`)))" ∧
      sqlOf '\x60' (q.render m .empty).pieces = sqlOf '\x60' (p.render m .empty).pieces ∧
      ∃ tree, p.resolve? m (p.render m .empty).registry = some tree ∧
        q.resolve? m (q.render m .empty).registry = some tree := by
  intro m p q
  have rendersP : (p.render m .empty).result = .ok () := by decide +kernel
  have rendersQ : (q.render m .empty).result = .ok () := by decide +kernel
  have noRawP : ∀ f, .raw f ∉ p.bindings := by simp [p, nested, bindings, Expr.bindings]
  have noRawQ : ∀ f, .raw f ∉ q.bindings := by simp [q, nested, bindings, Expr.bindings]
  have sql : sqlOf '\x60' (p.render m .empty).pieces =
      "NOT (`id` = ((`owner` < ?) OR (`owner` > `id`)))" := by decide +kernel
  have same : sqlOf '\x60' (q.render m .empty).pieces = sqlOf '\x60' (p.render m .empty).pieces := by
    rw [sql]
    decide +kernel
  obtain ⟨-, tree, resolved, -, others⟩ :=
    resolve?_of_sqlOf_eq (d := .mysql) rendersP noRawP (by decide +kernel)
  exact ⟨sql, same, tree, resolved,
    others q rendersQ noRawQ (by decide +kernel) same (by decide +kernel)⟩

end Predicate

end RecordSql
