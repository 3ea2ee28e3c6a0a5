import RecordSql.Declare.Phrase
/-! # Forms of source text

What a place in a declaration can hold. A phrase of one form contains phrases of others, so
the grammar of each form is given for readers of all forms; see `Form.phrase`, which ties
them together. -/
set_option autoImplicit false
namespace RecordSql.Declare

/-- How tightly an operator holds its operands together. -/
abbrev Strength : Type := Nat

/-- What a place in a declaration can hold. -/
inductive Form
  /-- A type, to which further bounds may be added with plus signs if `sums` tells so. -/
  | type (sums : Bool)
  /-- What a type has to be like. -/
  | bound
  /-- An expression without operators weaker than `least` outside of brackets. A brace behind
  a path opens a record in it only if `records` tells so. -/
  | expression (records : Bool) (least : Strength)
  /-- An expression with nothing behind it but what belongs to it without an operator. -/
  | operand (records : Bool)
  /-- An expression that ends with its block if it starts as one. -/
  | arm
  /-- A condition with the blocks for both cases. -/
  | conditional
  | pattern
  /-- A pattern or several between bars. -/
  | alternatives
  | block
  | item
  deriving DecidableEq

namespace Grammar

/-! ## Lists in angle brackets -/

structure Element where
  isLifetime : Bool
  written : List Token
  comma : List Token

/-- The elements one after the other. A comma that is missing between two is added. -/
def joinElements : List Element → List Token
  | [] => []
  | [e] => e.written ++ e.comma
  | e :: rest =>
    e.written ++ (if e.comma.isEmpty then [.mark ',' false] else e.comma) ++ joinElements rest

/-- The elements with the lifetimes in front, each with its own comma. -/
def arranged (elements : List Element) : List Token :=
  joinElements (elements.filter (·.isLifetime) ++ elements.filter fun e => !e.isLifetime)

def elements (element : Phrase) (isLifetime : List Token → Bool) : Reader (List Element) :=
  let closing := Ahead.isMark ">"
  Reader.repeated (fun front => do
    if ← Reader.ahead closing then return none
    let leads ← Reader.ahead isLifetime
    let written ← element
    if ← Reader.ahead closing then return some (front ++ [⟨leads, written, []⟩])
    return some (front ++ [⟨leads, written, ← Phrase.mark ","⟩])) []

/-! ## Numbers of members -/

/-- The number that the characters write with a base. Marks between the digits do not count. -/
def valueOf (base : Nat) (digits : List Char) : Nat :=
  digits.foldl (fun n c => if c == '_' then n else base * n + hexDigit c) 0
where
  hexDigit (c : Char) : Nat :=
    if c.isDigit then c.toNat - '0'.toNat else c.toLower.toNat - 'a'.toNat + 10

def plainNumber (digits : List Char) : List Char :=
  let n := match digits with
    | '0' :: 'x' :: rest => valueOf 16 rest
    | '0' :: 'o' :: rest => valueOf 8 rest
    | '0' :: 'b' :: rest => valueOf 2 rest
    | _ => valueOf 10 digits
  Nat.toDigits 10 n

def plainNumbers (written : String) : String :=
  .ofList (['.'].intercalate ((written.toList.splitOn '.').map fun digits =>
    if digits.isEmpty then [] else plainNumber digits))

def memberNumber : Phrase := do
  match ← Phrase.one Ahead.isNumber with
  | [.number written] => return [.number (plainNumbers written)]
  | tokens => return tokens

def member : Phrase := .ifAhead Ahead.isNumber memberNumber .anyWord

/-! ## Smaller phrases -/

def isColon (tokens : List Token) : Bool := Ahead.isMark ":" tokens && !Ahead.isMark "::" tokens

def isCall (tokens : List Token) : Bool := Ahead.isMark "!" tokens && !Ahead.isMark "!=" tokens

def isStep (tokens : List Token) : Bool :=
  Ahead.isName tokens || Ahead.isOneOf Ahead.places tokens

def plainPath : Phrase :=
  .when (Ahead.isMark "::") (.mark "::") ++ .one isStep ++
    .whenever (Ahead.isMark "::") (.mark "::" ++ .one isStep)

/-- Who may use a declared thing; a private one has no word for it. -/
def visibility : Phrase :=
  let isPlace (tokens : List Token) : Bool :=
    Ahead.isOneOf ["crate", "self", "super"] (tokens.drop 1) && Ahead.isEnd (tokens.drop 2) ||
      Ahead.isWord "in" (tokens.drop 1)
  .when (Ahead.isWord "pub")
    (.word "pub" ++ .when (fun tokens => Ahead.isBracket '(' tokens && isPlace tokens) .group)

def binaryInterface : Phrase :=
  .when (Ahead.isWord "extern") (.word "extern" ++ .when Ahead.isQuoted (.one Ahead.isQuoted))

variable (read : Form → Phrase)

def singleAttribute : Phrase :=
  let place := Phrase.ifAhead (Ahead.isWord "unsafe") (.word "unsafe") plainPath
  .mark "#" ++ .when (Ahead.isMark "!") (.mark "!") ++
    .squares (place ++ .ifAhead (Ahead.isMark "=")
      (.mark "=" ++ read (.expression true 0)) .remainder)

def isOuterAttribute (tokens : List Token) : Bool :=
  Ahead.isMark "#" tokens && Ahead.isBracket '[' (tokens.drop 1)

def isInnerAttribute (tokens : List Token) : Bool :=
  Ahead.isMark "#" tokens && Ahead.isMark "!" (tokens.drop 1) &&
    Ahead.isBracket '[' (tokens.drop 2)

def behindAttributesAtMost : Nat → List Token → List Token
  | 0, tokens => tokens
  | fuel + 1, tokens =>
    if isOuterAttribute tokens then
      behindAttributesAtMost fuel (Ahead.behindGroup (tokens.drop 1))
    else tokens

def behindAttributes (tokens : List Token) : List Token :=
  behindAttributesAtMost tokens.length tokens

def attributes : Phrase := .whenever isOuterAttribute (singleAttribute read)

def innerAttributes : Phrase := .whenever isInnerAttribute (singleAttribute read)

def constant : Phrase :=
  .choose [(Ahead.isMark "-", .mark "-" ++ .one Ahead.isNumber),
    (Ahead.isLiteral, .one Ahead.isLiteral),
    (Ahead.isBracket '\x7b', read .block), (Ahead.isAnyWord, .anyWord)]

end Grammar

end RecordSql.Declare
