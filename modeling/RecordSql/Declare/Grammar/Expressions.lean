import RecordSql.Declare.Grammar.Patterns
/-! # Expressions in source text

Expressions with their operators, and what they can hold in brackets. In the uniform spelling
members have plain numbers, and a conversion has parentheses where they tell its end. -/
set_option autoImplicit false
namespace RecordSql.Declare.Grammar

/-! ## Operators -/

/-- The strengths of operators, the weakest first. -/
def Strength.assignment : Strength := 1
def Strength.range : Strength := 2
def Strength.comparison : Strength := 6
def Strength.conversion : Strength := 13

/-- The operators between two operands with their strengths, the longer ones first. -/
def operators : List (String × Strength) :=
  [("<<=", 1), (">>=", 1), ("+=", 1), ("-=", 1), ("*=", 1), ("/=", 1), ("%=", 1), ("^=", 1),
   ("&=", 1), ("|=", 1), ("&&", 4), ("||", 3), ("<<", 10), (">>", 10), ("==", 6), ("<=", 6),
   ("!=", 6), (">=", 6), ("+", 11), ("-", 11), ("*", 12), ("/", 12), ("%", 12), ("^", 8),
   ("&", 9), ("|", 7), ("<", 6), (">", 6)]

def nextOperator? (tokens : List Token) : Option (String × Strength) :=
  match operators.find? fun operator => Ahead.isMark operator.1 tokens with
  | some operator => some operator
  | none =>
    if Ahead.isMark "=" tokens && !Ahead.isMark "=>" tokens then some ("=", Strength.assignment)
    else none

/-- What an expression is, as far as what can follow it depends on it. -/
inductive Shape
  /-- Nothing can follow a range. -/
  | range
  /-- No comparison can follow a comparison. -/
  | comparison
  | other
  deriving DecidableEq

def isExpression (records : Bool) (tokens : List Token) : Bool :=
  let isSign (sign but : String) : Bool :=
    Ahead.isMark sign tokens && !Ahead.isMark but tokens
  (Ahead.isAnyWord tokens && !Ahead.isWord "as" tokens) || Ahead.isLiteral tokens ||
    Ahead.isBracket '(' tokens || Ahead.isBracket '[' tokens ||
    (records && Ahead.isBracket '\x7b' tokens) || isSign "!" "!=" || isSign "*" "*=" ||
    (isSign "-" "-=" && !Ahead.isMark "->" tokens) || isSign "|" "|=" || isSign "&" "&=" ||
    Ahead.isMark ".." tokens || (isSign "<" "<=" && !Ahead.isMark "<<=" tokens) ||
    Ahead.isMark "::" tokens ||
    Ahead.isLifetime tokens || Ahead.isMark "#" tokens

/-- Whether parameters follow the word that comes next, and not a type below which a path
goes on. -/
def areParameters (tokens : List Token) : Bool :=
  let second := tokens.drop 1
  let third := tokens.drop 2
  Ahead.isMark "<" tokens && (Ahead.isMark ">" second || Ahead.isMark "#" second ||
    ((Ahead.isLifetime second || Ahead.isName second) && (Ahead.isMark ">" third ||
      Ahead.isMark "," third || isColon third || Ahead.isMark "=" third)) ||
    Ahead.isWord "const" second)

def isDot (tokens : List Token) : Bool := Ahead.isMark "." tokens && !Ahead.isMark ".." tokens

def isSelection (tokens : List Token) : Bool :=
  isDot tokens || Ahead.isMark "?" tokens || Ahead.isBracket '(' tokens ||
    Ahead.isBracket '[' tokens

/-- Whether an operator comes next that could open the arguments of a name in front of it. -/
def couldBeOpening (tokens : List Token) : Bool :=
  (nextOperator? tokens).any fun operator => operator.1 == "<" || operator.1 == "<<"

def endsWithPlace (tokens : List Token) : Bool :=
  match tokens.getLast? with
  | some token => Ahead.isOneOf ("try" :: Ahead.places) [token]
  | none => false

def isBuiltin (tokens : List Token) : Bool :=
  Ahead.isWord "builtin" tokens && Ahead.isMark "#" (tokens.drop 1)

/-- Whether an expression comes next that is only recognized. -/
def isOpaque (tokens : List Token) : Bool :=
  Ahead.isWord "become" tokens ||
    isBuiltin tokens && !isSelection (Ahead.behind 4 tokens)

variable (read : Form → Phrase)

/-- The operators behind an operand, with the operands behind them. A conversion is put in
parentheses where its type could seem to go on behind it. -/
def operations (records : Bool) (least : Strength) (start : List Token × Shape) : Phrase := do
  let (tokens, _) ← Reader.repeated (fun (front, shape) => do
    if shape == .range then return none
    let next? ← (⟨fun tokens => some (nextOperator? tokens, tokens)⟩ :
      Reader (Option (String × Strength)))
    match next? with
    | some (marks, strength) =>
      if strength < least then return none
      if strength == Strength.comparison && shape == .comparison then Reader.fail
      let operator ← Phrase.mark marks
      let tighter := if strength == Strength.assignment then strength else strength + 1
      let operand ← read (.expression records tighter)
      return some (front ++ operator ++ operand,
        if strength == Strength.comparison then Shape.comparison else .other)
    | none =>
      let isRange ← Reader.ahead (Ahead.isMark "..")
      let isConversion ← Reader.ahead (Ahead.isWord "as")
      if isRange && least ≤ Strength.range then
        let rest ← rangeSign ++ .when (isExpression records)
          (read (.expression records (Strength.range + 1)))
        return some (front ++ rest, .range)
      if isConversion && least ≤ Strength.conversion then
        let rest ← Phrase.word "as" ++ read (.type false)
        if ← Reader.ahead isSelection then Reader.fail
        let isEnclosed ← Reader.ahead fun tokens => endsWithPlace rest && couldBeOpening tokens
        return some (if isEnclosed then .bracket '(' :: (front ++ rest ++ [.bracket ')'])
          else front ++ rest, .other)
      return none) start
  return tokens

def expressionPhrase (records : Bool) (least : Strength) : Phrase := do
  let isRange ← Reader.ahead (Ahead.isMark "..")
  let first ← read (.operand records)
  operations read records least (first, if isRange then .range else .other)

/-! ## What follows a value -/

def callArguments : Phrase := .parentheses (.listed Ahead.isEnd (read (.expression true 0)))

def turbofish : Phrase :=
  .when (Ahead.isMark "::") do
    let opening ← Phrase.mark "::" ++ .mark "<"
    let found ← elements (angledArgument read) isLifetimeArgument
    return opening ++ arranged found ++ (← Phrase.mark ">")

def selections : Phrase :=
  let isFinished (tokens : List Token) : Bool := match tokens with
    | .number written :: _ => !written.toList.getLast?.any (· == '.')
    | _ => true
  let field : Phrase := .ifAhead Ahead.isNumber
    (.ifAhead isFinished memberNumber (memberNumber ++ member)) .anyWord
  .whenever isSelection (.choose [
    (Ahead.isMark "?", .mark "?"),
    (Ahead.isBracket '(', callArguments read),
    (Ahead.isBracket '[', .squares (read (.expression true 0))),
    (fun _ => true, .mark "." ++ field ++ turbofish read)])

/-! ## Values -/

def closureParameter : Phrase := do
  let notes ← attributes read
  let isOdd ← Reader.ahead (Ahead.isWord "box")
  let pattern ← read .pattern
  let isTyped ← Reader.ahead isColon
  let type ← Phrase.when isColon (.mark ":" ++ read (.type true))
  return (if isOdd && !isTyped then [] else notes) ++ pattern ++ type

def closure (records : Bool) : Phrase :=
  binder read ++ .maybe "const" ++ .maybe "static" ++ .maybe "async" ++ .maybe "move" ++
    .mark "|" ++ .listed (Ahead.isMark "|") (closureParameter read) ++ .mark "|" ++
    .ifAhead (Ahead.isMark "->") (.mark "->" ++ read (.type true) ++ read .block)
      (read (.expression records 0))

def memberValue : Phrase :=
  .ifAhead (Ahead.isMark "..")
    (.mark ".." ++ .ifAhead Ahead.isEnd .nothing (read (.expression true 0)))
    (attributes read ++ member ++
      .when (Ahead.isMark ":") (.mark ":" ++ read (.expression true 0)))

def pathValue (records : Bool) : Phrase := do
  let p ← anyPath read true
  let isMacro ← Reader.ahead isCall
  if isMacro && p.isPlain then return p.written ++ (← Phrase.mark "!" ++ .group)
  return p.written ++ (← Phrase.when (fun tokens => records && Ahead.isBracket '\x7b' tokens)
    (.braces (.listed Ahead.isEnd (memberValue read))))

/-- A case of a match. Behind a block there needs to be no comma. -/
def matchCase : Phrase :=
  attributes read ++ read .alternatives ++
    .when (Ahead.isWord "if") (.word "if" ++ read (.expression true 0)) ++
    .mark "=>" ++ read .arm ++ .when (Ahead.isMark ",") (.mark ",")

def matchPhrase : Phrase :=
  .word "match" ++ read (.expression false 0) ++ .braces (innerAttributes read ++
    .whenever (fun tokens => !Ahead.isEnd tokens) (matchCase read))

def conditionalPhrase : Phrase :=
  .word "if" ++ read (.expression false 0) ++ read .block ++
    .when (Ahead.isWord "else")
      (.word "else" ++ .ifAhead (Ahead.isWord "if") (read .conditional) (read .block))

def loopPhrase : Phrase :=
  .choose [
    (Ahead.isWord "while", .word "while" ++ read (.expression false 0) ++ read .block),
    (Ahead.isWord "for", .word "for" ++ read .alternatives ++ .word "in" ++
      read (.expression false 0) ++ read .block),
    (Ahead.isWord "loop", .word "loop" ++ read .block),
    (fun _ => true, read .block)]

def isBlockLike (tokens : List Token) : Bool :=
  let second := tokens.drop 1
  Ahead.isOneOf ["if", "while", "loop", "match", "unsafe"] tokens ||
    Ahead.isBracket '\x7b' tokens || Ahead.isLifetime tokens ||
    (Ahead.isWord "for" tokens && !areParameters second) ||
    (Ahead.isOneOf ["try", "const"] tokens && Ahead.isBracket '\x7b' second)

def blockLike : Phrase :=
  .choose [
    (Ahead.isWord "if", conditionalPhrase read),
    (Ahead.isWord "match", matchPhrase read),
    (Ahead.isLifetime, .lifetime ++ .mark ":" ++ loopPhrase read),
    (Ahead.isOneOf ["try", "const", "unsafe"], .anyWord ++ read .block),
    (fun _ => true, loopPhrase read)]

def value (records : Bool) : Phrase :=
  let isAsync (tokens : List Token) : Bool := Ahead.isWord "async" tokens &&
    (Ahead.isBracket '\x7b' (tokens.drop 1) ||
      Ahead.isWord "move" (tokens.drop 1) && Ahead.isBracket '\x7b' (tokens.drop 2))
  let isPath (tokens : List Token) : Bool :=
    isStep tokens || Ahead.isMark "::" tokens || Ahead.isMark "<" tokens ||
      Ahead.isWord "try" tokens
  let whole (braces : Bool) := Phrase.when (isExpression braces) (read (.expression true 0))
  .choose [
    (Ahead.isLiteral, .one Ahead.isLiteral),
    (isBlockLike, blockLike read),
    (isAsync, .word "async" ++ .maybe "move" ++ read .block),
    (fun tokens => Ahead.isMark "|" tokens ||
      Ahead.isOneOf ["move", "for", "const", "static", "async"] tokens, closure read records),
    (isBuiltin, .word "builtin" ++ .mark "#" ++ .anyWord ++ .group),
    (isPath, pathValue read records),
    (Ahead.isBracket '(', callArguments read),
    (Ahead.isBracket '[', .squares (.ifAhead Ahead.isEnd .nothing (read (.expression true 0) ++
      .ifAhead (Ahead.isMark ";") (.mark ";" ++ read (.expression true 0))
        (.when (Ahead.isMark ",") (.mark "," ++
          .listed Ahead.isEnd (read (.expression true 0))))))),
    (Ahead.isWord "break", .word "break" ++ .when Ahead.isLifetime .lifetime ++
      whole records),
    (Ahead.isWord "continue", .word "continue" ++ .when Ahead.isLifetime .lifetime),
    (Ahead.isOneOf ["return", "yield"], .anyWord ++ whole true),
    (Ahead.isWord "become", (Phrase.word "become" ++ read (.expression true 0)).asWritten),
    (Ahead.isWord "let", .word "let" ++ read .alternatives ++ .mark "=" ++
      read (.expression records Strength.comparison)),
    (Ahead.isWord "_", .word "_")]

/-- A value with the signs in front of it and with what is selected from it. One that is only
recognized stays as it is written, together with its attributes. -/
def operandPhrase (records : Bool) : Phrase :=
  let isRaw (tokens : List Token) : Bool :=
    Ahead.isWord "raw" tokens && Ahead.isOneOf ["mut", "const"] (tokens.drop 1)
  .choose [
    (fun tokens => Ahead.isMark "#" tokens && isOpaque (behindAttributes tokens),
      (attributes read ++ read (.operand records)).asWritten),
    (Ahead.isMark "#", singleAttribute read ++ read (.operand records)),
    (Ahead.isMark "&", .mark "&" ++ .ifAhead isRaw (.anyWord ++ .anyWord) (.maybe "mut") ++
      read (.operand records)),
    (fun tokens => Ahead.isMark "*" tokens || Ahead.isMark "!" tokens ||
        Ahead.isMark "-" tokens,
      .one (fun _ => true) ++ read (.operand records)),
    (Ahead.isMark "..", rangeSign ++ .when (isExpression records)
      (read (.expression records (Strength.range + 1)))),
    (fun _ => true, value read records ++ selections read)]

/-- An expression that ends with its block if it starts as one, unless a field or a method is
selected from the block. What is only recognized loses its attributes. -/
def armPhrase : Phrase := do
  if ← Reader.ahead fun tokens => isBlockLike (behindAttributes tokens) then
    let first ← attributes read ++ blockLike read
    if ← Reader.ahead fun tokens => isDot tokens || Ahead.isMark "?" tokens then
      operations read true 0 (first ++ (← selections read), .other)
    else return first
  else
    let isLost ← Reader.ahead fun tokens => isOpaque (behindAttributes tokens)
    let _ ← Phrase.when (fun _ => isLost) (attributes read)
    read (.expression true 0)

end RecordSql.Declare.Grammar
