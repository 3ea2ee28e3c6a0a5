import RecordSql.Declare.Grammar.Basic
/-! # Types in source text

Types with the paths, bounds and parameters in them. In the uniform spelling lifetimes lead
every list in angle brackets, arguments in parentheses stand directly behind a name, and a
list that holds nothing is left out where it means nothing. -/
set_option autoImplicit false
namespace RecordSql.Declare.Grammar

variable (read : Form → Phrase)

/-! ## Arguments -/

/-- Whether an argument comes next that is a lifetime, and not the first bound of a type. -/
def isLifetimeArgument (tokens : List Token) : Bool :=
  Ahead.isLifetime tokens && !Ahead.isMark "+" (tokens.drop 1)

def isConstant (tokens : List Token) : Bool :=
  Ahead.isLiteral tokens || Ahead.isMark "-" tokens || Ahead.isBracket '\x7b' tokens

def bounds (stop : List Token → Bool) : Phrase :=
  .whenever (fun tokens => !stop tokens)
    (read .bound ++ .when (Ahead.isMark "+") (.mark "+"))

/-- Bounds behind a colon, which goes if there are none. -/
def colonBounds (stop : List Token → Bool) : Phrase := do
  let colon ← Phrase.mark ":"
  let found ← bounds read stop
  return if found.isEmpty then [] else colon ++ found

def angledArgument : Phrase :=
  let stop (tokens : List Token) : Bool := Ahead.isMark "," tokens || Ahead.isMark ">" tokens
  .choose [(isLifetimeArgument, .lifetime), (isConstant, constant read),
    (fun _ => true, read (.type true) ++ .choose [
      (Ahead.isMark "=", .mark "=" ++ .ifAhead isConstant (constant read) (read (.type true))),
      (isColon, .mark ":" ++ bounds read stop),
      (fun _ => true, .nothing)])]

def result (sums : Bool) : Phrase :=
  .when (Ahead.isMark "->") (.mark "->" ++ read (.type sums))

/-! ## Paths -/

/-- A path, with the arguments of its last name apart. -/
structure Path where
  front : List Token
  arguments : List Token
  /-- Whether the last name has no arguments, or an empty list of them. -/
  isBare : Bool
  /-- Whether there is nothing in the path but names. -/
  isPlain : Bool

def Path.written (p : Path) : List Token := p.front ++ p.arguments

def Path.extend (p : Path) (colons : List Token) (next : Path) : Path :=
  ⟨p.written ++ colons ++ next.front, next.arguments, next.isBare, p.isPlain && next.isPlain⟩

/-- A name in a path with its arguments, which in an expression need colons in front. -/
def step (inExpression : Bool) : Reader Path := do
  let isPlace ← Reader.ahead (Ahead.isOneOf ("try" :: Ahead.places))
  let name ← Phrase.one fun tokens => isStep tokens || Ahead.isOneOf ["try", "_"] tokens
  let isAngled ← Reader.ahead fun tokens =>
    (!inExpression && Ahead.isMark "<" tokens && !Ahead.isMark "<=" tokens) ||
      (Ahead.isMark "::" tokens && Ahead.isMark "<" (tokens.drop 2))
  if isAngled && !isPlace then
    let opening ← Phrase.when (Ahead.isMark "::") (.mark "::") ++ .mark "<"
    let arguments ← elements (angledArgument read) isLifetimeArgument
    let closing ← Phrase.mark ">"
    return ⟨name, opening ++ arranged arguments ++ closing, arguments.isEmpty, false⟩
  return ⟨name, [], true, true⟩

def steps (inExpression : Bool) (more : List Token → Bool) : Path → Reader Path :=
  Reader.repeated fun p => do
    if ← Reader.ahead more then
      let colons ← Phrase.mark "::"
      return some (p.extend colons (← step read inExpression))
    return none

def goesOn (tokens : List Token) : Bool :=
  Ahead.isMark "::" tokens && !Ahead.isBracket '(' (tokens.drop 2)

def path (inExpression : Bool) : Reader Path := do
  let colons ← Phrase.when (Ahead.isMark "::") (.mark "::")
  let first ← step read inExpression
  steps read inExpression goesOn { first with front := colons ++ first.front }

def pathBelow (inExpression : Bool) : Reader Path := do
  let opening ← Phrase.mark "<" ++ read (.type true)
  let role ← Phrase.when (Ahead.isWord "as") do
    return (← Phrase.word "as") ++ (← path read false).written
  let closing ← Phrase.mark ">"
  let colons ← Phrase.mark "::"
  let start : Path := ⟨opening ++ role ++ closing, [], true, false⟩
  steps read inExpression (Ahead.isMark "::")
    (start.extend colons (← step read inExpression))

def anyPath (inExpression : Bool) : Reader Path := do
  if ← Reader.ahead (Ahead.isMark "<") then pathBelow read inExpression
  else path read inExpression

/-- A path whose last name may have arguments in parentheses instead of its own. -/
def callable (p : Reader Path) : Reader Path := do
  let p ← p
  let isCalled ← Reader.ahead fun tokens => Ahead.isBracket '(' tokens ||
    Ahead.isMark "::" tokens && Ahead.isBracket '(' (tokens.drop 2)
  if p.isBare && isCalled then
    let _ ← Phrase.when (Ahead.isMark "::") (.mark "::")
    let arguments ← Phrase.parentheses (.listed Ahead.isEnd (read (.type true))) ++
      result read false
    return ⟨p.front, arguments, false, false⟩
  return p

def typePath : Reader Path := do
  let first ← callable read (anyPath read false)
  Reader.repeated (fun p => do
    if ← Reader.ahead goesOn then some <$> callable read (steps read false goesOn p)
    else return none) first

/-! ## Parameters -/

def parameter : Phrase :=
  let stop (tokens : List Token) : Bool :=
    Ahead.isMark "," tokens || Ahead.isMark ">" tokens || Ahead.isMark "=" tokens
  attributes read ++ .choose [
    (Ahead.isLifetime, .lifetime ++ .when isColon (colonBounds read stop)),
    (Ahead.isWord "const", .word "const" ++ .anyWord ++ .mark ":" ++ read (.type true) ++
      .when (Ahead.isMark "=") (.mark "=" ++ constant read)),
    (Ahead.isAnyWord, .anyWord ++ .when isColon (colonBounds read stop) ++
      .when (Ahead.isMark "=") (.mark "=" ++ read (.type true)))]

/-- Parameters that stand for all that there are of their kind. -/
def binder : Phrase :=
  .when (Ahead.isWord "for")
    (.word "for" ++ .mark "<" ++ .listed (Ahead.isMark ">") (parameter read) ++ .mark ">")

def parameters : Phrase :=
  .when (Ahead.isMark "<") do
    let opening ← Phrase.mark "<"
    let found ← elements (parameter read) fun tokens =>
      Ahead.isLifetime (behindAttributes tokens)
    let closing ← Phrase.mark ">"
    return if found.isEmpty then [] else opening ++ arranged found ++ closing

/-- What parameters have to be like. -/
def conditions : Phrase :=
  let stop (tokens : List Token) : Bool := Ahead.isEnd tokens || isColon tokens ||
    Ahead.isBracket '\x7b' tokens || Ahead.isMark "," tokens || Ahead.isMark ";" tokens ||
    Ahead.isMark "=" tokens
  let single := binder read ++ read (.type true) ++ .mark ":" ++ bounds read stop
  .when (Ahead.isWord "where") do
    let start ← Phrase.word "where"
    let found ← Phrase.whenever (fun tokens => !stop tokens)
      (.ifAhead (fun tokens => Ahead.isLifetime tokens && isColon (tokens.drop 1))
        (.lifetime ++ .mark ":" ++ bounds read stop) single ++
      .when (Ahead.isMark ",") (.mark ","))
    return if found.isEmpty then [] else start ++ found

/-! ## Bounds -/

/-- A bound by a path. One that holds for constants is kept as it is written. -/
def pathBound : Reader (Option (List Token)) := do
  let front ← binder read
  let isConst ← Reader.ahead fun tokens =>
    Ahead.isWord "const" tokens || Ahead.isBracket '[' tokens || Ahead.isMark "~" tokens
  let _ ← Phrase.when (fun _ => isConst) (.ifAhead (Ahead.isBracket '[') .group
    (.when (Ahead.isMark "~") (.mark "~") ++ .word "const"))
  let sign ← Phrase.when (Ahead.isMark "?") (.mark "?") ++ binder read
  let p ← callable read (path read false)
  return if isConst then none else some (front ++ sign ++ p.written)

def boundPhrase : Phrase :=
  let capture : Phrase := do
    let opening ← Phrase.word "use" ++ .mark "<"
    let found ← elements (.ifAhead Ahead.isLifetime .lifetime .anyWord) Ahead.isLifetime
    return opening ++ arranged found ++ (← Phrase.mark ">")
  let enclosed : Reader (Option (List Token)) := do
    let opening ← Phrase.bracket '('
    let found ← pathBound read
    let closing ← Phrase.bracket ')'
    return found.map fun found => opening ++ found ++ closing
  .choose [(Ahead.isLifetime, .lifetime), (Ahead.isWord "use", capture),
    (Ahead.isBracket '(', enclosed.orAsWritten), (fun _ => true, (pathBound read).orAsWritten)]

def isBound (tokens : List Token) : Bool :=
  Ahead.isAnyWord tokens || Ahead.isMark "::" tokens || Ahead.isMark "?" tokens ||
    Ahead.isLifetime tokens || Ahead.isBracket '(' tokens || Ahead.isBracket '[' tokens ||
    Ahead.isMark "~" tokens

def moreBounds (sums : Bool) : Phrase :=
  .whenever (fun tokens => sums && Ahead.isMark "+" tokens)
    (.mark "+" ++ .when isBound (read .bound))

/-! ## Types -/

def isFunction (tokens : List Token) : Bool := Ahead.isOneOf ["fn", "unsafe", "extern"] tokens

/-- The type of a function. A receiver that can be changed is kept as it is written. -/
def functionType : Phrase :=
  let isNamed (tokens : List Token) : Bool :=
    (Ahead.isName tokens || Ahead.isOneOf ["_", "self"] tokens) && isColon (tokens.drop 1)
  let isReceiver (tokens : List Token) : Bool :=
    Ahead.isWord "mut" tokens && Ahead.isWord "self" (tokens.drop 1)
  let argument := attributes read ++ .choose [
    (Ahead.isMark "...", .mark "..."),
    (isReceiver, (Phrase.word "mut" ++ .word "self" ++
      .when isColon (.mark ":" ++ read (.type true))).asWritten),
    (isNamed, .anyWord ++ .mark ":" ++
      .ifAhead (Ahead.isMark "...") (.mark "...") (read (.type true))),
    (fun _ => true, read (.type true))]
  .maybe "unsafe" ++ binaryInterface ++ .word "fn" ++
    .parentheses (.listed Ahead.isEnd argument) ++ result read false

def extendedPath (sums : Bool) : Reader (Path × List Token) := do
  let p ← typePath read
  let isMacro ← Reader.ahead isCall
  if isMacro && p.isPlain then return (p, ← Phrase.mark "!" ++ .group)
  return (p, ← moreBounds read sums)

def pathType (sums : Bool) : Phrase := do
  let (p, rest) ← extendedPath read sums
  return p.written ++ rest

def typePhrase (sums : Bool) : Phrase :=
  let summed := read .bound ++ moreBounds read sums
  let isBoxed (tokens : List Token) : Bool := Ahead.isMark "*" (tokens.drop 1)
  .choose [
    (Ahead.isWord "for", binder read ++
      .ifAhead isFunction (functionType read) (pathType read sums)),
    (isFunction, functionType read),
    (Ahead.isBracket '(', .parentheses (.listed Ahead.isEnd
      (.ifAhead (Ahead.isMark "?") (read .bound) (read (.type true)))) ++ moreBounds read sums),
    (Ahead.isBracket '[', .squares (read (.type true) ++
      .when (Ahead.isMark ";") (.mark ";" ++ read (.expression true 0)))),
    (Ahead.isWord "dyn", .ifAhead isBoxed
      ((Phrase.word "dyn" ++ .mark "*" ++ summed).asWritten) (.word "dyn" ++ summed)),
    (Ahead.isWord "impl", .word "impl" ++ summed),
    (Ahead.isMark "*", .mark "*" ++ .anyWord ++ read (.type false)),
    (Ahead.isMark "&", .mark "&" ++ .when Ahead.isLifetime .lifetime ++ .maybe "mut" ++
      read (.type false)),
    (Ahead.isMark "!", .mark "!"),
    (Ahead.isWord "_", .word "_"),
    (Ahead.isLifetime, summed),
    (fun _ => true, pathType read sums)]

end RecordSql.Declare.Grammar
