import RecordSql.Declare.Grammar.Expressions
/-! # Items in source text

Declarations of things that have a name, alone and among the statements of a block. In the
uniform spelling parameters are arranged, and lists of conditions and bounds that hold nothing
are left out. Items of a kind that the grammar only recognizes stay as they are written. -/
set_option autoImplicit false
namespace RecordSql.Declare.Grammar

variable (read : Form → Phrase)

/-! ## Functions -/

/-- A parameter of a function. One without a pattern gets a pattern for everything. -/
def functionParameter : Phrase :=
  let isReceiver (tokens : List Token) : Bool :=
    let tokens := if Ahead.isMark "&" tokens then
      (if Ahead.isLifetime (tokens.drop 1) then tokens.drop 2 else tokens.drop 1) else tokens
    let tokens := if Ahead.isWord "mut" tokens then tokens.drop 1 else tokens
    let rest := tokens.drop 1
    Ahead.isWord "self" tokens && (!Ahead.isMark "::" rest || Ahead.isMark ":::" rest)
  let isType (tokens : List Token) : Bool :=
    Ahead.isName tokens && Ahead.isMark "<" (tokens.drop 1)
  let unnamed : Phrase := do
    return [.word "_", .mark ':' false] ++ (← read (.type true))
  attributes read ++ .choose [
    (Ahead.isMark "...", .mark "..."),
    (isReceiver, .when (Ahead.isMark "&") (.mark "&") ++ .when Ahead.isLifetime .lifetime ++
      .maybe "mut" ++ .word "self" ++ .when isColon (.mark ":" ++ read (.type true))),
    (isType, unnamed),
    (fun _ => true, read .pattern ++ .mark ":" ++
      .ifAhead (Ahead.isMark "...") (.mark "...") (read (.type true)))]

def signature : Phrase :=
  .maybe "const" ++ .maybe "async" ++ .maybe "unsafe" ++ .maybe "safe" ++ binaryInterface ++
    .word "fn" ++ .anyWord ++ parameters read ++
    .parentheses (.listed Ahead.isEnd (functionParameter read)) ++ result read true ++
    conditions read

def isSignature (tokens : List Token) : Bool :=
  let past (w : String) (tokens : List Token) : List Token :=
    if Ahead.isWord w tokens then tokens.drop 1 else tokens
  let interface (tokens : List Token) : List Token :=
    if Ahead.isWord "extern" tokens then
      (if Ahead.isQuoted (tokens.drop 1) then tokens.drop 2 else tokens.drop 1) else tokens
  let tokens := interface (past "safe" (past "unsafe" (past "async" (past "const" tokens))))
  Ahead.isWord "fn" tokens && !Ahead.isBracket '(' (tokens.drop 1)

/-! ## Members -/

/-- The type of a member, which a nameless one may spell out. -/
def memberType : Phrase :=
  let isSpelledOut (tokens : List Token) : Bool :=
    Ahead.isOneOf ["struct", "union"] tokens && Ahead.isBracket '\x7b' (tokens.drop 1)
  .ifAhead isSpelledOut (.anyWord ++ .group) (read (.type true))

def namedMember : Phrase :=
  attributes read ++ visibility ++ .anyWord ++ .mark ":" ++ memberType read

def namedMembers : Phrase := .braces (.listed Ahead.isEnd (namedMember read))

def unnamedMembers : Phrase :=
  .parentheses (.listed Ahead.isEnd (attributes read ++ visibility ++ read (.type true)))

/-- A variant of an enumeration. Its visibility is that of the enumeration. -/
def variant : Phrase := do
  let notes ← attributes read
  let _ ← visibility
  return notes ++ (← Phrase.anyWord ++ .choose [
    (Ahead.isBracket '\x7b', namedMembers read), (Ahead.isBracket '(', unnamedMembers read),
    (fun _ => true, .nothing)] ++
    .when (Ahead.isMark "=") (.mark "=" ++ read (.expression true 0)))

/-! ## Kinds of items

Each gives nothing for an item that is only recognized. -/

/-- The tokens of an item of a kind that is known through and through. -/
def known (x : Phrase) : Reader (Option (List Token)) := some <$> x

def functionItem : Reader (Option (List Token)) := do
  let isSafe ← Reader.ahead (Ahead.isWord "safe")
  let front ← signature read
  if ← Reader.ahead (Ahead.isMark ";") then
    let _ ← Phrase.mark ";"
    return none
  let body ← read .block
  return if isSafe then none else some (front ++ body)

/-- A constant of a block, a trait or an implementation. Without parameters of its own it is
known, and with a value if it needs one. -/
def constItem (needsValue : Bool) : Reader (Option (List Token)) := do
  let name ← Phrase.word "const" ++ .anyWord
  let isGeneric ← Reader.ahead (Ahead.isMark "<")
  let _ ← parameters read
  let type ← Phrase.mark ":" ++ read (.type true)
  let hasValue ← Reader.ahead (Ahead.isMark "=")
  let value ← Phrase.when (Ahead.isMark "=") (.mark "=" ++ read (.expression true 0))
  let isConditional ← Reader.ahead (Ahead.isWord "where")
  let _ ← conditions read
  let closing ← Phrase.mark ";"
  return if isGeneric || isConditional || (needsValue && !hasValue) then none
    else some (name ++ type ++ value ++ closing)

def staticItem (needsValue : Bool) : Reader (Option (List Token)) := do
  let isMarked ← Reader.ahead (Ahead.isOneOf ["unsafe", "safe"])
  let front ← Phrase.maybe "unsafe" ++ .maybe "safe" ++ .word "static" ++ .maybe "mut" ++ .anyWord
  let isTyped ← Reader.ahead (Ahead.isMark ":")
  let type ← Phrase.when (Ahead.isMark ":") (.mark ":" ++ read (.type true))
  let hasValue ← Reader.ahead (Ahead.isMark "=")
  let value ← Phrase.when (Ahead.isMark "=") (.mark "=" ++ read (.expression true 0))
  let closing ← Phrase.mark ";"
  return if isMarked || !isTyped || hasValue != needsValue then none
    else some (front ++ type ++ value ++ closing)

structure TypeItemShape where
  conditionsFirst : Bool
  conditionsLast : Bool
  takesBounds : Bool
  takesType : Bool
  needsType : Bool

def typeItem (shape : TypeItemShape) : Reader (Option (List Token)) := do
  let stop (tokens : List Token) : Bool :=
    Ahead.isWord "where" tokens || Ahead.isMark "=" tokens || Ahead.isMark ";" tokens
  let front ← Phrase.word "type" ++ .anyWord ++ parameters read
  let hasBounds ← Reader.ahead isColon
  let bounds ← Phrase.when isColon (colonBounds read stop)
  let isFirst ← Reader.ahead fun tokens => shape.conditionsFirst && Ahead.isWord "where" tokens
  let first ← Phrase.when (fun _ => shape.conditionsFirst) (conditions read)
  let hasType ← Reader.ahead (Ahead.isMark "=")
  let type ← Phrase.when (Ahead.isMark "=") (.mark "=" ++ read (.type true))
  let last ← Phrase.when (fun _ => shape.conditionsLast && !isFirst) (conditions read)
  let closing ← Phrase.mark ";"
  return if (hasBounds && !shape.takesBounds) || (hasType && !shape.takesType) ||
      (!hasType && shape.needsType) then none
    else some (front ++ bounds ++ first ++ type ++ last ++ closing)

def structItem : Phrase :=
  .anyWord ++ .anyWord ++ parameters read ++ conditions read ++ .choose [
    (Ahead.isBracket '\x7b', namedMembers read),
    (Ahead.isBracket '(', unnamedMembers read ++ conditions read ++ .mark ";"),
    (fun _ => true, .mark ";")]

def enumerationItem : Phrase :=
  .word "enum" ++ .anyWord ++ parameters read ++ conditions read ++
    .braces (.listed Ahead.isEnd (variant read))

def itemBody (item : Reader (Option (List Token))) : Phrase :=
  .braces (innerAttributes read ++
    .whenever (fun tokens => !Ahead.isEnd tokens) item.orAsWritten)

def macroItem : Phrase :=
  plainPath ++ .mark "!" ++ .when Ahead.isAnyWord .anyWord ++ .group ++
    .when (Ahead.isMark ";") (.mark ";")

def traitMember : Reader (Option (List Token)) := do
  let notes ← attributes read
  let isMarked ← Reader.ahead (Ahead.isOneOf ["pub", "default"])
  let _ ← visibility ++ .maybe "default"
  let isFunction ← Reader.ahead isSignature
  let isConst ← Reader.ahead (Ahead.isWord "const")
  let isType ← Reader.ahead (Ahead.isWord "type")
  let found ← if isFunction then
      known (signature read ++ .ifAhead (Ahead.isMark ";") (.mark ";") (read .block))
    else if isConst then constItem read false
    else if isType then typeItem read ⟨false, true, true, true, false⟩
    else known macroItem
  return if isMarked then none else found.map (notes ++ ·)

def traitItem : Phrase :=
  let stop (tokens : List Token) : Bool :=
    Ahead.isWord "where" tokens || Ahead.isBracket '\x7b' tokens
  let shared : Phrase := .mark "=" ++ bounds read (fun tokens => Ahead.isWord "where" tokens ||
    Ahead.isMark ";" tokens) ++ conditions read ++ .mark ";"
  .maybe "unsafe" ++ .maybe "auto" ++ .word "trait" ++ .anyWord ++ parameters read ++
    .ifAhead (Ahead.isMark "=") shared
      (.when isColon (colonBounds read stop) ++ conditions read ++
        itemBody read (traitMember read))

def implementationMember : Reader (Option (List Token)) := do
  let notes ← attributes read ++ visibility ++ .when (fun tokens =>
    Ahead.isWord "default" tokens && !isCall (tokens.drop 1)) (.word "default")
  let isFunction ← Reader.ahead isSignature
  let isConst ← Reader.ahead (Ahead.isWord "const")
  let isType ← Reader.ahead (Ahead.isWord "type")
  let found ← if isFunction then functionItem read
    else if isConst then constItem read true
    else if isType then typeItem read ⟨false, true, false, true, true⟩
    else known macroItem
  return found.map (notes ++ ·)

/-- The implementation of a trait or of a type's own functions. A sign in front of the type in
the latter keeps the type as it is written. -/
def implementationItem : Reader (Option (List Token)) := do
  let front ← Phrase.maybe "default" ++ .maybe "unsafe" ++ .word "impl" ++
    .when areParameters (parameters read)
  let isConst ← Reader.ahead fun tokens => Ahead.isWord "const" tokens ||
    Ahead.isMark "?" tokens && Ahead.isWord "const" (tokens.drop 1)
  let _ ← Phrase.when (fun _ => isConst) (.when (Ahead.isMark "?") (.mark "?") ++ .word "const")
  let sign ← Phrase.when (fun tokens => isCall tokens &&
    !Ahead.isBracket '\x7b' (tokens.drop 1)) (.mark "!")
  let startsPath ← Reader.ahead fun tokens => isStep tokens || Ahead.isMark "::" tokens
  let subject : Reader (List Token × Bool) := do
    if !startsPath then return (← read (.type true), false)
    let (p, rest) ← extendedPath read true
    return (p.written ++ rest, rest.isEmpty)
  let ((found, isPath), written) ← subject.withWritten
  let isOfTrait ← Reader.ahead (Ahead.isWord "for")
  let first := if sign.isEmpty || isOfTrait then found else written
  let second ← Phrase.when (Ahead.isWord "for") (.word "for" ++ read (.type true))
  let rest ← conditions read ++ itemBody read (implementationMember read)
  return if isConst || (isOfTrait && !isPath) then none
    else some (front ++ sign ++ first ++ second ++ rest)

def foreignMember : Reader (Option (List Token)) := do
  let notes ← attributes read ++ visibility
  let isFunction ← Reader.ahead isSignature
  let isStatic ← Reader.ahead fun tokens => Ahead.isWord "static" tokens ||
    Ahead.isOneOf ["unsafe", "safe"] tokens && Ahead.isWord "static" (tokens.drop 1)
  let isType ← Reader.ahead (Ahead.isWord "type")
  let isSafe ← Reader.ahead fun tokens => Ahead.isWord "safe" (tokens.dropWhile fun token =>
    token == .word "const" || token == .word "async")
  let found ← if isFunction then do
      let front ← signature read
      if ← Reader.ahead (Ahead.isMark ";") then
        let closing ← Phrase.mark ";"
        pure (if isSafe then none else some (front ++ closing))
      else
        let _ ← Phrase.group
        pure none
    else if isStatic then staticItem read false
    else if isType then typeItem read ⟨true, true, false, false, false⟩
    else known macroItem
  return found.map (notes ++ ·)

def foreignItem : Phrase :=
  .maybe "unsafe" ++ binaryInterface ++ itemBody read (foreignMember read)

def throughSemicolon : Phrase :=
  .whenever (fun tokens => !Ahead.isEnd tokens && !Ahead.isMark ";" tokens)
    (.choose [(Ahead.isBracket '(', .group), (Ahead.isBracket '[', .group),
      (Ahead.isBracket '\x7b', .group), (fun _ => true, .one fun _ => true)]) ++ .mark ";"

def moduleItem : Phrase :=
  .maybe "unsafe" ++ .word "mod" ++ .anyWord ++ .ifAhead (Ahead.isMark ";") (.mark ";")
    (.braces (innerAttributes read ++
      .whenever (fun tokens => !Ahead.isEnd tokens) (read .item)))

def bareItem (isPrivate : Bool) : Reader (Option (List Token)) := do
  let rest ← (⟨fun tokens => some (tokens, tokens)⟩ : Reader (List Token))
  let second := rest.drop 1
  let behindUnsafe := if Ahead.isWord "unsafe" rest then second else rest
  if isSignature rest then functionItem read
  else if Ahead.isWord "extern" rest && Ahead.isWord "crate" second ||
      Ahead.isWord "use" rest then known throughSemicolon
  else if Ahead.isWord "extern" behindUnsafe then known (foreignItem read)
  else if Ahead.isWord "static" rest then staticItem read true
  else if Ahead.isWord "const" rest then constItem read true
  else if Ahead.isWord "mod" behindUnsafe then known (moduleItem read)
  else if Ahead.isWord "type" rest then typeItem read ⟨true, false, false, true, true⟩
  else if Ahead.isWord "struct" rest || Ahead.isWord "union" rest && Ahead.isName second then
    known (structItem read)
  else if Ahead.isWord "enum" rest then known (enumerationItem read)
  else if Ahead.isWord "trait" behindUnsafe ||
      Ahead.isWord "auto" behindUnsafe && Ahead.isWord "trait" (behindUnsafe.drop 1) then
    known (traitItem read)
  else if Ahead.isWord "impl" behindUnsafe ||
      Ahead.isWord "default" rest && !isCall second then do
    let found ← implementationItem read
    return if isPrivate then found else none
  else if Ahead.isWord "macro" rest then do
    let _ ← Phrase.word "macro" ++ .anyWord ++ .group ++ .when (Ahead.isBracket '\x7b') .group
    return none
  else known macroItem

def itemPhrase : Phrase :=
  Reader.orAsWritten do
    let notes ← attributes read
    let isPublic ← Reader.ahead (Ahead.isWord "pub")
    let front ← visibility
    return (← bareItem read !isPublic).map (notes ++ front ++ ·)

/-! ## Statements -/

def isItem (tokens : List Token) : Bool :=
  let second := tokens.drop 1
  let third := tokens.drop 2
  isSignature tokens ||
    Ahead.isOneOf ["pub", "extern", "use", "mod", "type", "struct", "enum", "trait", "impl",
      "macro"] tokens ||
    (Ahead.isWord "static" tokens && (Ahead.isWord "mut" second || (Ahead.isName second))) ||
    (Ahead.isWord "const" tokens && !(Ahead.isBracket '\x7b' second ||
      Ahead.isOneOf ["static", "async", "move"] second || Ahead.isMark "|" second)) ||
    (Ahead.isWord "unsafe" tokens && !Ahead.isBracket '\x7b' second) ||
    (Ahead.isWord "union" tokens && Ahead.isName second) ||
    (Ahead.isWord "auto" tokens && Ahead.isWord "trait" second) ||
    (Ahead.isWord "default" tokens && (Ahead.isWord "impl" second ||
      Ahead.isWord "unsafe" second && Ahead.isWord "impl" third))

def behindPath? (tokens : List Token) : Option (List Token) :=
  (plainPath.run tokens).map Prod.snd

def isMacroStatement (tokens : List Token) : Bool :=
  match behindPath? tokens with
  | none => false
  | some rest =>
    let third := Ahead.behind 2 rest
    isCall rest && (Ahead.isAnyWord (rest.drop 1) || Ahead.isBracket '\x7b' (rest.drop 1) &&
      !isDot third && !Ahead.isMark "?" third)

def letStatement : Phrase :=
  .word "let" ++ read .pattern ++ .when isColon (.mark ":" ++ read (.type true)) ++
    .when (Ahead.isMark "=") (.mark "=" ++ read (.expression true 0) ++
      .when (Ahead.isWord "else") (.word "else" ++ read .block)) ++ .mark ";"

def statement : Phrase := do
  let isMacro ← Reader.ahead fun tokens => isMacroStatement (behindAttributes tokens)
  let isLet ← Reader.ahead fun tokens => Ahead.isWord "let" (behindAttributes tokens)
  let isOther ← Reader.ahead fun tokens => isItem (behindAttributes tokens)
  if isOther then read .item
  else if isMacro then attributes read ++ macroItem
  else if isLet then attributes read ++ letStatement read
  else read .arm ++ Phrase.when (Ahead.isMark ";") (.mark ";")

def blockPhrase : Phrase :=
  .braces (innerAttributes read ++ .whenever (fun tokens => !Ahead.isEnd tokens)
    (.ifAhead (Ahead.isMark ";") (.mark ";") (statement read)))

end RecordSql.Declare.Grammar
