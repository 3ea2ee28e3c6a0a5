import RecordSql.Declare.Grammar.Types
/-! # Patterns in source text

What a value is taken apart with. In the uniform spelling members have plain numbers, and a
range has an equals sign if its end belongs to it. -/
set_option autoImplicit false
namespace RecordSql.Declare.Grammar

variable (read : Form → Phrase)

def rangeSign : Phrase := .ifAhead (Ahead.isMark "..=") (.mark "..=") (.mark "..")

/-- The sign between the ends of a range, where a third point means that the end belongs to
it as an equals sign does. -/
def pointedSign : Phrase := do
  if ← Reader.ahead (Ahead.isMark "...") then
    return (← Phrase.mark "...").take 2 ++ [.mark '=' false]
  rangeSign

def isOpenEnd (tokens : List Token) : Bool :=
  Ahead.isEnd tokens || Ahead.isMark "|" tokens || Ahead.isMark "=" tokens || isColon tokens ||
    Ahead.isMark "," tokens || Ahead.isMark ";" tokens || Ahead.isWord "if" tokens

def rangeEnd : Phrase :=
  .choose [(Ahead.isMark "-", .mark "-" ++ .one Ahead.isNumber),
    (Ahead.isLiteral, .one Ahead.isLiteral),
    (Ahead.isWord "const", .word "const" ++ read .block),
    (fun _ => true, do return (← anyPath read true).written)]

def rangeRest : Phrase :=
  .when (Ahead.isMark "..") (pointedSign ++ .ifAhead isOpenEnd .nothing (rangeEnd read))

def memberPattern : Phrase :=
  let isNamed (tokens : List Token) : Bool :=
    Ahead.isNumber tokens || isColon (tokens.drop 1)
  attributes read ++ .choose [
    (Ahead.isMark "..", .mark ".."),
    (Ahead.isWord "box", .word "box" ++ .maybe "ref" ++ .maybe "mut" ++ .anyWord),
    (isNamed, member ++ .mark ":" ++ read .alternatives),
    (fun _ => true, .maybe "ref" ++ .maybe "mut" ++ .anyWord)]

def pathPattern : Phrase := do
  let p ← anyPath read true
  let isMacro ← Reader.ahead isCall
  if isMacro && p.isPlain then return p.written ++ (← Phrase.mark "!" ++ .group)
  return p.written ++ (← Phrase.choose [
    (Ahead.isBracket '\x7b', .braces (.listed Ahead.isEnd (memberPattern read))),
    (Ahead.isBracket '(', .parentheses (.listed Ahead.isEnd (read .alternatives))),
    (fun _ => true, rangeRest read)])

def isPathPattern (tokens : List Token) : Bool :=
  let rest := tokens.drop 1
  (Ahead.isName tokens && (Ahead.isMark "::" rest || Ahead.isMark "!" rest ||
      Ahead.isBracket '\x7b' rest || Ahead.isBracket '(' rest || Ahead.isMark ".." rest)) ||
    (Ahead.isWord "self" tokens && Ahead.isMark "::" rest) ||
    Ahead.isMark "::" tokens || Ahead.isMark "<" tokens ||
    Ahead.isOneOf ["Self", "super", "crate"] tokens

def patternPhrase : Phrase :=
  let isLimit (tokens : List Token) : Bool :=
    Ahead.isMark "-" tokens || Ahead.isLiteral tokens || Ahead.isWord "const" tokens
  .choose [
    (isPathPattern, pathPattern read),
    (Ahead.isWord "_", .word "_"),
    (Ahead.isWord "box", (Phrase.word "box" ++ read .pattern).asWritten),
    (isLimit, rangeEnd read ++ rangeRest read),
    (Ahead.isAnyWord, .maybe "ref" ++ .maybe "mut" ++ .anyWord ++
      .when (Ahead.isMark "@") (.mark "@" ++ read .pattern)),
    (Ahead.isMark "&", .mark "&" ++ .maybe "mut" ++ read .pattern),
    (Ahead.isBracket '(', .parentheses (.listed Ahead.isEnd (read .alternatives))),
    (Ahead.isBracket '[', .squares (.listed Ahead.isEnd (read .alternatives))),
    (Ahead.isMark "..", rangeRest read)]

def alternativesPhrase : Phrase :=
  let isBar (tokens : List Token) : Bool := Ahead.isMark "|" tokens &&
    !Ahead.isMark "||" tokens && !Ahead.isMark "|=" tokens
  .when (Ahead.isMark "|") (.mark "|") ++ read .pattern ++
    .whenever isBar (.mark "|" ++ read .pattern)

end RecordSql.Declare.Grammar
