import RecordSql.Text.Blank
import RecordSql.Value.Text
/-! # Tokens of source text

Declarations are written in source text, where blanks and comments only keep the tokens
apart. Comments nest; one that documents what follows counts as an attribute. Within quotes
everything counts, so the delimiters of literals decide where they end. -/
set_option autoImplicit false
namespace RecordSql.Declare

inductive Token
  /-- A name or a keyword. -/
  | word (written : String)
  | number (written : String)
  /-- A name behind an apostrophe. -/
  | lifetime (written : String)
  /-- A literal with the quotes around it, and the name that may follow at once. -/
  | quoted (written : String)
  /-- A punctuation mark, and whether another one follows at once. -/
  | mark (c : Char) (joined : Bool)
  | bracket (c : Char)
  deriving DecidableEq

def Token.written : Token → String
  | word written => written
  | number written => written
  | lifetime written => written
  | quoted written => written
  | mark c _ => .singleton c
  | bracket c => .singleton c

namespace Source

/-- The white space of source text, which the two marks of direction belong to. -/
def isGap (c : Char) : Bool := Text.isBlank c || c.toNat == 0x200e || c.toNat == 0x200f

/-- Whether a name can start with the character. Beyond ASCII everything but white space is
for names, as nothing else stands outside of quotes and comments. -/
def isNameStart (c : Char) : Bool :=
  if c.toNat < 0x80 then c.isAlpha || c == '_' else !isGap c

def isNameChar (c : Char) : Bool := isNameStart c || c.isDigit

def isMark (c : Char) : Bool := "~!@#$%^&*-=+|;:,<.>/?\x27".toList.contains c

def isBracket (c : Char) : Bool := "()[]\x7b\x7d".toList.contains c

def startsWithMark : List Char → Bool
  | '/' :: '/' :: _ => false
  | '/' :: '*' :: _ => false
  | c :: _ => isMark c
  | [] => false

/-- What was read, and what is left behind it. -/
abbrev Split : Type := List Char × List Char

def Split.after (front : List Char) (s : Split) : Split := (front ++ s.1, s.2)

/-- A literal up to the quote that closes it. A backslash keeps a quote from closing. -/
def splitQuoted (quote : Char) : List Char → Option Split
  | [] => none
  | '\\' :: c :: rest => (splitQuoted quote rest).map (.after ['\\', c])
  | c :: rest =>
    if c = quote then some ([c], rest) else (splitQuoted quote rest).map (.after [c])

/-- A literal up to a quote with as many number signs behind it as stood in front. -/
def splitRaw (signs : List Char) : List Char → Option Split
  | [] => none
  | c :: rest =>
    if c = '"' && signs.isPrefixOf rest then some (c :: signs, rest.drop signs.length)
    else (splitRaw signs rest).map (.after [c])

/-- A literal in which a backslash means itself, from the number signs in front of it on. -/
def readRaw (cs : List Char) : Option Split :=
  let signs := cs.takeWhile (· == '#')
  match cs.drop signs.length with
  | '"' :: rest => (splitRaw signs rest).map (.after (signs ++ ['"']))
  | _ => none

def readCharacter : List Char → Option Split
  | '\\' :: c :: rest => (splitQuoted '\x27' rest).map (.after ['\\', c])
  | c :: '\x27' :: rest => some ([c, '\x27'], rest)
  | _ => none

def readLiteral : List Char → Option Split
  | '"' :: rest => (splitQuoted '"' rest).map (.after ['"'])
  | '\x27' :: rest => (readCharacter rest).map (.after ['\x27'])
  | 'b' :: '\x27' :: rest => (readCharacter rest).map (.after ['b', '\x27'])
  | 'b' :: '"' :: rest => (splitQuoted '"' rest).map (.after ['b', '"'])
  | 'c' :: '"' :: rest => (splitQuoted '"' rest).map (.after ['c', '"'])
  | 'r' :: rest => (readRaw rest).map (.after ['r'])
  | 'b' :: 'r' :: rest => (readRaw rest).map (.after ['b', 'r'])
  | 'c' :: 'r' :: rest => (readRaw rest).map (.after ['c', 'r'])
  | _ => none

def readName (cs : List Char) : Option Split :=
  let (marker, rest) := match cs with
    | 'r' :: '#' :: rest => (['r', '#'], rest)
    | _ => ([], cs)
  if rest.head?.any isNameStart then some (.after marker (rest.span isNameChar)) else none

def Split.withSuffix (s : Split) : Split :=
  if s.2.head?.any isNameStart then .after s.1 (s.2.span isNameChar) else s

def readExponent (cs : List Char) : Option Split :=
  let (gap, rest) := cs.span (· == '_')
  let (sign, rest) := match rest with
    | '+' :: rest => (['+'], rest)
    | '-' :: rest => (['-'], rest)
    | _ => ([], rest)
  let (digits, rest) := rest.span fun c => c.isDigit || c == '_'
  if digits.any Char.isDigit then some (gap ++ sign ++ digits, rest) else none

def Split.withExponent (s : Split) (fallback : Option Split) : Option Split :=
  match s.2 with
  | [] => fallback
  | c :: rest =>
    if c == 'e' || c == 'E' then
      match readExponent rest with
      | some digits => some (.after (s.1 ++ [c]) digits)
      | none => fallback
    else fallback

/-- A number with a point or an exponent. A point that a name or another point follows is
none of the number's. -/
def readFraction (cs : List Char) : Option Split :=
  let isPart (c : Char) : Bool := c.isDigit || c == '_'
  let (whole, rest) := cs.span isPart
  match rest with
  | '.' :: rest =>
    if rest.head?.any fun c => c == '.' || isNameStart c then none
    else
      let fraction := Split.after (whole ++ ['.']) (rest.span isPart)
      fraction.withExponent (some fraction)
  | _ => Split.withExponent (whole, rest) none

/-- A number. Letters in it tell its base or its type. -/
def readNumber (cs : List Char) : Option Split :=
  if cs.head?.any Char.isDigit then
    match readFraction cs with
    | some s => some s.withSuffix
    | none => some (cs.span isNameChar)
  else none

/-- A comment up to its end, where `depth` comments within it are open. -/
def splitComment (depth : Nat) : List Char → Option Split
  | '/' :: '*' :: rest => (splitComment (depth + 1) rest).map (.after ['/', '*'])
  | '*' :: '/' :: rest =>
    match depth with
    | 0 => some ([], rest)
    | depth + 1 => (splitComment depth rest).map (.after ['*', '/'])
  | c :: rest => (splitComment depth rest).map (.after [c])
  | [] => none

/-- Documenting words within quotes. A null that an octal digit follows is written with two
digits of its own. -/
def escapeWords : List Char → List Char
  | [] => []
  | c :: rest =>
    if c.toNat = 0 && rest.head?.any fun next => '0' ≤ next && next ≤ '7' then
      ['\\', 'x', '0', '0'] ++ escapeWords rest
    else Text.escapeChar c ++ escapeWords rest

def documentation (inner : Bool) (words : List Char) : List Token :=
  .mark '#' false :: (if inner then [.mark '!' false] else []) ++
    [.bracket '[', .word "doc", .mark '=' false,
      .quoted (.ofList ('"' :: (escapeWords words ++ ['"']))), .bracket ']']

def lineTokens (line : List Char) : List Token :=
  let words (cs : List Char) := if cs.getLast? = some '\r' then cs.dropLast else cs
  match line with
  | '!' :: rest => documentation true (words rest)
  | '/' :: '/' :: _ => []
  | '/' :: rest => documentation false (words rest)
  | _ => []

def blockTokens : List Char → List Token
  | '!' :: rest => documentation true rest
  | ['*'] => []
  | '*' :: '*' :: _ => []
  | '*' :: rest => documentation false rest
  | _ => []

def readPart : List Char → Option (List Token × List Char)
  | [] => some ([], [])
  | '/' :: '/' :: rest =>
    let (line, rest) := rest.span (· != '\n')
    some (lineTokens line, rest)
  | '/' :: '*' :: rest =>
    (splitComment 0 rest).map fun (comment, rest) => (blockTokens comment, rest)
  | c :: rest =>
    if isGap c then some ([], rest)
    else match readLiteral (c :: rest), readNumber (c :: rest) with
      | some literal, _ =>
        let (written, rest) := literal.withSuffix
        some ([.quoted (.ofList written)], rest)
      | _, some (written, rest) => some ([.number (.ofList written)], rest)
      | none, none =>
        if isBracket c then some ([.bracket c], rest)
        else if c == '\x27' then
          (readName rest).map fun (name, rest) => ([.lifetime (.ofList (c :: name))], rest)
        else if isMark c then some ([.mark c (startsWithMark rest)], rest)
        else (readName (c :: rest)).map fun (name, rest) => ([.word (.ofList name)], rest)

def readParts : Nat → List Char → Option (List Token)
  | _, [] => some []
  | 0, _ :: _ => none
  | fuel + 1, c :: cs =>
    match readPart (c :: cs) with
    | none => none
    | some (tokens, rest) => (readParts fuel rest).map (tokens ++ ·)

end Source

/-- The tokens of source text, if it can be read. Each part takes a character at least. -/
def tokens? (source : String) : Option (List Token) :=
  Source.readParts source.toList.length source.toList

/-- The tokens one after the other, without the blanks that literals hold. -/
def joined (tokens : List Token) : String :=
  .ofList (tokens.flatMap fun token => token.written.toList.filter (· != ' '))

end RecordSql.Declare
