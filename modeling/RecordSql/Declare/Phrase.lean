import RecordSql.Declare.Token
/-! # Readers of tokens

A reader takes tokens from the front of those that are left. What it makes of them are tokens
again where only a uniform spelling is wanted: such readers are phrases, and one after the
other they make a longer phrase. What may come next is decided by looking ahead. -/
set_option autoImplicit false
namespace RecordSql.Declare

/-- What a reader makes of the first tokens, and the tokens behind them. -/
structure Reader (α : Type) where
  run : List Token → Option (α × List Token)

/-- A reader that gives tokens back. -/
abbrev Phrase : Type := Reader (List Token)

namespace Reader

instance : Monad Reader where
  pure a := ⟨fun tokens => some (a, tokens)⟩
  bind x f := ⟨fun tokens =>
    match x.run tokens with
    | none => none
    | some (a, rest) => (f a).run rest⟩

def fail {α : Type} : Reader α := ⟨fun _ => none⟩

def orElse {α : Type} (x y : Reader α) : Reader α :=
  ⟨fun tokens => match x.run tokens with
    | none => y.run tokens
    | found => found⟩

/-- Whether the tokens ahead are such as described; none is taken. -/
def ahead (p : List Token → Bool) : Reader Bool := ⟨fun tokens => some (p tokens, tokens)⟩

def repeatAtMost {α : Type} (step : α → Reader (Option α)) : Nat → α → Reader α
  | 0, _ => fail
  | fuel + 1, a => do
    match ← step a with
    | none => return a
    | some b => repeatAtMost step fuel b

/-- Repeats a step until one has nothing to add. All others take a token at least. -/
def repeated {α : Type} (step : α → Reader (Option α)) (a : α) : Reader α :=
  ⟨fun tokens => (repeatAtMost step (tokens.length + 1) a).run tokens⟩

def withWritten {α : Type} (x : Reader α) : Reader (α × List Token) :=
  ⟨fun tokens => (x.run tokens).map fun (a, rest) =>
    ((a, tokens.take (tokens.length - rest.length)), rest)⟩

def asWritten {α : Type} (x : Reader α) : Phrase := do
  let (_, written) ← x.withWritten
  return written

def orAsWritten (x : Reader (Option (List Token))) : Phrase := do
  let (found, written) ← x.withWritten
  return found.getD written

end Reader

/-! ## Looking ahead -/

namespace Ahead

def isWord (w : String) : List Token → Bool
  | .word written :: _ => written == w
  | _ => false

def isAnyWord : List Token → Bool
  | .word _ :: _ => true
  | _ => false

def keywords : List String :=
  ["_", "abstract", "as", "async", "await", "become", "box", "break", "const", "continue", "do",
   "dyn", "else", "enum", "extern", "false", "final", "fn", "for", "if", "impl", "in", "let",
   "loop", "macro", "match", "mod", "move", "mut", "override", "priv", "pub", "ref", "return",
   "static", "struct", "trait", "true", "try", "type", "typeof", "unsafe", "unsized", "use",
   "virtual", "where", "while", "yield"]

def places : List String := ["crate", "self", "Self", "super"]

def isOneOf (words : List String) : List Token → Bool
  | .word written :: _ => words.contains written
  | _ => false

def isName : List Token → Bool
  | .word written :: _ => !keywords.contains written && !places.contains written
  | _ => false

def isLifetime : List Token → Bool
  | .lifetime _ :: _ => true
  | _ => false

def isNumber : List Token → Bool
  | .number _ :: _ => true
  | _ => false

def isQuoted : List Token → Bool
  | .quoted _ :: _ => true
  | _ => false

def isBracket (c : Char) : List Token → Bool
  | .bracket d :: _ => c == d
  | _ => false

def areMarks : List Char → List Token → Bool
  | [], _ => true
  | [c], .mark d _ :: _ => c == d
  | c :: cs, .mark d joined :: rest => c == d && joined && areMarks cs rest
  | _, _ => false

def isMark (marks : String) (tokens : List Token) : Bool := areMarks marks.toList tokens

def isLiteral (tokens : List Token) : Bool :=
  isQuoted tokens || isNumber tokens || isOneOf ["true", "false"] tokens

/-- Whether nothing is left, up to the bracket that closes what is open. -/
def isEnd : List Token → Bool
  | [] => true
  | .bracket c :: _ => [')', ']', '\x7d'].contains c
  | _ => false

def behindBrackets : Nat → List Token → List Token
  | _, [] => []
  | depth, .bracket c :: rest =>
    if ['(', '[', '\x7b'].contains c then behindBrackets (depth + 1) rest
    else match depth with
      | 0 | 1 => rest
      | depth + 2 => behindBrackets (depth + 1) rest
  | depth, _ :: rest => behindBrackets depth rest

def behindGroup : List Token → List Token
  | .bracket c :: rest => behindBrackets 0 (.bracket c :: rest)
  | tokens => tokens

/-- The tokens behind the next `count`, where brackets count with all between them as one. -/
def behind (count : Nat) (tokens : List Token) : List Token :=
  match count with
  | 0 => tokens
  | count + 1 => behind count (if isBracket '(' tokens || isBracket '[' tokens ||
      isBracket '\x7b' tokens then behindGroup tokens else tokens.drop 1)

end Ahead

/-! ## Phrases -/

namespace Phrase

instance : Append Phrase := ⟨fun x y => do return (← x) ++ (← y)⟩

def nothing : Phrase := pure []

def one (p : List Token → Bool) : Phrase :=
  ⟨fun tokens => match tokens with
    | [] => none
    | token :: rest => if p tokens then some ([token], rest) else none⟩

def word (w : String) : Phrase := one (Ahead.isWord w)

def anyWord : Phrase := one Ahead.isAnyWord

def lifetime : Phrase := one Ahead.isLifetime

def bracket (c : Char) : Phrase := one (Ahead.isBracket c)

def mark (marks : String) : Phrase :=
  ⟨fun tokens =>
    if Ahead.isMark marks tokens then
      some (tokens.take marks.length, tokens.drop marks.length)
    else none⟩

def ifAhead (p : List Token → Bool) (x y : Phrase) : Phrase := do
  if ← Reader.ahead p then x else y

def when (p : List Token → Bool) (x : Phrase) : Phrase := ifAhead p x nothing

def choose : List ((List Token → Bool) × Phrase) → Phrase
  | [] => .fail
  | (p, x) :: rest => ifAhead p x (choose rest)

def maybe (w : String) : Phrase := when (Ahead.isWord w) (word w)

def whenever (p : List Token → Bool) (x : Phrase) : Phrase :=
  Reader.repeated (fun front => do
    if ← Reader.ahead p then return some (front ++ (← x)) else return none) []

/-- Phrases with commas between them, the last of which may be missing, up to where `stop`
fits. -/
def listed (stop : List Token → Bool) (x : Phrase) : Phrase :=
  Reader.repeated (fun front => do
    if ← Reader.ahead stop then return none
    let element ← x
    if ← Reader.ahead stop then return some (front ++ element)
    return some (front ++ element ++ (← mark ","))) []

def parentheses (x : Phrase) : Phrase := bracket '(' ++ x ++ bracket ')'

def squares (x : Phrase) : Phrase := bracket '[' ++ x ++ bracket ']'

def braces (x : Phrase) : Phrase := bracket '\x7b' ++ x ++ bracket '\x7d'

def group : Phrase :=
  ⟨fun tokens =>
    let rest := Ahead.behindGroup tokens
    if Ahead.isBracket '(' tokens || Ahead.isBracket '[' tokens ||
        Ahead.isBracket '\x7b' tokens then
      some (tokens.take (tokens.length - rest.length), rest)
    else none⟩

def remainder : Phrase :=
  whenever (fun tokens => !Ahead.isEnd tokens)
    (choose [(Ahead.isBracket '(', group), (Ahead.isBracket '[', group),
      (Ahead.isBracket '\x7b', group), (fun _ => true, one fun _ => true)])

end Phrase

end RecordSql.Declare
