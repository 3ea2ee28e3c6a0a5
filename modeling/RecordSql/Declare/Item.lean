import RecordSql.Declare.Grammar
/-! # Items that declare record types

The parts of an item that its mapping depends on: its kind, its name, its attributes and its
fields. An item is read from source text; the types of its fields are kept in the uniform
spelling. -/
set_option autoImplicit false
namespace RecordSql.Declare

inductive ItemKind
  | namedStruct | tupleStruct | unitStruct | enumeration | union
  deriving DecidableEq

/-- A key in source text: a single name, or a path, which no entry may have. -/
inductive Key
  | name (written : String)
  | path
  deriving DecidableEq

inductive Literal
  | text (s : String)
  /-- Anything else than a text. -/
  | bare
  deriving DecidableEq

inductive Argument
  /-- There are no brackets, or nothing of use in them. -/
  | unreadable
  | text (s : String)
  | pairs (entries : List (Key × Literal))
  deriving DecidableEq

structure Attribute where
  key : Key
  argument : Argument
  deriving DecidableEq

/-- A name without the marker that keeps it from being read as a keyword. -/
def unmarked (written : String) : String :=
  match written.toList with
  | 'r' :: '#' :: rest => .ofList rest
  | _ => written

/-- A field of an item, with its type in the uniform spelling. -/
structure ItemField where
  /-- The name as it is written. -/
  identifier : String
  type : List Token
  attributes : List Attribute
  deriving DecidableEq

def ItemField.name (f : ItemField) : String := unmarked f.identifier

structure Item where
  kind : ItemKind
  name : String
  /-- Whether the item has parameters of its own. -/
  isGeneric : Bool
  attributes : List Attribute
  fields : List ItemField
  deriving DecidableEq

/-! ## Texts -/

inductive TextPlace
  | plain
  /-- Behind a line break that does not count, as the blanks behind it do not. -/
  | skipping
  /-- In the braces of an escape, with the code point read so far. -/
  | escape (code : Nat)
  deriving DecidableEq

def unescaped : TextPlace → List Char → List Char
  | _, [] => []
  | .escape code, c :: rest =>
    if c == '\x7d' then .ofNat code :: unescaped .plain rest
    else if c == '_' then unescaped (.escape code) rest
    else unescaped (.escape (16 * code + Grammar.valueOf 16 [c])) rest
  | _, '\\' :: 'x' :: a :: b :: rest =>
    .ofNat (Grammar.valueOf 16 [a, b]) :: unescaped .plain rest
  | _, '\\' :: 'u' :: _ :: rest => unescaped (.escape 0) rest
  | _, '\\' :: 'n' :: rest => '\n' :: unescaped .plain rest
  | _, '\\' :: 't' :: rest => '\t' :: unescaped .plain rest
  | _, '\\' :: 'r' :: rest => '\r' :: unescaped .plain rest
  | _, '\\' :: '0' :: rest => '\x00' :: unescaped .plain rest
  | _, '\\' :: '\n' :: rest => unescaped .skipping rest
  | _, '\\' :: '\r' :: rest => unescaped .skipping rest
  | _, '\\' :: c :: rest => c :: unescaped .plain rest
  | place, c :: rest =>
    if c == '"' then []
    else if place == .skipping && Text.isBlank c then unescaped .skipping rest
    else if c == '\r' then unescaped .plain rest
    else c :: unescaped .plain rest

def textOf? (written : String) : Option String :=
  match written.toList with
  | '"' :: rest => some (.ofList (unescaped .plain rest))
  | 'r' :: rest =>
    let signs := rest.takeWhile (· == '#')
    (Source.splitRaw signs (rest.drop (signs.length + 1))).map fun (content, _) =>
      .ofList (content.take (content.length - (signs.length + 1)))
  | _ => none

/-! ## Attributes -/

def Reader.whole {α : Type} (x : Reader α) (tokens : List Token) : Option α :=
  match x.run tokens with
  | some (a, []) => some a
  | _ => none

def readKey : Reader Key := do
  match ← Phrase.ifAhead (Ahead.isWord "unsafe") (.word "unsafe") Grammar.plainPath with
  | [.word written] => return .name written
  | _ => return .path

def readEntry : Reader (Key × Literal) := do
  let key ← readKey
  let _ ← Phrase.mark "="
  if ← Reader.ahead Grammar.isOuterAttribute then Reader.fail
  match ← (Form.expression true 0).phrase.asWritten with
  | [.quoted written] => return (key, ((textOf? written).map .text).getD .bare)
  | _ => return (key, .bare)

def readEntries : Reader (List (Key × Literal)) :=
  Reader.repeated (fun front => do
    if ← Reader.ahead List.isEmpty then return none
    let entry ← readEntry
    let _ ← Phrase.when (fun tokens => !tokens.isEmpty) (.mark ",")
    return some (front ++ [entry])) []

def Argument.ofTokens (tokens : List Token) : Argument :=
  match tokens with
  | [.quoted written] => ((textOf? written).map text).getD unreadable
  | _ => ((readEntries.whole tokens).map pairs).getD unreadable

def inside (group : List Token) : List Token := group.tail.dropLast

def readAttribute : Reader Attribute := do
  let content ← Phrase.mark "#" ++ Phrase.group
  match readKey.run (inside (content.drop 1)) with
  | none => Reader.fail
  | some (key, rest) =>
    if rest.isEmpty || !(Ahead.behindGroup rest).isEmpty then return ⟨key, .unreadable⟩
    return ⟨key, .ofTokens (inside rest)⟩

def readAttributes : Reader (List Attribute) :=
  Reader.repeated (fun front => do
    if ← Reader.ahead Grammar.isOuterAttribute then return some (front ++ [← readAttribute])
    return none) []

/-! ## Items -/

def readIdentifier : Reader String := do
  match ← Phrase.anyWord with
  | [.word written] => return written
  | _ => Reader.fail

def readName : Reader String := do return unmarked (← readIdentifier)

def throughType : Phrase := do
  let (tokens, _) ← Reader.repeated (fun (front, depth) => do
    let isDone ← Reader.ahead fun tokens =>
      Ahead.isEnd tokens || depth == 0 && Ahead.isMark "," tokens
    if isDone then return none
    let isArrow ← Reader.ahead (Ahead.isMark "->")
    let isOpening ← Reader.ahead (Ahead.isMark "<")
    let isClosing ← Reader.ahead (Ahead.isMark ">")
    let next ← if isArrow then Phrase.mark "->"
      else Phrase.choose [(Ahead.isBracket '(', .group), (Ahead.isBracket '[', .group),
        (Ahead.isBracket '\x7b', .group), (fun _ => true, .one fun _ => true)]
    return some (front ++ next,
      if isOpening then depth + 1 else if isClosing then depth - 1 else depth)) ([], 0)
  return tokens

/-- The type of a field. One beyond the grammar is kept as it is written. -/
def readType : Phrase :=
  let found : Phrase := do
    let tokens ← Grammar.memberType Form.phrase
    if ← Reader.ahead fun rest => Ahead.isEnd rest || Ahead.isMark "," rest then return tokens
    Reader.fail
  found.orElse throughType

def readField : Reader ItemField := do
  let attributes ← readAttributes
  let _ ← Grammar.visibility
  let identifier ← readIdentifier
  let _ ← Phrase.mark ":"
  return ⟨identifier, ← readType, attributes⟩

def readFields : Reader (List ItemField) := do
  let _ ← Phrase.bracket '\x7b'
  let fields ← Reader.repeated (fun front => do
    if ← Reader.ahead Ahead.isEnd then return none
    let field ← readField
    let _ ← Phrase.when (fun tokens => !Ahead.isEnd tokens) (.mark ",")
    return some (front ++ [field])) []
  let _ ← Phrase.bracket '\x7d'
  return fields

/-- An item. Only of a struct with named fields these are read. -/
def readItem : Reader Item := do
  let attributes ← readAttributes
  let _ ← Grammar.visibility
  let isEnumeration ← Reader.ahead (Ahead.isWord "enum")
  let isUnion ← Reader.ahead (Ahead.isWord "union")
  let _ ← Phrase.one (Ahead.isOneOf ["struct", "enum", "union"])
  let name ← readName
  let isGeneric := !(← Grammar.parameters Form.phrase).isEmpty
  let _ ← Grammar.conditions Form.phrase
  if isEnumeration || isUnion then
    let _ ← Phrase.remainder
    return ⟨if isUnion then .union else .enumeration, name, isGeneric, attributes, []⟩
  if ← Reader.ahead (Ahead.isBracket '\x7b') then
    return ⟨.namedStruct, name, isGeneric, attributes, ← readFields⟩
  let isTuple ← Reader.ahead (Ahead.isBracket '(')
  let _ ← Phrase.remainder
  return ⟨if isTuple then .tupleStruct else .unitStruct, name, isGeneric, attributes, []⟩

def Item.ofSource? (source : String) : Option Item := (tokens? source).bind readItem.whole

end RecordSql.Declare
