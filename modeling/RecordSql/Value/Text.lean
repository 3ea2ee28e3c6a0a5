import RecordSql.Number.Text
import RecordSql.Text.Printable
import RecordSql.Value.Basic
/-! # Values in log lines

The text by which values are shown to a reader: the kind and the content of each, texts in
quotation marks with everything escaped that could not be read. -/
set_option autoImplicit false
namespace RecordSql

namespace Text

def codeEscape (c : Char) : List Char :=
  '\\' :: 'u' :: '\x7b' :: (Nat.toDigits 16 c.toNat ++ ['\x7d'])

def escapeChar (c : Char) : List Char :=
  if c = '\\' then ['\\', '\\']
  else if c = '"' then ['\\', '"']
  else if c = '\n' then ['\\', 'n']
  else if c = '\t' then ['\\', 't']
  else if c = '\r' then ['\\', 'r']
  else if c.toNat = 0 then ['\\', '0']
  else if isAttaching c || !isPrintable c then codeEscape c
  else [c]

def quoted (s : String) : String := .ofList ('"' :: (s.toList.flatMap escapeChar ++ ['"']))

def bracketed (items : List String) : String := "[" ++ ", ".intercalate items ++ "]"

def applied (name content : String) : String := name ++ "(" ++ content ++ ")"

def optional : Option String → String
  | none => "None"
  | some content => applied "Some" content

/-- A record with named parts; `more` tells that it has parts which are not shown. -/
def record (name : String) (parts : List (String × String)) (more : Bool) : String :=
  let shown := parts.map fun (label, content) => label ++ ": " ++ content
  name ++ " \x7b " ++ ", ".intercalate (shown ++ if more then [".."] else []) ++ " \x7d"

end Text

def hexByte (b : UInt8) : List Char :=
  [Nat.digitChar (b.toNat / 16), Nat.digitChar (b.toNat % 16)]

/-- Five groups of hexadecimal digits joined by hyphens. -/
def Uuid.text (u : Uuid) : String :=
  let group (first count : Nat) : List Char := ((u.bytes.drop first).take count).flatMap hexByte
  .ofList (group 0 4 ++ '-' :: group 4 2 ++ '-' :: group 6 2 ++ '-' :: group 8 2 ++
    '-' :: group 10 6)

namespace Value

def inspect : Value → String
  | null => "Null"
  | bool b => Text.applied "Bool" (if b then "true" else "false")
  | int n => Text.applied "Int" (toString n.toInt)
  | uint n => Text.applied "UInt" (toString n.toNat)
  | float x => Text.applied "Float" x.text
  | text s => Text.applied "Text" (Text.quoted s)
  | bytes b => Text.applied "Bytes" (Text.bracketed (b.map fun byte => toString byte.toNat))
  | timestamp t => Text.applied "Timestamp" t.text
  | uuid u => Text.applied "Uuid" u.text

def inspectList (values : List Value) : String := Text.bracketed (values.map inspect)

end Value

end RecordSql
