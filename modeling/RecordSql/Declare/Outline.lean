import RecordSql.Declare.Item
/-! # Outlines of items

An item given by its parts, each of them a piece of source text, and the source text that the
parts make together. -/
set_option autoImplicit false
namespace RecordSql.Declare.Outline

inductive Argument
  | missing
  | text (s : String)
  | pairs (entries : List (String × Literal))
  deriving DecidableEq

structure Attribute where
  path : String
  argument : Argument
  deriving DecidableEq

structure Field where
  name : String
  type : String
  attributes : List Attribute
  deriving DecidableEq

end Outline

structure Outline where
  kind : ItemKind
  name : String
  generics : List String
  attributes : List Outline.Attribute
  fields : List Outline.Field
  deriving DecidableEq

namespace Outline

/-- A value in source text. All that are no texts count alike. -/
def literalSource : Literal → String
  | .text s => Text.quoted s
  | .bare => "0"

def Argument.source : Argument → String
  | missing => ""
  | text s => "(" ++ Text.quoted s ++ ")"
  | pairs entries => "(" ++ ", ".intercalate (entries.map fun (key, value) =>
      key ++ " = " ++ literalSource value) ++ ")"

def attributeSource (a : Attribute) : String :=
  "#[" ++ a.path ++ a.argument.source ++ "]\n"

def fieldSource (f : Field) : String :=
  String.join (f.attributes.map attributeSource) ++ f.name ++ ": " ++ f.type ++ ",\n"

def source (o : Outline) : String :=
  let generics := if o.generics.isEmpty then "" else "<" ++ ", ".intercalate o.generics ++ ">"
  let head := o.name ++ generics
  String.join (o.attributes.map attributeSource) ++ match o.kind with
    | .namedStruct => "struct " ++ head ++ " \x7b\n" ++
        String.join (o.fields.map fieldSource) ++ "\x7d\n"
    | .tupleStruct => "struct " ++ head ++ "();\n"
    | .unitStruct => "struct " ++ head ++ ";\n"
    | .enumeration => "enum " ++ head ++ " \x7b\x7d\n"
    | .union => "union " ++ head ++ " \x7b\x7d\n"

end RecordSql.Declare.Outline
