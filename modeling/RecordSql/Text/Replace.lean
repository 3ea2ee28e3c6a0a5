/-! # Replacement in texts

Every occurrence of a pattern replaced, from the left and without overlaps. -/
set_option autoImplicit false
namespace RecordSql.Text

/-- The text with the occurrences of a non-empty pattern replaced; `skip` characters still
belong to the occurrence before. -/
def replaceFrom (pattern replacement : List Char) (skip : Nat) : List Char → List Char
  | [] => []
  | c :: rest =>
    match skip with
    | skip + 1 => replaceFrom pattern replacement skip rest
    | 0 =>
      if pattern.isPrefixOf (c :: rest) then
        replacement ++ replaceFrom pattern replacement (pattern.length - 1) rest
      else c :: replaceFrom pattern replacement 0 rest

/-- The text with every occurrence of the pattern replaced. The empty pattern occurs around
every character. -/
def replaceAll (pattern replacement s : String) : String :=
  .ofList <|
    if pattern.isEmpty then
      replacement.toList ++ s.toList.flatMap fun c => c :: replacement.toList
    else replaceFrom pattern.toList replacement.toList 0 s.toList

end RecordSql.Text
