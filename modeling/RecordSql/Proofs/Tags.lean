import RecordSql.Declare
import RecordSql.Proofs.TagGrammar
/-! # Tags of attributes

The keys and values of a field's attributes are written down as the text of a tag, which is read
when the model is made. Pairs are never mixed up with each other, but nothing tells a comma in a
value from the end of a pair: each pair is read as its text cut at the commas. Without commas in
the values the tag has the keys of the pairs with their trimmed values, or is refused. -/
set_option autoImplicit false
namespace RecordSql

namespace Text

/-- Parts with separators between them are split one by one. -/
theorem splitOn_intercalate (separator : Char) {parts : List (List Char)} (given : parts ≠ []) :
    splitOn separator ([separator].intercalate parts) = parts.flatMap (splitOn separator) := by
  induction parts with
  | nil => exact absurd rfl given
  | cons part rest ih =>
    cases rest with
    | nil => simp
    | cons next rest =>
      rw [List.intercalate_cons_cons, List.append_assoc, List.singleton_append,
        splitOn_append_cons, ih (List.cons_ne_nil next rest)]
      rfl

end Text

open Text

/-! ## Words of source text -/

namespace Declare.Source

/-- The characters are a word: source text reads all of them as one name. -/
def IsWord (cs : List Char) : Prop := readName cs = some (cs, [])

instance (cs : List Char) : Decidable (IsWord cs) :=
  inferInstanceAs (Decidable (readName cs = some (cs, [])))

theorem solid_of_isNameChar {c : Char} (inName : isNameChar c = true) :
    c ≠ ',' ∧ c ≠ '=' ∧ isBlank c = false := by
  have ascii : ∀ n : Fin 128, isNameChar (.ofNat n) = true →
      Char.ofNat n ≠ ',' ∧ Char.ofNat n ≠ '=' ∧ isBlank (.ofNat n) = false := by
    decide +kernel
  by_cases small : c.toNat < 128
  · have known := ascii ⟨c.toNat, small⟩
    rw [Char.ofNat_toNat] at known
    exact known inName
  · have digit : c.isDigit = false := by
      rw [Char.isDigit, Bool.and_eq_false_iff]
      right
      rw [decide_eq_false_iff_not, UInt32.le_iff_toNat_le]
      change ¬ c.toNat ≤ 57
      omega
    rw [isNameChar, digit, Bool.or_false, isNameStart, if_neg small, Bool.not_eq_true', isGap,
      Bool.or_eq_false_iff, Bool.or_eq_false_iff] at inName
    refine ⟨?_, ?_, inName.1.1⟩
    · rintro rfl
      exact small (by decide)
    · rintro rfl
      exact small (by decide)

theorem forall_isNameChar_of_split {cs front word : List Char}
    (split : Split.after front (cs.span isNameChar) = (word, [])) :
    word = front ++ cs ∧ ∀ c ∈ cs, isNameChar c = true := by
  rw [Split.after, List.span_eq_takeWhile_dropWhile, Prod.mk.injEq] at split
  obtain ⟨whole, nothing⟩ := split
  have all : ∀ c ∈ cs, isNameChar c = true := List.dropWhile_eq_nil_iff.mp nothing
  rw [List.takeWhile_eq_self_iff.mpr all] at whole
  exact ⟨whole.symm, all⟩

/-- A word has no comma, no equals sign and no blank in it. -/
theorem IsWord.solid {cs : List Char} (word : IsWord cs) :
    ∀ c ∈ cs, c ≠ ',' ∧ c ≠ '=' ∧ isBlank c = false := by
  unfold IsWord readName at word
  split at word
  next marker rest marked =>
    split at word
    next =>
      obtain ⟨whole, all⟩ := forall_isNameChar_of_split (Option.some.inj word)
      intro c member
      rw [whole, List.mem_append] at member
      obtain front | behind := member
      · split at marked
        · obtain ⟨rfl, rfl⟩ := Prod.mk.inj marked
          have one : c = 'r' ∨ c = '#' := by simpa using front
          obtain rfl | rfl := one <;> decide
        · obtain ⟨rfl, rfl⟩ := Prod.mk.inj marked
          simp at front
      · exact solid_of_isNameChar (all c behind)
    next => simp at word

end Declare.Source

namespace Tag

/-- The text of a pair, cut at commas. -/
def cut (pair : String × String) : List (List Char) :=
  splitOn ',' (pair.1 ++ "=" ++ pair.2).toList

theorem toList_render (pairs : List (String × String)) :
    (render pairs).toList =
      [','].intercalate (pairs.map fun pair => (pair.1 ++ "=" ++ pair.2).toList) := by
  rw [render, String.toList_intercalate, List.map_map]
  rfl

/-- Each pair is read on its own. -/
theorem parse_render (pairs : List (String × String)) :
    parse (render pairs) = parsePieces (pairs.flatMap cut) := by
  cases pairs with
  | nil => rfl
  | cons pair rest =>
    have long : (render (pair :: rest)).toList ≠ [] := by
      rw [toList_render]
      cases rest <;> simp [List.intercalate_cons_cons]
    have given : ¬ (render (pair :: rest)).isEmpty = true := by
      simpa using long
    rw [parse, if_neg given, toList_render, splitOn_intercalate _ (by simp), List.flatMap_map]
    rfl

theorem parsePieces_error {pieces : List (List Char)} {err : Error}
    (refused : parsePieces pieces = .error err) : ∃ piece, err = .invalidTagContent piece := by
  obtain ⟨-, -, -, -, -, -, shown, same, -⟩ := parsePieces_eq_error_iff.mp refused
  exact ⟨shown, same⟩

def trimmed (pair : String × String) : String × String := (pair.1, Text.trim pair.2)

theorem get?_map_trimmed (pairs : List (String × String)) (key : String) :
    get? (pairs.map trimmed) key = (get? pairs key).map Text.trim := by
  rw [get?, get?, List.findRev?_eq_find?_reverse, List.findRev?_eq_find?_reverse,
    ← List.map_reverse, List.find?_map, Option.map_map, Option.map_map]
  rfl

theorem trimChars_of_solid {cs : List Char} (solid : ∀ c ∈ cs, isBlank c = false) :
    trimChars cs = cs := by
  have keep (cs : List Char) (solid : ∀ c ∈ cs, isBlank c = false) : trimStart cs = cs := by
    cases cs with
    | nil => rfl
    | cons c rest => exact trimStart_cons (solid c List.mem_cons_self) rest
  rw [trimChars, keep cs solid, keep _ (by simpa using solid), List.reverse_reverse]

theorem parsePiece_pair {key value : String} (word : Declare.Source.IsWord key.toList) :
    parsePiece (key ++ "=" ++ value).toList =
      if '=' ∈ value.toList then .error (.invalidTagContent (Text.trim (key ++ "=" ++ value)))
      else .ok (trimmed (key, value)) := by
  have solid : ∀ c ∈ key.toList, isBlank c = false := fun c member => (word.solid c member).2.2
  have alone : '=' ∉ key.toList := fun member => (word.solid '=' member).2.1 rfl
  have whole : (key ++ "=" ++ value).toList = key.toList ++ '=' :: value.toList := by simp
  by_cases listed : '=' ∈ value.toList
  · rw [if_pos listed]
    apply parsePiece_malformed
    rw [whole, List.count_append, List.count_cons_self]
    have another := List.count_pos_iff.mpr listed
    omega
  · rw [if_neg listed, whole, parsePiece_sides alone listed, trimChars_of_solid solid,
      String.ofList_toList]
    rfl

theorem cut_of_notMem {pair : String × String} (word : Declare.Source.IsWord pair.1.toList)
    (absent : ',' ∉ pair.2.toList) : cut pair = [(pair.1 ++ "=" ++ pair.2).toList] := by
  apply splitOn_of_notMem
  have outside : ',' ∉ pair.1.toList := fun member => (word.solid ',' member).1 rfl
  simp [outside, absent]

/-- Without commas in the values, the first value with an equals sign is refused, and a tag
without one has the keys in order with their trimmed values. -/
theorem parse_render_of_notMem {pairs : List (String × String)}
    (words : ∀ pair ∈ pairs, Declare.Source.IsWord pair.1.toList)
    (absent : ∀ pair ∈ pairs, ',' ∉ pair.2.toList) :
    parse (render pairs) =
      match pairs.find? fun pair => pair.2.toList.contains '=' with
      | some (key, value) => .error (.invalidTagContent (Text.trim (key ++ "=" ++ value)))
      | none => .ok (pairs.map trimmed) := by
  rw [parse_render]
  induction pairs with
  | nil => rfl
  | cons pair rest ih =>
    have word := words pair List.mem_cons_self
    have ih := ih (fun p later => words p (List.mem_cons_of_mem pair later))
      (fun p later => absent p (List.mem_cons_of_mem pair later))
    rw [List.flatMap_cons, cut_of_notMem word (absent pair List.mem_cons_self),
      List.singleton_append, parsePieces, parsePiece_pair word, ih]
    by_cases listed : '=' ∈ pair.2.toList
    · rw [if_pos listed, List.find?_cons_of_pos (by simpa using listed)]
    · rw [if_neg listed, List.find?_cons_of_neg (by simpa using listed)]
      cases rest.find? fun pair => pair.2.toList.contains '=' <;> rfl

end Tag

/-! ## Columns from tags -/

/-- The column that a derived model gives a field comes from the tag of the field. -/
theorem Model.ofEntity_column {e : Entity} {m : Model} {i : Nat} {field : Field}
    (made : ofEntity e [] = .ok m) (declared : e.fields[i]? = some field) :
    ∃ tag, Tag.parse field.tag = .ok tag ∧
      m.fields[i]?.map MappedField.column = some (declaredColumn tag field.name) := by
  rw [ofEntity] at made
  split at made
  · simp at made
  · split at made
    next => simp at made
    next mapped later =>
      obtain rfl := Except.ok.inj made
      obtain ⟨tag, parsed, found⟩ := getElem?_mapFields later declared
      exact ⟨tag, parsed, by rw [found, Option.map_some]⟩

namespace Declare

theorem allTagPieces_of_readAll {attributes : List Attribute} {pairs : List (String × String)}
    (accepted : readAll attributes = .ok pairs) :
    allTagPieces attributes = .ok (pairs.map fun (key, value) => key ++ "=" ++ value) := by
  induction attributes generalizing pairs with
  | nil =>
    obtain rfl := Except.ok.inj accepted
    rfl
  | cons a rest ih =>
    rw [readAll] at accepted
    split at accepted
    next => simp at accepted
    next own first =>
      split at accepted
      next => simp at accepted
      next more later =>
        obtain rfl := Except.ok.inj accepted
        have pieces : tagPieces a.argument =
            .ok (own.map fun (key, value) => key ++ "=" ++ value) := by
          cases shape : a.argument with
          | text s => simp [shape, readPairs] at first
          | unreadable => simp [shape, readPairs] at first
          | pairs entries =>
            rw [shape] at first
            rw [tagPieces, first]
            · rfl
            · simp
        rw [allTagPieces, pieces, ih later, List.map_append]

theorem tagOf_of_readAll {attributes : List Attribute} {pairs : List (String × String)}
    (accepted : readAll (attributes.filter isMapping) = .ok pairs) :
    tagOf attributes = .ok (Tag.render pairs) := by
  rw [tagOf, allTagPieces_of_readAll accepted]
  rfl

/-- The tag that the attributes of a field write is read as its pairs, each cut at the commas in
its value; nothing else than an error of the content can come out. Without such commas a value
with an equals sign is refused, and otherwise the tag has the keys with their trimmed values, the
last of which for `column` names the column. -/
theorem parse_tagOf {attributes : List Attribute} {pairs : List (String × String)}
    (accepted : readAll (attributes.filter isMapping) = .ok pairs)
    (words : ∀ pair ∈ pairs, Source.IsWord pair.1.toList) :
    ∃ text, tagOf attributes = .ok text ∧
      Tag.parse text = Tag.parsePieces (pairs.flatMap Tag.cut) ∧
      (∀ err, Tag.parse text = .error err → ∃ piece, err = .invalidTagContent piece) ∧
      ((∀ pair ∈ pairs, ',' ∉ pair.2.toList) →
        ((∃ pair ∈ pairs, '=' ∈ pair.2.toList) →
          ∃ piece, Tag.parse text = .error (.invalidTagContent piece)) ∧
        ((∀ pair ∈ pairs, '=' ∉ pair.2.toList) →
          Tag.parse text = .ok (pairs.map Tag.trimmed) ∧
          (∀ key, Tag.get? (pairs.map Tag.trimmed) key = (Tag.get? pairs key).map Text.trim) ∧
          ∀ (e : Entity) (m : Model) (i : Nat) (field : Field), e.fields[i]? = some field →
            field.tag = text → Model.ofEntity e [] = .ok m →
            m.fields[i]?.map MappedField.column =
              some (Model.declaredColumn (pairs.map Tag.trimmed) field.name))) := by
  refine ⟨Tag.render pairs, tagOf_of_readAll accepted, Tag.parse_render pairs, ?_, ?_⟩
  · intro err refused
    rw [Tag.parse_render] at refused
    exact Tag.parsePieces_error refused
  · intro absent
    have read := Tag.parse_render_of_notMem words absent
    constructor
    · rintro ⟨pair, member, sign⟩
      cases first : pairs.find? fun pair => pair.2.toList.contains '=' with
      | none =>
        have none := List.find?_eq_none.mp first pair member
        exact absurd (by simpa using sign) none
      | some bad =>
        rw [first] at read
        exact ⟨_, read⟩
    · intro without
      have nothing : (pairs.find? fun pair => pair.2.toList.contains '=') = none := by
        rw [List.find?_eq_none]
        intro pair member
        simpa using without pair member
      rw [nothing] at read
      refine ⟨read, Tag.get?_map_trimmed pairs, ?_⟩
      intro e m i field declared written made
      obtain ⟨tag, parsed, column⟩ := Model.ofEntity_column made declared
      rw [written, read] at parsed
      obtain rfl := Except.ok.inj parsed
      exact column

theorem parse_tagOf_twoAttributes :
    let attributes : List Attribute :=
      [⟨.name "orm", .pairs [(.name "note", .text "two words"), (.name "column", .text " a ")]⟩,
        ⟨.name "doc", .unreadable⟩, ⟨.name "orm", .pairs [(.name "column", .text " owner ")]⟩]
    let pairs := [("note", "two words"), ("column", " a "), ("column", " owner ")]
    let holder : Field := ⟨"holder", .scalar .int64, "note=two words,column= a ,column= owner "⟩
    let e : Entity := .derived 0 "Account" "" [⟨"id", .scalar .int64, ""⟩, holder]
    let m : Model := ⟨"account", [⟨"id", "id", "i64", 0⟩, ⟨"holder", "owner", "i64", 1⟩]⟩
    readAll (attributes.filter isMapping) = .ok pairs ∧
      (∀ pair ∈ pairs, Source.IsWord pair.1.toList ∧ ',' ∉ pair.2.toList ∧ '=' ∉ pair.2.toList) ∧
      tagOf attributes = .ok holder.tag ∧ Model.ofEntity e [] = .ok m ∧
      Tag.parse holder.tag = .ok [("note", "two words"), ("column", "a"), ("column", "owner")] ∧
      m.fields[1]?.map MappedField.column = some (Model.declaredColumn
        [("note", "two words"), ("column", "a"), ("column", "owner")] "holder") := by
  intro attributes pairs holder e m
  have accepted : readAll (attributes.filter isMapping) = .ok pairs := by decide +kernel
  have plain : ∀ pair ∈ pairs,
      Source.IsWord pair.1.toList ∧ ',' ∉ pair.2.toList ∧ '=' ∉ pair.2.toList := by
    decide +kernel
  have made : Model.ofEntity e [] = .ok m := by decide +kernel
  obtain ⟨text, written, -, -, whole⟩ :=
    parse_tagOf accepted fun pair member => (plain pair member).1
  obtain ⟨-, read⟩ := whole fun pair member => (plain pair member).2.1
  obtain ⟨parsed, -, column⟩ := read fun pair member => (plain pair member).2.2
  have same : tagOf attributes = .ok holder.tag := by decide +kernel
  obtain rfl : holder.tag = text := Except.ok.inj (same.symm.trans written)
  have trimmed : pairs.map Tag.trimmed =
      [("note", "two words"), ("column", "a"), ("column", "owner")] := by
    decide +kernel
  rw [trimmed] at parsed column
  exact ⟨accepted, plain, same, made, parsed, column e m 1 holder rfl rfl made⟩

/-- A part of a value is taken for the column: a note that mentions one moves the field to it.
The table of an item is read from the values themselves, where nothing of that kind happens. -/
theorem parse_tagOf_comma :
    let attributes (key text : String) : List Attribute :=
      [⟨.name "orm", .pairs [(.name key, .text text)]⟩]
    let column (attributes : List Attribute) : Option String := do
      let text ← (tagOf attributes).toOption
      let m ← (Model.ofEntity (.derived 0 "T" "" [⟨"x", .scalar .int64, text⟩]) []).toOption
      m.fields[0]?.map MappedField.column
    readAll ((attributes "note" "a,column=b").filter isMapping) = .ok [("note", "a,column=b")] ∧
      tagOf (attributes "note" "a,column=b") = .ok "note=a,column=b" ∧
      Tag.parse "note=a,column=b" = .ok [("note", "a"), ("column", "b")] ∧
      column (attributes "note" "a") = some "x" ∧
      column (attributes "note" "a,column=b") = some "b" ∧
      tableOf (attributes "table" "a,table=b") = .ok (some "a,table=b") := by
  decide +kernel

end Declare

end RecordSql
