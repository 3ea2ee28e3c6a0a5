import RecordSql.Naming
import RecordSql.Proofs.Patterns
/-! # The spelling of names

`underscoreChars` writes an ASCII name in one of two ways. A name without small letters is one word
and only turns small. In any other name each capital becomes an underscore and its small letter, and
`snakeCase` says what is left when the name does not start with an underscore. Either way the letters
stay, no capital is left, and a second pass finds nothing to do. -/
set_option autoImplicit false
namespace RecordSql

open Text

/-- A character behind the first one: a capital becomes an underscore and its small letter. -/
def snakeChars (c : Char) : List Char := if c.isUpper then ['_', c.toLower] else [c]

/-- A name in small letters with one underscore in front of each capital but a leading one. -/
def snakeCase : List Char → List Char
  | [] => []
  | first :: rest => first.toLower :: rest.flatMap snakeChars

abbrev IsAscii (c : Char) : Prop := c.toNat < 128

/-! ## Characters -/

theorem forall_ascii {P : Char → Prop} (each : ∀ n : Nat, n < 128 → P (.ofNat n)) {c : Char}
    (ascii : IsAscii c) : P c := by
  have here := each c.toNat ascii
  rwa [Char.ofNat_toNat] at here

theorem isAsciiCapital_eq_isUpper (c : Char) : isAsciiCapital c = c.isUpper := by
  have upper : c.isUpper = decide (c.val ≥ 'A'.val ∧ c.val ≤ 'Z'.val) := rfl
  rw [upper, Bool.eq_iff_iff]
  simp [isAsciiCapital, UInt32.le_iff_toNat_le]

theorem changesInCapitals_eq_isLower {c : Char} (ascii : IsAscii c) :
    changesInCapitals c = c.isLower := by
  have lower : c.isLower = (decide (c.val ≥ 'a'.val) && decide (c.val ≤ 'z'.val)) := rfl
  rw [changesInCapitals, if_pos ascii, lower, Bool.eq_iff_iff]
  simp [isAsciiSmall, UInt32.le_iff_toNat_le]

theorem isAscii_toLower {c : Char} (ascii : IsAscii c) : IsAscii c.toLower :=
  forall_ascii (P := fun c => IsAscii c.toLower) (by decide +kernel) ascii

theorem isUpper_toLower {c : Char} (ascii : IsAscii c) : c.toLower.isUpper = false :=
  forall_ascii (P := fun c => c.toLower.isUpper = false) (by decide +kernel) ascii

theorem toLower_eq_underscore {c : Char} (ascii : IsAscii c) (turned : c.toLower = '_') : c = '_' :=
  forall_ascii (P := fun c => c.toLower = '_' → c = '_') (by decide +kernel) ascii turned

theorem toLower_of_not_isUpper {c : Char} (small : c.isUpper = false) : c.toLower = c := by
  have other : ¬ (c.val ≥ 'A'.val ∧ c.val ≤ 'Z'.val) := of_decide_eq_false small
  delta Char.toLower
  rw [dif_neg other]

/-! ## One pass over a name -/

theorem splitWords_eq (name : List Char) : splitWords name = name.flatMap snakeChars := by
  induction name with
  | nil => rfl
  | cons c rest ih =>
    rw [splitWords, List.flatMap_cons, ih, snakeChars, isAsciiCapital_eq_isUpper,
      asciiSmall_eq_toLower]
    by_cases capital : c.isUpper = true
    · rw [if_pos capital, if_pos capital, List.cons_append, List.singleton_append]
    · rw [if_neg capital, if_neg capital, List.singleton_append]

theorem smallAfter_ascii {before name : List Char} (ascii : ∀ c ∈ name, IsAscii c) :
    smallAfter before name = name.map Char.toLower := by
  induction name generalizing before with
  | nil => rfl
  | cons c rest ih =>
    have here : IsAscii c := ascii c List.mem_cons_self
    have noSigma : c.toNat ≠ 0x3a3 := by
      intro sigma
      have bound : c.toNat < 128 := here
      omega
    have tail : smallAfter (c :: before) rest = rest.map Char.toLower :=
      ih fun d member => ascii d (List.mem_cons_of_mem c member)
    rw [smallAfter, if_neg noSigma, smallChars, if_pos here, tail, asciiSmall_eq_toLower,
      List.map_cons, List.singleton_append]

theorem allCapitals_iff {name : List Char} (ascii : ∀ c ∈ name, IsAscii c) :
    allCapitals name = true ↔ ∀ c ∈ name, c.isLower = false := by
  rw [allCapitals, List.all_eq_true]
  refine forall₂_congr fun c member => ?_
  rw [changesInCapitals_eq_isLower (ascii c member), Bool.not_eq_true']

/-- A name without small letters only turns small. -/
theorem underscoreChars_of_capitals {name : List Char} (ascii : ∀ c ∈ name, IsAscii c)
    (capitals : ∀ c ∈ name, c.isLower = false) : underscoreChars name = name.map Char.toLower := by
  rw [underscoreChars, if_pos ((allCapitals_iff ascii).mpr capitals), lowercase,
    smallAfter_ascii ascii]

/-- In a name with a small letter every capital starts a word. -/
theorem underscoreChars_of_small {name : List Char} (ascii : ∀ c ∈ name, IsAscii c)
    (small : ∃ c ∈ name, c.isLower = true) :
    underscoreChars name = dropUnderscore (name.flatMap snakeChars) := by
  have mixed : ¬ allCapitals name = true := by
    intro capitals
    obtain ⟨c, member, lower⟩ := small
    have upper := (allCapitals_iff ascii).mp capitals c member
    rw [lower] at upper
    exact Bool.noConfusion upper
  rw [underscoreChars, if_neg mixed, splitWords_eq]

theorem capitals_or_small (name : List Char) :
    (∀ c ∈ name, c.isLower = false) ∨ ∃ c ∈ name, c.isLower = true := by
  by_cases small : ∃ c ∈ name, c.isLower = true
  · exact .inr small
  · refine .inl fun c member => ?_
    rw [← Bool.not_eq_true]
    exact fun lower => small ⟨c, member, lower⟩

/-- The underscore that goes is the one in front of a leading capital. -/
theorem dropUnderscore_snakeChars {name : List Char} (front : name.head? ≠ some '_') :
    dropUnderscore (name.flatMap snakeChars) = snakeCase name := by
  cases name with
  | nil => rfl
  | cons c rest =>
    rw [List.flatMap_cons, snakeCase, snakeChars]
    by_cases capital : c.isUpper = true
    · rw [if_pos capital, List.cons_append, List.singleton_append, dropUnderscore,
        if_pos (beq_self_eq_true '_')]
    · have other : ¬ (c == '_') = true := by
        intro same
        exact front (by rw [List.head?_cons, eq_of_beq same])
      rw [if_neg capital, List.singleton_append, dropUnderscore, if_neg other,
        toLower_of_not_isUpper (by simpa using capital)]

/-! ## What is left of a name -/

theorem mem_of_mem_dropUnderscore {c : Char} {name : List Char} (member : c ∈ dropUnderscore name) :
    c ∈ name := by
  cases name with
  | nil => exact member
  | cons d rest =>
    rw [dropUnderscore] at member
    split at member
    next => exact List.mem_cons_of_mem d member
    next => exact member

theorem filter_dropUnderscore (name : List Char) :
    (dropUnderscore name).filter (· != '_') = name.filter (· != '_') := by
  cases name with
  | nil => rfl
  | cons d rest =>
    rw [dropUnderscore]
    by_cases same : (d == '_') = true
    · have gone : (d :: rest).filter (· != '_') = rest.filter (· != '_') :=
        List.filter_cons_of_neg (by simpa using same)
      rw [if_pos same, gone]
    · rw [if_neg same]

theorem filter_snakeChars (name : List Char) :
    (name.flatMap snakeChars).filter (· != '_') = (name.map Char.toLower).filter (· != '_') := by
  induction name with
  | nil => rfl
  | cons c rest ih =>
    rw [List.flatMap_cons, List.filter_append, ih, List.map_cons, snakeChars]
    by_cases capital : c.isUpper = true
    · have gone : ['_', c.toLower].filter (· != '_') = [c.toLower].filter (· != '_') :=
        List.filter_cons_of_neg (by decide)
      rw [if_pos capital, gone, ← List.filter_append, List.singleton_append]
    · rw [if_neg capital, ← List.filter_append, List.singleton_append,
        toLower_of_not_isUpper (by simpa using capital)]

theorem small_of_mem_snakeChars {name : List Char} (ascii : ∀ c ∈ name, IsAscii c) {d : Char}
    (member : d ∈ name.flatMap snakeChars) : IsAscii d ∧ d.isUpper = false := by
  obtain ⟨c, inside, written⟩ := List.mem_flatMap.mp member
  rw [snakeChars] at written
  split at written
  next =>
    rcases List.mem_pair.mp written with rfl | rfl
    · decide
    · exact ⟨isAscii_toLower (ascii c inside), isUpper_toLower (ascii c inside)⟩
  next small =>
    rw [List.mem_singleton.mp written]
    exact ⟨ascii c inside, by simpa using small⟩

theorem small_of_mem_underscoreChars {name : List Char} (ascii : ∀ c ∈ name, IsAscii c) {d : Char}
    (member : d ∈ underscoreChars name) : IsAscii d ∧ d.isUpper = false := by
  rcases capitals_or_small name with capitals | small
  · rw [underscoreChars_of_capitals ascii capitals] at member
    obtain ⟨c, inside, rfl⟩ := List.mem_map.mp member
    exact ⟨isAscii_toLower (ascii c inside), isUpper_toLower (ascii c inside)⟩
  · rw [underscoreChars_of_small ascii small] at member
    exact small_of_mem_snakeChars ascii (mem_of_mem_dropUnderscore member)

theorem filter_underscoreChars {name : List Char} (ascii : ∀ c ∈ name, IsAscii c) :
    (underscoreChars name).filter (· != '_') = (name.map Char.toLower).filter (· != '_') := by
  rcases capitals_or_small name with capitals | small
  · rw [underscoreChars_of_capitals ascii capitals]
  · rw [underscoreChars_of_small ascii small, filter_dropUnderscore, filter_snakeChars]

theorem head?_underscoreChars {name : List Char} (ascii : ∀ c ∈ name, IsAscii c)
    (front : name.head? ≠ some '_') : (underscoreChars name).head? ≠ some '_' := by
  have shape : (underscoreChars name).head? = name.head?.map Char.toLower := by
    rcases capitals_or_small name with capitals | small
    · rw [underscoreChars_of_capitals ascii capitals, List.head?_map]
    · rw [underscoreChars_of_small ascii small, dropUnderscore_snakeChars front]
      cases name <;> rfl
  rw [shape]
  intro turned
  obtain ⟨c, first, same⟩ := Option.map_eq_some_iff.mp turned
  have member : c ∈ name := List.mem_of_head? first
  exact front (first.trans (congrArg some (toLower_eq_underscore (ascii c member) same)))

theorem snakeCase_eq_self {name : List Char} (small : ∀ c ∈ name, c.isUpper = false) :
    snakeCase name = name := by
  cases name with
  | nil => rfl
  | cons first rest =>
    have alone : ∀ c ∈ rest, snakeChars c = [c] := by
      intro c member
      rw [snakeChars, small c (List.mem_cons_of_mem first member), if_neg Bool.false_ne_true]
    rw [snakeCase, toLower_of_not_isUpper (small first List.mem_cons_self), List.flatMap_congr alone,
      List.flatMap_singleton']

/-- A name without capitals stays as it is. -/
theorem underscoreChars_eq_self {name : List Char} (ascii : ∀ c ∈ name, IsAscii c)
    (front : name.head? ≠ some '_') (small : ∀ c ∈ name, c.isUpper = false) :
    underscoreChars name = name := by
  rcases capitals_or_small name with capitals | lower
  · rw [underscoreChars_of_capitals ascii capitals,
      List.map_congr_left fun c member => toLower_of_not_isUpper (small c member)]
    exact List.map_id' name
  · rw [underscoreChars_of_small ascii lower, dropUnderscore_snakeChars front,
      snakeCase_eq_self small]

/-- An ASCII name in database spelling holds no capital, and but for underscores it is the name in
small letters. If the name does not start with an underscore, neither does its spelling, which is
its own spelling; a name without capitals is left as it is, and one with a small letter is written
in snake case. -/
theorem underscoreName_ascii (name : String) (ascii : ∀ c ∈ name.toList, IsAscii c) :
    (∀ c ∈ (underscoreName name).toList, c.isUpper = false) ∧
    (underscoreName name).toList.filter (· != '_') =
      (name.toList.map Char.toLower).filter (· != '_') ∧
    (name.toList.head? ≠ some '_' →
      (underscoreName name).toList.head? ≠ some '_' ∧
      underscoreName (underscoreName name) = underscoreName name ∧
      ((∀ c ∈ name.toList, c.isUpper = false) → underscoreName name = name) ∧
      ((∃ c ∈ name.toList, c.isLower = true) →
        (underscoreName name).toList = snakeCase name.toList)) := by
  have written : (underscoreName name).toList = underscoreChars name.toList :=
    String.toList_ofList
  have spelled : ∀ c ∈ (underscoreName name).toList, IsAscii c ∧ c.isUpper = false := by
    rw [written]
    exact fun c member => small_of_mem_underscoreChars ascii member
  have kept (s : String) (inside : ∀ c ∈ s.toList, IsAscii c) (front : s.toList.head? ≠ some '_')
      (small : ∀ c ∈ s.toList, c.isUpper = false) : underscoreName s = s := by
    rw [underscoreName, underscoreChars_eq_self inside front small, String.ofList_toList]
  refine ⟨fun c member => (spelled c member).2, ?_, fun front => ?_⟩
  · rw [written]
    exact filter_underscoreChars ascii
  · have start : (underscoreName name).toList.head? ≠ some '_' := by
      rw [written]
      exact head?_underscoreChars ascii front
    refine ⟨start, ?_, kept name ascii front, fun small => ?_⟩
    · exact kept _ (fun c member => (spelled c member).1) start fun c member => (spelled c member).2
    · rw [written, underscoreChars_of_small ascii small, dropUnderscore_snakeChars front]

/-- Capitals behind a digit and an underscore, and one at the end. -/
theorem underscoreName_ascii_mixed :
    let name := "User2ID_OldX"
    (∀ c ∈ name.toList, IsAscii c) ∧ name.toList.head? ≠ some '_' ∧
      (∃ c ∈ name.toList, c.isLower = true) ∧ underscoreName name = "user2_i_d__old_x" ∧
      underscoreName "user2_i_d__old_x" = "user2_i_d__old_x" := by
  intro name
  have ascii : ∀ c ∈ name.toList, IsAscii c := by
    have every : name.toList.all (fun c => decide (IsAscii c)) = true := by decide +kernel
    exact fun c member => of_decide_eq_true (List.all_eq_true.mp every c member)
  have front : name.toList.head? ≠ some '_' := by decide +kernel
  have small : ∃ c ∈ name.toList, c.isLower = true := ⟨'s', by decide +kernel, rfl⟩
  obtain ⟨-, -, given⟩ := underscoreName_ascii name ascii
  obtain ⟨-, again, -, written⟩ := given front
  have spelled : underscoreName name = "user2_i_d__old_x" := by
    refine String.toList_injective ((written small).trans ?_)
    decide +kernel
  rw [spelled] at again
  exact ⟨ascii, front, small, spelled, again⟩

end RecordSql
