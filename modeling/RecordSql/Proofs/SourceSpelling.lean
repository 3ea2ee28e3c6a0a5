import RecordSql.Declare.Item
import RecordSql.Proofs.ItemSpelling
/-! # What source text is spelled with

The bound on how deep phrases lie within one another is never reached, so that the phrases of
all forms are built from one another, and whatever they spell was in the text. So are the names
and the types of an item's fields. -/
set_option autoImplicit false
namespace RecordSql.Declare

variable {n depth depth' : Nat} {form : Form}

/-! ## The phrases of all forms -/

/-- How many forms can begin one in the other at most, before a token is taken. -/
def Form.rank : Form → Nat
  | bound | conditional | pattern | block | item => 0
  | type _ | operand _ | alternatives => 1
  | expression _ _ => 2
  | arm => 3

theorem Form.rank_le (form : Form) : form.rank ≤ 3 := by
  cases form <;> simp [rank]

/-- A phrase is determined by those that begin it and by all others on fewer tokens. -/
theorem Form.alike_phraseOver {read read' : Form → Phrase} (later : Later n read read')
    (lower : ∀ other : Form, other.rank < form.rank →
      Phrase.Alike n 1 (read other) (read' other)) :
    Phrase.Alike n 1 (form.phraseOver read) (form.phraseOver read') := by
  cases form with
  | type sums => exact Grammar.alike_typePhrase later (lower bound (Nat.lt_succ_self 0)) sums
  | bound => exact Grammar.alike_boundPhrase later
  | expression records least =>
    exact Grammar.alike_expressionPhrase later records least
      (lower (operand records) (Nat.lt_succ_self 1))
  | operand records =>
    exact Grammar.alike_operandPhrase later (lower block (Nat.lt_succ_self 0)) records
  | arm =>
    exact Grammar.alike_armPhrase later (lower block (by decide))
      (lower (expression true 0) (by decide))
  | conditional => exact Grammar.alike_conditionalPhrase later
  | pattern => exact Grammar.alike_patternPhrase later
  | alternatives => exact Grammar.alike_alternativesPhrase later (lower pattern (by decide))
  | block => exact Grammar.alike_blockPhrase later
  | item => exact Grammar.alike_itemPhrase later

/-- Two bounds that leave room for four forms a token make no difference. -/
theorem Form.alike_phraseWithin {size : Nat} (small : 4 * n + form.rank < size)
    (room : size ≤ depth) (room' : size ≤ depth') :
    Phrase.Alike n 1 (form.phraseWithin depth) (form.phraseWithin depth') := by
  induction size generalizing n form depth depth' with
  | zero => contradiction
  | succ size ih =>
    -- One step into a form costs one of `size`: either a token is gone, which is worth four, or the
    -- rank has fallen.
    cases depth with
    | zero => contradiction
    | succ depth =>
      cases depth' with
      | zero => contradiction
      | succ depth' =>
        have below := Nat.le_of_succ_le_succ room
        have below' := Nat.le_of_succ_le_succ room'
        refine alike_phraseOver (fun other m less => ih ?_ below below') fun other less =>
          ih ?_ below below'
        · have few := other.rank_le
          omega
        · omega

theorem Form.alike_phrase (room : 4 * n + 4 ≤ depth) :
    Phrase.Alike n 1 (form.phraseWithin depth) form.phrase := by
  intro tokens short
  have few := form.rank_le
  have small : 4 * tokens.length + form.rank < 4 * tokens.length + 4 := by omega
  have alike : Phrase.Alike tokens.length 1 (form.phraseWithin depth)
      (form.phraseWithin (8 * (tokens.length + 1))) :=
    alike_phraseWithin small (by omega) (by omega)
  exact alike tokens (Nat.le_refl _)

/-- The phrases of all forms are built from one another without a bound. -/
theorem Form.phrase_eq (form : Form) : form.phrase = form.phraseOver phrase := by
  have runs (tokens : List Token) :
      form.phrase.run tokens = (form.phraseOver phrase).run tokens := by
    have later : Later (tokens.length + 1) (phraseWithin (8 * tokens.length + 7)) phrase :=
      fun other m less => alike_phrase (by omega)
    have same : Phrase.Alike tokens.length 1
        (form.phraseOver (phraseWithin (8 * tokens.length + 7))) (form.phraseOver phrase) :=
      alike_phraseOver (later.mono (Nat.le_succ _)) fun other _ => later.now other
    exact (same tokens (Nat.le_refl _)).1.symm
  exact congrArg Reader.mk (funext runs)

theorem Form.later_phrase : Later n phrase phrase :=
  fun _ _ _ => (alike_phrase (Nat.le_refl _)).right

/-- Whatever is spelled was taken from the text. -/
theorem Form.phrase_spelled {tokens spelled rest : List Token}
    (run : form.phrase.run tokens = some (spelled, rest)) :
    ∃ taken, tokens = taken ++ rest ∧ taken ≠ [] ∧ DrawnFrom taken spelled := by
  have alike : Phrase.Alike tokens.length 1 form.phrase form.phrase := later_phrase.now form
  obtain ⟨taken, split, spells⟩ := (alike tokens (Nat.le_refl _)).2 spelled rest run
  exact ⟨taken, split, List.ne_nil_of_length_pos spells.length, spells.drawn⟩

/-! ## Items -/

theorem alike_throughType : Phrase.Alike n 0 throughType throughType := by
  refine Reader.Alike.map Prod.fst (p := fun taken state => Spelled 0 taken state.1)
    (.repeated ⟨Nat.le_refl 0, .nil []⟩ fun state taken spelled m room => ?_) fun _ _ holds => holds
  obtain ⟨front, depth⟩ := state
  refine .ahead _ fun isDone => .ite (fun _ => .pure (by simpa using spelled)) fun _ =>
    .ahead _ fun isArrow => .ahead _ fun isOpening => .ahead _ fun isClosing => ?_
  have added {taken' : List Token} {next : List Token} (spelled' : Spelled 1 taken' next) :
      Spelled 0 (taken ++ (taken' ++ [])) (front ++ next) := by
    simpa using spelled.append spelled'
  refine .ite (fun _ => Reader.Alike.bind (Phrase.Alike.mark (n := m) rfl) ?_) fun _ =>
    Reader.Alike.bind (Phrase.Alike.piece (n := m)) ?_
  · exact fun next more spelled' _ _ => .pure (added spelled')
  · exact fun next more spelled' _ _ => .pure (added spelled')

/-- A type beyond the grammar is kept as it is written. -/
theorem alike_readType : Phrase.Alike n 0 readType readType := by
  have type : Phrase.Alike n 1 (Grammar.memberType Form.phrase) (Grammar.memberType Form.phrase) :=
    Grammar.alike_memberType (Form.later_phrase.now _)
  refine .orElse (type.loose.bind fun tokens taken spelled m room => .ahead _ fun isLast => ?_)
    alike_throughType
  exact .ite (fun _ => .pure (by simpa using spelled)) fun _ => .fail

def ItemField.spelled (f : ItemField) : List Token := .word f.identifier :: f.type

theorem alike_readAttributes :
    Reader.Alike n readAttributes readAttributes fun _ _ => True := by
  have single (m : Nat) : Reader.Alike m readAttribute readAttribute fun _ _ => True := by
    have content : Phrase.Alike m 1 (.mark "#" ++ .group) (.mark "#" ++ .group) :=
      .before (.mark rfl) fun _ _ => .group
    refine content.bind fun content taken _ k _ => ?_
    cases readKey.run (inside (content.drop 1)) with
    | none => exact .fail
    | some found => exact .ite (fun _ => .pure trivial) fun _ => .pure trivial
  refine .repeated trivial fun front taken _ m _ => .ahead _ fun _ => .ite (fun _ => ?_) fun _ => ?_
  · exact (single m).bind fun _ _ _ _ _ => .pure trivial
  · exact .pure trivial

theorem alike_readIdentifier : Reader.Alike n readIdentifier readIdentifier
    fun taken identifier => DrawnFrom taken [.word identifier] := by
  refine Reader.Alike.bind Phrase.Alike.one fun spelled taken holds m _ => ?_
  split
  next => exact .pure (by simpa using holds.drawn)
  next => exact .fail

theorem alike_readName : Reader.Alike n readName readName
    fun taken name => ∃ written, name = unmarked written ∧ DrawnFrom taken [.word written] :=
  alike_readIdentifier.map unmarked fun _ identifier drawn => ⟨identifier, rfl, drawn⟩

theorem alike_readField :
    Reader.Alike n readField readField fun taken f => DrawnFrom taken f.spelled := by
  refine alike_readAttributes.bind fun attributes taken _ m _ => ?_
  refine Grammar.alike_visibility.bind fun _ more _ k _ => ?_
  refine alike_readIdentifier.bind fun identifier last drawn i _ => ?_
  refine Reader.Alike.bind (Phrase.Alike.mark rfl) fun _ colon _ j _ => ?_
  refine alike_readType.bind fun type behind spelled _ _ => .pure ?_
  have named := (drawn.left colon).append spelled.drawn
  simpa [ItemField.spelled] using (named.right more).right taken

theorem alike_readFields : Reader.Alike n readFields readFields
    fun taken fields => DrawnFrom taken (fields.flatMap ItemField.spelled) := by
  refine Reader.Alike.bind Phrase.Alike.one fun _ opening _ m _ => ?_
  refine Reader.Alike.bind (p := fun taken fields => DrawnFrom taken
    (fields.flatMap ItemField.spelled)) (.repeated (.nil []) fun front taken drawn k _ => ?_)
    fun fields taken drawn k _ => ?_
  · refine .ahead _ fun _ => .ite (fun _ => .pure (by simpa using drawn)) fun _ => ?_
    refine alike_readField.bind fun f more drawn' i _ => ?_
    refine Reader.Alike.bind (Phrase.Alike.when (Phrase.Alike.mark rfl)) fun _ comma _ _ _ => .pure ?_
    simpa using (drawn.append drawn').left comma
  · refine Reader.Alike.bind Phrase.Alike.one fun _ closing _ _ _ => .pure ?_
    simpa using (drawn.left closing).right opening

def Item.spells (item : Item) (name : String) : List Token :=
  .word name :: item.fields.flatMap ItemField.spelled

/-- The names and the types of the fields were taken from the item's tokens, each token once. -/
theorem alike_readItem : Reader.Alike n readItem readItem
    fun taken item => ∃ name, item.name = unmarked name ∧ DrawnFrom taken (item.spells name) := by
  refine alike_readAttributes.bind fun attributes front _ m _ => ?_
  refine Grammar.alike_visibility.bind fun _ marks _ k _ => .ahead _ fun isEnumeration =>
    .ahead _ fun isUnion => ?_
  refine Reader.Alike.bind Phrase.Alike.one fun _ kind _ i _ => ?_
  refine alike_readName.bind fun name taken named j _ => ?_
  obtain ⟨written, rfl, drawn⟩ := named
  have later {m : Nat} : Later m Form.phrase Form.phrase := Form.later_phrase
  refine (Grammar.alike_parameters later).bind fun _ more _ l _ => ?_
  refine (Grammar.alike_conditions later).bind fun _ more' _ o _ => ?_
  have bare {last : List Token} : DrawnFrom (front ++ (marks ++ (kind ++ (taken ++
      (more ++ (more' ++ last)))))) [.word written] :=
    (((drawn.left _).right kind).right marks).right front
  refine .ite (fun _ => ?_) fun _ => .ahead _ fun _ => .ite (fun _ => ?_) fun _ =>
    .ahead _ fun _ => ?_
  · exact Reader.Alike.bind Phrase.Alike.remainder fun _ last _ _ _ => .pure ⟨written, rfl, bare⟩
  · refine alike_readFields.bind fun fields last drawn' _ _ => .pure ⟨written, rfl, ?_⟩
    have whole := drawn.append ((drawn'.right more').right more)
    simpa [Item.spells] using ((whole.right kind).right marks).right front
  · exact Reader.Alike.bind Phrase.Alike.remainder fun _ last _ _ _ => .pure ⟨written, rfl, bare⟩

/-- An item's name and its fields' names and types are spelled with the source text's tokens. -/
theorem Item.drawn_of_ofSource? {source : String} {item : Item}
    (read : Item.ofSource? source = some item) : ∃ tokens name, tokens? source = some tokens ∧
      item.name = unmarked name ∧ DrawnFrom tokens (item.spells name) := by
  obtain ⟨tokens, tokenized, whole⟩ := Option.bind_eq_some_iff.mp read
  rw [Reader.whole] at whole
  split at whole
  next run =>
    obtain rfl := Option.some.inj whole
    obtain ⟨taken, rfl, name, named, drawn⟩ :=
      (alike_readItem tokens (Nat.le_refl _)).2 _ _ run
    exact ⟨_, name, tokenized, named, by simpa using drawn⟩
  next => contradiction

end RecordSql.Declare
