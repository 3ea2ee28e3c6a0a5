import RecordSql.Declare.Grammar.Items
/-! # The grammar of source text

The uniform spelling of everything that a declaration can hold. The phrases of all forms are
tied together by a bound on how deep they can lie within one another, which the number of
tokens gives. -/
set_option autoImplicit false
namespace RecordSql.Declare

/-- The phrase of a form, given the phrases of what it contains. -/
def Form.phraseOver (read : Form → Phrase) : Form → Phrase
  | type sums => Grammar.typePhrase read sums
  | bound => Grammar.boundPhrase read
  | expression records least => Grammar.expressionPhrase read records least
  | operand records => Grammar.operandPhrase read records
  | arm => Grammar.armPhrase read
  | conditional => Grammar.conditionalPhrase read
  | pattern => Grammar.patternPhrase read
  | alternatives => Grammar.alternativesPhrase read
  | block => Grammar.blockPhrase read
  | item => Grammar.itemPhrase read

def Form.phraseWithin : Nat → Form → Phrase
  | 0, _ => .fail
  | depth + 1, form => ⟨fun tokens => (form.phraseOver (phraseWithin depth)).run tokens⟩

/-- The phrase of a form. A token opens at most four forms, so that the bound is never reached. -/
def Form.phrase (form : Form) : Phrase :=
  ⟨fun tokens => (form.phraseWithin (8 * (tokens.length + 1))).run tokens⟩

end RecordSql.Declare
