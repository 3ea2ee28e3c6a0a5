import Mathlib.Data.List.Forall2
import RecordSql.Expr.Equality
/-! # Equality of expressions and sources

Equality of expressions, of tables and of sources is symmetric and transitive. It is not reflexive:
numbers compare as numbers, so an expression equals itself only if each of its values does
(`Expr.equal_self`). One lemma for each constructor says what an equal tree looks like, and the
inductions go along these lemmas. -/
set_option autoImplicit false
namespace RecordSql

/-- A comparison that is symmetric and transitive. -/
structure IsPartialEquivalence {α : Type} (equal : α → α → Bool) : Prop where
  symm : ∀ {a b : α}, equal a b = true → equal b a = true
  trans : ∀ {a b c : α}, equal a b = true → equal b c = true → equal a c = true

namespace IsPartialEquivalence

variable {α β : Type} {equal other : α → α → Bool}

theorem ofKey [BEq β] [LawfulBEq β] (key : α → β) :
    IsPartialEquivalence fun a b => key a == key b where
  symm same := beq_iff_eq.mpr (eq_of_beq same).symm
  trans first second := beq_iff_eq.mpr ((eq_of_beq first).trans (eq_of_beq second))

theorem comap (partially : IsPartialEquivalence equal) (f : β → α) :
    IsPartialEquivalence fun a b => equal (f a) (f b) where
  symm same := partially.symm same
  trans first second := partially.trans first second

theorem both (first : IsPartialEquivalence equal) (second : IsPartialEquivalence other) :
    IsPartialEquivalence fun a b => equal a b && other a b where
  symm same := by
    rw [Bool.and_eq_true] at same ⊢
    exact ⟨first.symm same.1, second.symm same.2⟩
  trans here there := by
    rw [Bool.and_eq_true] at here there ⊢
    exact ⟨first.trans here.1 there.1, second.trans here.2 there.2⟩

/-- A comparison of lists, one by one. -/
theorem ofLists {equalList : List α → List α → Bool} (partially : IsPartialEquivalence equal)
    (lists : ∀ {as bs}, equalList as bs = true ↔ List.Forall₂ (fun a b => equal a b = true) as bs) :
    IsPartialEquivalence equalList where
  symm same := lists.mpr ((lists.mp same).imp fun _ _ => partially.symm).flip
  trans {as bs cs} first second := by
    rw [lists] at first second ⊢
    induction first generalizing cs with
    | nil => exact second
    | cons here _ ih =>
      obtain ⟨c, rest, there, behind, rfl⟩ := List.forall₂_cons_left_iff.mp second
      exact .cons (partially.trans here there) (ih behind)

end IsPartialEquivalence

/-! ## Values -/

theorem Binary64.isPartialEquivalence : IsPartialEquivalence Binary64.equal where
  symm same := (equal_comm _ _).trans same
  trans {x y z} first second := by
    simp only [equal, Bool.and_eq_true, Bool.or_eq_true, Bool.not_eq_true', beq_iff_eq] at first second ⊢
    obtain ⟨⟨here, _⟩, same⟩ := first
    obtain ⟨⟨_, there⟩, next⟩ := second
    refine ⟨⟨here, there⟩, ?_⟩
    rcases same with same | ⟨zero, noughts⟩
    · obtain rfl : x = y := by
        cases x
        cases y
        exact congrArg Binary64.mk same
      exact next
    · rcases next with next | ⟨_, zeros⟩
      · obtain rfl : y = z := by
          cases y
          cases z
          exact congrArg Binary64.mk next
        exact .inr ⟨zero, noughts⟩
      · exact .inr ⟨zero, zeros⟩

namespace Value

/-- Equal values are equal numbers, or the same value of another kind. -/
theorem equal_iff {v w : Value} :
    v.equal w = true ↔
      (∃ x y, v = .float x ∧ w = .float y ∧ x.equal y = true) ∨
        ((∀ x, v ≠ .float x) ∧ v = w) := by
  unfold equal
  split
  next x y => simp
  next v w others =>
    rw [beq_iff_eq]
    constructor
    · rintro rfl
      exact .inr ⟨fun x same => others x x same same, rfl⟩
    · rintro (⟨x, y, rfl, rfl, -⟩ | ⟨-, same⟩)
      · exact absurd rfl (others x y rfl)
      · exact same

theorem isPartialEquivalence : IsPartialEquivalence Value.equal where
  symm same := by
    rcases equal_iff.mp same with ⟨x, y, rfl, rfl, numbers⟩ | ⟨_, rfl⟩
    · exact Binary64.isPartialEquivalence.symm numbers
    · exact same
  trans first second := by
    rcases equal_iff.mp second with ⟨y, z, rfl, rfl, numbers⟩ | ⟨_, rfl⟩
    · rcases equal_iff.mp first with ⟨x, _, rfl, same, others⟩ | ⟨noNumber, rfl⟩
      · obtain rfl := Value.float.inj same
        exact Binary64.isPartialEquivalence.trans others numbers
      · exact absurd rfl (noNumber y)
    · exact first

theorem equalList_iff {vs ws : List Value} :
    equalList vs ws = true ↔ List.Forall₂ (fun v w => v.equal w = true) vs ws := by
  induction vs generalizing ws with
  | nil => cases ws <;> simp [equalList]
  | cons v rest ih => cases ws <;> simp [equalList, ih]

theorem equalList_self (vs : List Value) :
    equalList vs vs = true ↔ ∀ v ∈ vs, v.isNaN = false := by
  rw [equalList_iff, List.forall₂_same]
  refine forall₂_congr fun v _ => ?_
  rw [equal_self, Bool.not_eq_true']

end Value

/-! ## Columns and raw fragments -/

theorem Table.isPartialEquivalence : IsPartialEquivalence Table.equal :=
  (IsPartialEquivalence.ofKey fun t : Table => t.entity.identity).both (.ofKey Table.aliasName)

theorem Table.equal_self (t : Table) : t.equal t = true := by
  rw [equal, Entity.sameType, beq_self_eq_true, beq_self_eq_true, Bool.and_self]

theorem Table.equalOption_none_iff {other : Option Table} :
    equalOption none other = true ↔ other = none := by
  cases other <;> simp [equalOption]

theorem Table.equalOption_some_iff {t : Table} {other : Option Table} :
    equalOption (some t) other = true ↔ ∃ u, other = some u ∧ t.equal u = true := by
  cases other <;> simp [equalOption]

theorem Table.isPartialEquivalence_option : IsPartialEquivalence Table.equalOption where
  symm {t other} same := by
    cases t with
    | none =>
      obtain rfl := equalOption_none_iff.mp same
      exact same
    | some t =>
      obtain ⟨u, rfl, inner⟩ := equalOption_some_iff.mp same
      exact Table.isPartialEquivalence.symm inner
  trans {t other last} first second := by
    cases t with
    | none =>
      obtain rfl := equalOption_none_iff.mp first
      exact second
    | some t =>
      obtain ⟨u, rfl, here⟩ := equalOption_some_iff.mp first
      obtain ⟨w, rfl, there⟩ := equalOption_some_iff.mp second
      exact Table.isPartialEquivalence.trans here there

theorem Column.isPartialEquivalence : IsPartialEquivalence Column.equal :=
  ((IsPartialEquivalence.ofKey Column.name).both (.ofKey Column.aliasName)).both
    (Table.isPartialEquivalence_option.comap Column.table)

theorem Column.equal_self (c : Column) : c.equal c = true := by
  have tables : Table.equalOption c.table c.table = true := by
    cases c.table with
    | none => rfl
    | some t => exact t.equal_self
  rw [equal, beq_self_eq_true, beq_self_eq_true, tables]
  rfl

theorem RawExpr.isPartialEquivalence : IsPartialEquivalence RawExpr.equal :=
  (IsPartialEquivalence.ofKey RawExpr.sql).both
    ((Value.isPartialEquivalence.ofLists Value.equalList_iff).comap RawExpr.args)

theorem RawExpr.equal_self (r : RawExpr) :
    r.equal r = true ↔ ∀ v ∈ r.args, v.isNaN = false := by
  rw [equal, beq_self_eq_true, Bool.true_and, Value.equalList_self]

/-! ## Expressions -/

section Inversion

variable {e : Expr} {p : Predicate}

attribute [local simp] Expr.equal Predicate.equal

theorem Expr.equal_predicate_iff {q : Predicate} :
    (Expr.predicate q).equal e = true ↔ ∃ q', e = .predicate q' ∧ q.equal q' = true := by
  cases e <;> simp

theorem Expr.equal_column_iff {c : Column} :
    (Expr.column c).equal e = true ↔ ∃ d, e = .column d ∧ c.equal d = true := by
  cases e <;> simp

theorem Expr.equal_value_iff {v : Value} :
    (Expr.value v).equal e = true ↔ ∃ w, e = .value w ∧ v.equal w = true := by
  cases e <;> simp

theorem Expr.equal_raw_iff {r : RawExpr} :
    (Expr.raw r).equal e = true ↔ ∃ s, e = .raw s ∧ r.equal s = true := by
  cases e <;> simp

theorem Expr.equal_assignment_iff {field : String} {value : Expr} :
    (Expr.assignment field value).equal e = true ↔
      ∃ value', e = .assignment field value' ∧ value.equal value' = true := by
  cases e with
  | assignment field' value' =>
    simp only [Expr.equal, Bool.and_eq_true, beq_iff_eq, Expr.assignment.injEq]
    constructor
    · rintro ⟨rfl, same⟩
      exact ⟨value', ⟨rfl, rfl⟩, same⟩
    · rintro ⟨_, ⟨rfl, rfl⟩, same⟩
      exact ⟨rfl, same⟩
  | _ => simp

theorem Predicate.equal_compare_iff {c : Column} {op : Comparison} {right : Expr} :
    (Predicate.compare c op right).equal p = true ↔
      ∃ d right', p = .compare d op right' ∧ c.equal d = true ∧ right.equal right' = true := by
  cases p with
  | compare d op' right' =>
    simp only [Predicate.equal, Bool.and_eq_true, beq_iff_eq, Predicate.compare.injEq]
    constructor
    · rintro ⟨⟨columns, rfl⟩, operands⟩
      exact ⟨d, right', ⟨rfl, rfl, rfl⟩, columns, operands⟩
    · rintro ⟨_, _, ⟨rfl, rfl, rfl⟩, columns, operands⟩
      exact ⟨⟨columns, rfl⟩, operands⟩
  | _ => simp

theorem Predicate.equal_and_iff {left right : Predicate} :
    (Predicate.and left right).equal p = true ↔ ∃ left' right', p = .and left' right' ∧
      left.equal left' = true ∧ right.equal right' = true := by
  cases p <;> simp

theorem Predicate.equal_or_iff {left right : Predicate} :
    (Predicate.or left right).equal p = true ↔ ∃ left' right', p = .or left' right' ∧
      left.equal left' = true ∧ right.equal right' = true := by
  cases p <;> simp

theorem Predicate.equal_not_iff {q : Predicate} :
    (Predicate.not q).equal p = true ↔ ∃ q', p = .not q' ∧ q.equal q' = true := by
  cases p <;> simp

theorem Predicate.equal_raw_iff {r : RawExpr} :
    (Predicate.raw r).equal p = true ↔ ∃ s, p = .raw s ∧ r.equal s = true := by
  cases p <;> simp

end Inversion

mutual

theorem Expr.equal_symm : (x : Expr) → {y : Expr} → x.equal y = true → y.equal x = true
  | .predicate p, _, same => by
    obtain ⟨q, rfl, inner⟩ := Expr.equal_predicate_iff.mp same
    exact Expr.equal_predicate_iff.mpr ⟨p, rfl, p.equal_symm inner⟩
  | .column c, _, same => by
    obtain ⟨d, rfl, inner⟩ := Expr.equal_column_iff.mp same
    exact Expr.equal_column_iff.mpr ⟨c, rfl, Column.isPartialEquivalence.symm inner⟩
  | .value v, _, same => by
    obtain ⟨w, rfl, inner⟩ := Expr.equal_value_iff.mp same
    exact Expr.equal_value_iff.mpr ⟨v, rfl, Value.isPartialEquivalence.symm inner⟩
  | .raw r, _, same => by
    obtain ⟨s, rfl, inner⟩ := Expr.equal_raw_iff.mp same
    exact Expr.equal_raw_iff.mpr ⟨r, rfl, RawExpr.isPartialEquivalence.symm inner⟩
  | .assignment _ value, _, same => by
    obtain ⟨value', rfl, inner⟩ := Expr.equal_assignment_iff.mp same
    exact Expr.equal_assignment_iff.mpr ⟨value, rfl, value.equal_symm inner⟩

theorem Predicate.equal_symm : (p : Predicate) → {q : Predicate} → p.equal q = true →
    q.equal p = true
  | .compare c _ right, _, same => by
    obtain ⟨d, right', rfl, columns, operands⟩ := Predicate.equal_compare_iff.mp same
    exact Predicate.equal_compare_iff.mpr
      ⟨c, right, rfl, Column.isPartialEquivalence.symm columns, right.equal_symm operands⟩
  | .and left right, _, same => by
    obtain ⟨left', right', rfl, first, second⟩ := Predicate.equal_and_iff.mp same
    exact Predicate.equal_and_iff.mpr
      ⟨left, right, rfl, left.equal_symm first, right.equal_symm second⟩
  | .or left right, _, same => by
    obtain ⟨left', right', rfl, first, second⟩ := Predicate.equal_or_iff.mp same
    exact Predicate.equal_or_iff.mpr
      ⟨left, right, rfl, left.equal_symm first, right.equal_symm second⟩
  | .not p, _, same => by
    obtain ⟨q, rfl, inner⟩ := Predicate.equal_not_iff.mp same
    exact Predicate.equal_not_iff.mpr ⟨p, rfl, p.equal_symm inner⟩
  | .raw r, _, same => by
    obtain ⟨s, rfl, inner⟩ := Predicate.equal_raw_iff.mp same
    exact Predicate.equal_raw_iff.mpr ⟨r, rfl, RawExpr.isPartialEquivalence.symm inner⟩

end

mutual

theorem Expr.equal_trans : (x : Expr) → {y z : Expr} → x.equal y = true → y.equal z = true →
    x.equal z = true
  | .predicate p, _, _, first, second => by
    obtain ⟨q, rfl, here⟩ := Expr.equal_predicate_iff.mp first
    obtain ⟨q', rfl, there⟩ := Expr.equal_predicate_iff.mp second
    exact Expr.equal_predicate_iff.mpr ⟨q', rfl, p.equal_trans here there⟩
  | .column c, _, _, first, second => by
    obtain ⟨d, rfl, here⟩ := Expr.equal_column_iff.mp first
    obtain ⟨d', rfl, there⟩ := Expr.equal_column_iff.mp second
    exact Expr.equal_column_iff.mpr ⟨d', rfl, Column.isPartialEquivalence.trans here there⟩
  | .value v, _, _, first, second => by
    obtain ⟨w, rfl, here⟩ := Expr.equal_value_iff.mp first
    obtain ⟨w', rfl, there⟩ := Expr.equal_value_iff.mp second
    exact Expr.equal_value_iff.mpr ⟨w', rfl, Value.isPartialEquivalence.trans here there⟩
  | .raw r, _, _, first, second => by
    obtain ⟨s, rfl, here⟩ := Expr.equal_raw_iff.mp first
    obtain ⟨s', rfl, there⟩ := Expr.equal_raw_iff.mp second
    exact Expr.equal_raw_iff.mpr ⟨s', rfl, RawExpr.isPartialEquivalence.trans here there⟩
  | .assignment _ value, _, _, first, second => by
    obtain ⟨w, rfl, here⟩ := Expr.equal_assignment_iff.mp first
    obtain ⟨w', rfl, there⟩ := Expr.equal_assignment_iff.mp second
    exact Expr.equal_assignment_iff.mpr ⟨w', rfl, value.equal_trans here there⟩

theorem Predicate.equal_trans : (p : Predicate) → {q s : Predicate} → p.equal q = true →
    q.equal s = true → p.equal s = true
  | .compare c _ right, _, _, first, second => by
    obtain ⟨d, y, rfl, columns, here⟩ := Predicate.equal_compare_iff.mp first
    obtain ⟨d', y', rfl, others, there⟩ := Predicate.equal_compare_iff.mp second
    exact Predicate.equal_compare_iff.mpr ⟨d', y', rfl,
      Column.isPartialEquivalence.trans columns others, right.equal_trans here there⟩
  | .and left right, _, _, first, second => by
    obtain ⟨a, b, rfl, here, there⟩ := Predicate.equal_and_iff.mp first
    obtain ⟨a', b', rfl, here', there'⟩ := Predicate.equal_and_iff.mp second
    exact Predicate.equal_and_iff.mpr
      ⟨a', b', rfl, left.equal_trans here here', right.equal_trans there there'⟩
  | .or left right, _, _, first, second => by
    obtain ⟨a, b, rfl, here, there⟩ := Predicate.equal_or_iff.mp first
    obtain ⟨a', b', rfl, here', there'⟩ := Predicate.equal_or_iff.mp second
    exact Predicate.equal_or_iff.mpr
      ⟨a', b', rfl, left.equal_trans here here', right.equal_trans there there'⟩
  | .not p, _, _, first, second => by
    obtain ⟨q, rfl, here⟩ := Predicate.equal_not_iff.mp first
    obtain ⟨q', rfl, there⟩ := Predicate.equal_not_iff.mp second
    exact Predicate.equal_not_iff.mpr ⟨q', rfl, p.equal_trans here there⟩
  | .raw r, _, _, first, second => by
    obtain ⟨s, rfl, here⟩ := Predicate.equal_raw_iff.mp first
    obtain ⟨s', rfl, there⟩ := Predicate.equal_raw_iff.mp second
    exact Predicate.equal_raw_iff.mpr ⟨s', rfl, RawExpr.isPartialEquivalence.trans here there⟩

end

theorem Expr.isPartialEquivalence : IsPartialEquivalence Expr.equal where
  symm {x _} := x.equal_symm
  trans {x _ _} := x.equal_trans

theorem Predicate.isPartialEquivalence : IsPartialEquivalence Predicate.equal where
  symm {p _} := p.equal_symm
  trans {p _ _} := p.equal_trans

mutual

/-- The values anywhere in an operand, also those that are not rendered. -/
def Expr.values : Expr → List Value
  | .predicate p => p.values
  | .column _ => []
  | .value v => [v]
  | .raw r => r.args
  | .assignment _ value => value.values

def Predicate.values : Predicate → List Value
  | .compare _ _ right => right.values
  | .and left right => left.values ++ right.values
  | .or left right => left.values ++ right.values
  | .not p => p.values
  | .raw r => r.args

end

mutual

/-- An expression equals itself exactly if all numbers in it are numbers. -/
theorem Expr.equal_self : (x : Expr) → (x.equal x = true ↔ ∀ v ∈ x.values, v.isNaN = false)
  | .predicate p => by
    rw [Expr.equal, Expr.values]
    exact p.equal_self
  | .column c => by
    rw [Expr.equal, Expr.values, c.equal_self]
    simp
  | .value v => by
    rw [Expr.equal, Expr.values, v.equal_self, List.forall_mem_singleton, Bool.not_eq_true']
  | .raw r => by
    rw [Expr.equal, Expr.values]
    exact r.equal_self
  | .assignment field value => by
    rw [Expr.equal, Expr.values, beq_self_eq_true, Bool.true_and]
    exact value.equal_self

theorem Predicate.equal_self : (p : Predicate) →
    (p.equal p = true ↔ ∀ v ∈ p.values, v.isNaN = false)
  | .compare c op right => by
    rw [Predicate.equal, Predicate.values, c.equal_self, beq_self_eq_true, Bool.true_and,
      Bool.true_and]
    exact right.equal_self
  | .and left right => by
    rw [Predicate.equal, Predicate.values, Bool.and_eq_true, left.equal_self, right.equal_self,
      List.forall_mem_append]
  | .or left right => by
    rw [Predicate.equal, Predicate.values, Bool.and_eq_true, left.equal_self, right.equal_self,
      List.forall_mem_append]
  | .not p => by
    rw [Predicate.equal, Predicate.values]
    exact p.equal_self
  | .raw r => by
    rw [Predicate.equal, Predicate.values]
    exact r.equal_self

end

/-! ## Sources -/

theorem Predicate.equalList_iff {ps qs : List Predicate} :
    Predicate.equalList ps qs = true ↔ List.Forall₂ (fun p q => p.equal q = true) ps qs := by
  induction ps generalizing qs with
  | nil => cases qs <;> simp [Predicate.equalList]
  | cons p rest ih => cases qs <;> simp [Predicate.equalList, ih]

theorem Source.equal_table_iff {t : Table} {s : Source} :
    (Source.table t).equal s = true ↔ ∃ u, s = .table u ∧ t.equal u = true := by
  cases s <;> simp [Source.equal]

theorem Source.equal_join_iff {kind : JoinKind} {left right s : Source} {fields : List String}
    {conditions : List Predicate} :
    (Source.join kind left right fields conditions).equal s = true ↔
      ∃ left' right' conditions', s = .join kind left' right' fields conditions' ∧
        left.equal left' = true ∧ right.equal right' = true ∧
        Predicate.equalList conditions conditions' = true := by
  cases s with
  | table t => simp [Source.equal]
  | join kind' left' right' fields' conditions' =>
    simp only [Source.equal, Bool.and_eq_true, beq_iff_eq, Source.join.injEq]
    constructor
    · rintro ⟨⟨⟨⟨first, second⟩, rfl⟩, rfl⟩, lists⟩
      exact ⟨left', right', conditions', ⟨rfl, rfl, rfl, rfl, rfl⟩, first, second, lists⟩
    · rintro ⟨_, _, _, ⟨rfl, rfl, rfl, rfl, rfl⟩, first, second, lists⟩
      exact ⟨⟨⟨⟨first, second⟩, rfl⟩, rfl⟩, lists⟩

theorem Source.isPartialEquivalence : IsPartialEquivalence Source.equal where
  symm {s t} same := by
    have lists := Predicate.isPartialEquivalence.ofLists Predicate.equalList_iff
    induction s generalizing t with
    | table t =>
      obtain ⟨u, rfl, inner⟩ := equal_table_iff.mp same
      exact equal_table_iff.mpr ⟨t, rfl, Table.isPartialEquivalence.symm inner⟩
    | join kind left right fields conditions ihLeft ihRight =>
      obtain ⟨left', right', others, rfl, first, second, on⟩ := equal_join_iff.mp same
      exact equal_join_iff.mpr
        ⟨left, right, conditions, rfl, ihLeft first, ihRight second, lists.symm on⟩
  trans {s t u} here there := by
    have lists := Predicate.isPartialEquivalence.ofLists Predicate.equalList_iff
    induction s generalizing t u with
    | table t =>
      obtain ⟨_, rfl, first⟩ := equal_table_iff.mp here
      obtain ⟨last, rfl, second⟩ := equal_table_iff.mp there
      exact equal_table_iff.mpr ⟨last, rfl, Table.isPartialEquivalence.trans first second⟩
    | join kind left right fields conditions ihLeft ihRight =>
      obtain ⟨_, _, _, rfl, first, second, on⟩ := equal_join_iff.mp here
      obtain ⟨left', right', others, rfl, first', second', on'⟩ := equal_join_iff.mp there
      exact equal_join_iff.mpr ⟨left', right', others, rfl, ihLeft first first',
        ihRight second second', lists.trans on on'⟩

end RecordSql
