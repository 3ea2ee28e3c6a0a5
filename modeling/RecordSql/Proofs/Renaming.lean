import Mathlib.Data.List.Forall2
import RecordSql.Proofs.Bindings.Statement
import RecordSql.Proofs.Registrations
/-! # Statements that differ in names only

`unnamed` forgets every string that is written as a name and that a caller may choose: aliases, the
table of a deletion, and the tables and columns of models. What is left of a statement and of the
registry determines all that is written but the names, and the outcome: `Alike` compares two
renderings from models and registries of which the same is left. -/
set_option autoImplicit false
namespace RecordSql

open Render

/-! ## Without names -/

def MappedField.unnamed (field : MappedField) : MappedField := { field with column := "" }

def Model.unnamed (m : Model) : Model := ⟨"", m.fields.map MappedField.unnamed⟩

def Registration.unnamed (x : Registration) : Registration := { x with model := x.model.unnamed }

def Registry.unnamed (r : Registry) : Registry := ⟨r.history.map Registration.unnamed⟩

def ModelOption.unnamed : ModelOption → ModelOption
  | tableName _ => tableName ""
  | columnName field _ => columnName field ""

def RegistryCall.unnamed : RegistryCall → RegistryCall
  | get e => get e
  | register e options => register e (options.map ModelOption.unnamed)

def Piece.unnamed : Piece → Piece
  | name _ => name ""
  | text s => text s
  | raw r => raw r
  | bound v => bound v

def unnamedAlias (aliasName : Option String) : Option String := aliasName.map fun _ => ""

def Table.unnamed (t : Table) : Table := { t with aliasName := unnamedAlias t.aliasName }

def Column.unnamed (c : Column) : Column :=
  { c with aliasName := unnamedAlias c.aliasName, table := c.table.map Table.unnamed }

mutual

def Expr.unnamed : Expr → Expr
  | .predicate p => .predicate p.unnamed
  | .column c => .column c.unnamed
  | .value v => .value v
  | .raw r => .raw r
  | .assignment field value => .assignment field value.unnamed

def Predicate.unnamed : Predicate → Predicate
  | .compare left op right => .compare left.unnamed op right.unnamed
  | .and left right => .and left.unnamed right.unnamed
  | .or left right => .or left.unnamed right.unnamed
  | .not p => .not p.unnamed
  | .raw r => .raw r

end

def Source.unnamed : Source → Source
  | .table t => .table t.unnamed
  | .join kind left right fields conditions =>
    .join kind left.unnamed right.unnamed fields (conditions.map Predicate.unnamed)

def Assignment.unnamed (a : Assignment) : Assignment := { a with value := a.value.unnamed }

def Assignable.unnamed : Assignable → Assignable
  | assignment a => assignment a.unnamed
  | column c => column c.unnamed

def Selectable.unnamed : Selectable → Selectable
  | column c => column c.unnamed
  | aggregate a => aggregate { a with aliasName := unnamedAlias a.aliasName }
  | raw r => raw r

def SortKey.unnamed (key : SortKey) : SortKey := { key with column := key.column.unnamed }

def Upsert.unnamed (u : Upsert) : Upsert :=
  { u with assignments := u.assignments.map Assignable.unnamed }

def Select.unnamed (s : Select) : Select :=
  { s with
    source := s.source.map Source.unnamed
    projection := s.projection.map Selectable.unnamed
    conditions := s.conditions.map Predicate.unnamed
    groupBy := s.groupBy.map Column.unnamed
    having := s.having.map Predicate.unnamed
    orderBy := s.orderBy.map SortKey.unnamed }

section

variable {e : Entity}

def Insert.unnamed (s : Insert e) : Insert e := { s with upsert := s.upsert.map Upsert.unnamed }

def Update.unnamed (s : Update e) : Update e :=
  { s with
    assignments := s.assignments.map Assignable.unnamed
    conditions := s.conditions.map Predicate.unnamed }

def Delete.unnamed (s : Delete) : Delete := ⟨none, s.conditions.map Predicate.unnamed⟩

def Statement.unnamed : Statement e → Statement e
  | select s => select s.unnamed
  | insert s => insert s.unnamed
  | update s => update s.unnamed
  | delete s => delete s.unnamed
  | raw r => raw r

end

/-! ## Models and registries -/

def Model.Matches (m m' : Model) : Prop := m.unnamed = m'.unnamed

def Registry.Matches (r r' : Registry) : Prop := r.unnamed = r'.unnamed

section Outcomes

variable {α β γ : Type}

/-- The same error, or results that are the same in some respect. -/
def SameOutcome (same : α → β → Prop) : Except Error α → Except Error β → Prop
  | .ok a, .ok b => same a b
  | .error e, .error f => e = f
  | _, _ => False

theorem SameOutcome.cases {same : α → β → Prop} {x : Except Error α} {y : Except Error β}
    (outcome : SameOutcome same x y) :
    (∃ e, x = .error e ∧ y = .error e) ∨ ∃ a b, x = .ok a ∧ y = .ok b ∧ same a b := by
  cases x with
  | error e =>
    cases y with
    | error f => exact .inl ⟨e, rfl, congrArg Except.error (Eq.symm outcome)⟩
    | ok b => exact outcome.elim
  | ok a =>
    cases y with
    | error f => exact outcome.elim
    | ok b => exact .inr ⟨a, b, rfl, rfl, outcome⟩

theorem sameOutcome_self {same : α → α → Prop} (reflexive : ∀ a, same a a) (x : Except Error α) :
    SameOutcome same x x := by
  cases x with
  | error e => rfl
  | ok a => exact reflexive a

theorem cases_of_map_eq {f : α → γ} {g : β → γ} {x : Option α} {y : Option β}
    (same : x.map f = y.map g) :
    (x = none ∧ y = none) ∨ ∃ a b, x = some a ∧ y = some b ∧ f a = g b := by
  cases x with
  | none =>
    cases y with
    | none => exact .inl ⟨rfl, rfl⟩
    | some b => simp at same
  | some a =>
    cases y with
    | none => simp at same
    | some b => exact .inr ⟨a, b, rfl, rfl, Option.some.inj same⟩

end Outcomes

namespace Model

variable {m m' : Model}

theorem field?_unnamed (m : Model) (name : String) :
    m.unnamed.field? name = (m.field? name).map MappedField.unnamed := by
  rw [field?, field?, List.findRev?_eq_find?_reverse, List.findRev?_eq_find?_reverse, unnamed,
    ← List.map_reverse, List.find?_map]
  rfl

theorem Matches.map_fields (alike : m.Matches m') :
    m.fields.map MappedField.unnamed = m'.fields.map MappedField.unnamed :=
  congrArg Model.fields alike

theorem Matches.forall₂_fields (alike : m.Matches m') :
    List.Forall₂ (fun f g : MappedField => f.unnamed = g.unnamed) m.fields m'.fields := by
  have mapped := alike.map_fields
  rwa [← List.forall₂_eq_eq_eq, List.forall₂_map_left_iff, List.forall₂_map_right_iff] at mapped

theorem Matches.field?_cases (alike : m.Matches m') (name : String) :
    (m.field? name = none ∧ m'.field? name = none) ∨
      ∃ f g, m.field? name = some f ∧ m'.field? name = some g ∧ f.unnamed = g.unnamed := by
  refine cases_of_map_eq ?_
  rw [← field?_unnamed, ← field?_unnamed, alike]

theorem Matches.columnOf (alike : m.Matches m') (name : String) :
    SameOutcome (fun _ _ => True) (m.columnOf name) (m'.columnOf name) := by
  unfold Model.columnOf
  rcases alike.field?_cases name with ⟨here, there⟩ | ⟨f, g, here, there, -⟩
  · simp only [here, there, SameOutcome]
  · simp only [here, there, SameOutcome]

/-- The value of a field is found by its name and its place. -/
theorem Matches.field (alike : m.Matches m') (k : Materializer) {e : Entity} (r : e.Record)
    (name : String) : k.field m e r name = k.field m' e r name := by
  unfold Materializer.field
  rcases alike.field?_cases name with ⟨here, there⟩ | ⟨f, g, here, there, same⟩
  · rw [here, there]
  · obtain ⟨sameName, -, -, sameIndex⟩ := MappedField.mk.inj same
    simp only [here, there, Option.bind_some, sameName, sameIndex]

theorem matches_setColumn (m : Model) (index : Nat) (column : String) :
    (m.setColumn index column).Matches m := by
  rw [Matches, unnamed, unnamed, setColumn, List.map_map]
  refine congrArg (Model.mk "") (List.map_congr_left fun f _ => ?_)
  rw [Function.comp_apply]
  split <;> rfl

theorem Matches.applyOption (alike : m.Matches m') (option : ModelOption) :
    SameOutcome Matches (m.applyOption option) (m'.applyOption option.unnamed) := by
  cases option with
  | tableName name => exact congrArg (Model.mk "") alike.map_fields
  | columnName name column =>
    simp only [Model.applyOption, ModelOption.unnamed]
    rcases alike.field?_cases name with ⟨here, there⟩ | ⟨f, g, here, there, -⟩
    · simp only [here, there, SameOutcome]
    · simp only [here, there]
      exact (matches_setColumn m _ _).trans (alike.trans (matches_setColumn m' _ _).symm)

theorem Matches.applyOptions (alike : m.Matches m') (options : List ModelOption) :
    SameOutcome Matches (m.applyOptions options)
      (m'.applyOptions (options.map ModelOption.unnamed)) := by
  induction options generalizing m m' with
  | nil => exact alike
  | cons option rest ih =>
    simp only [List.map_cons, Model.applyOptions]
    rcases (alike.applyOption option).cases with ⟨err, here, there⟩ | ⟨n, n', here, there, next⟩
    · simp only [here, there, SameOutcome]
    · simp only [here, there]
      exact ih next

theorem matches_ofEntity (e : Entity) (options : List ModelOption) :
    SameOutcome Matches (ofEntity e options) (ofEntity e (options.map ModelOption.unnamed)) := by
  unfold ofEntity
  split
  next => rfl
  next =>
    split
    next => rfl
    next fields _ => exact Matches.applyOptions rfl options

end Model

namespace Registry

variable {r r' : Registry}

theorem find?_unnamed (r : Registry) (identity : Nat) :
    r.unnamed.find? identity = (r.find? identity).map Model.unnamed := by
  rw [find?, find?, unnamed, List.find?_map, Option.map_map, Option.map_map]
  rfl

/-- What a caller is given, and the registry then. -/
abbrev SameAnswer : Except Error (Model × Registry) → Except Error (Model × Registry) → Prop :=
  SameOutcome fun x y => x.1.Matches y.1 ∧ x.2.Matches y.2

theorem Matches.register (alike : r.Matches r') {e : Entity} {options others : List ModelOption}
    (models : SameOutcome Model.Matches (Model.ofEntity e options) (Model.ofEntity e others)) :
    SameAnswer (r.register e options) (r'.register e others) := by
  have history : r.history.map Registration.unnamed = r'.history.map Registration.unnamed :=
    congrArg Registry.history alike
  unfold Registry.register
  rcases models.cases with ⟨err, here, there⟩ | ⟨m, m', here, there, same⟩
  · simp only [here, there, SameAnswer, SameOutcome]
  · simp only [here, there]
    refine ⟨same, ?_⟩
    have entry : m.unnamed = m'.unnamed := same
    simp only [Matches, unnamed, List.map_cons, history, Registration.unnamed, entry]

theorem Matches.get (alike : r.Matches r') (e : Entity) : SameAnswer (r.get e) (r'.get e) := by
  have found : (r.find? e.identity).map Model.unnamed = (r'.find? e.identity).map Model.unnamed := by
    rw [← find?_unnamed, ← find?_unnamed, alike]
  unfold Registry.get
  rcases cases_of_map_eq found with ⟨here, there⟩ | ⟨m, m', here, there, same⟩
  · simp only [here, there]
    exact alike.register (Model.matches_ofEntity e [])
  · simp only [here, there]
    exact ⟨same, alike⟩

theorem Matches.after (alike : r.Matches r') (c : RegistryCall) :
    (r.after c).Matches (r'.after c.unnamed) := by
  have answers : SameAnswer (r.answer c) (r'.answer c.unnamed) := by
    cases c with
    | get e => exact alike.get e
    | register e options => exact alike.register (Model.matches_ofEntity e options)
  unfold Registry.after
  rcases answers.cases with ⟨err, here, there⟩ | ⟨found, other, here, there, same⟩
  · simp only [here, there]
    exact alike
  · simp only [here, there]
    exact same.2

theorem Matches.run (alike : r.Matches r') (calls : List RegistryCall) :
    (r.run calls).Matches (r'.run (calls.map RegistryCall.unnamed)) := by
  induction calls generalizing r r' with
  | nil => exact alike
  | cons c rest ih => exact ih (alike.after c)

/-- Calls that differ in the strings of their options only lead to matching registries. -/
theorem matches_run {calls others : List RegistryCall}
    (same : calls.map RegistryCall.unnamed = others.map RegistryCall.unnamed) :
    (empty.run calls).Matches (empty.run others) := by
  have first : (empty.run calls).Matches _ := Matches.run rfl calls
  have second : (empty.run others).Matches _ := Matches.run rfl others
  rw [same] at first
  exact first.trans second.symm

end Registry

/-! ## Renderings -/

/-- What two renderings leave is the same but for names. -/
structure Draft.Alike {α : Type} (same : α → α → Prop) (d d' : Draft α) : Prop where
  pieces : d.pieces.map Piece.unnamed = d'.pieces.map Piece.unnamed
  registry : d.registry.Matches d'.registry
  result : SameOutcome same d.result d'.result

namespace Draft

theorem Alike.symm {d d' : Draft Unit} (alike : d.Alike Eq d') : d'.Alike Eq d := by
  refine ⟨alike.pieces.symm, alike.registry.symm, ?_⟩
  rcases alike.result.cases with ⟨err, here, there⟩ | ⟨a, b, here, there, -⟩
  · rw [here, there]
    exact rfl
  · rw [here, there]
    exact rfl

theorem Alike.trans {d d' d'' : Draft Unit} (first : d.Alike Eq d') (second : d'.Alike Eq d'') :
    d.Alike Eq d'' := by
  refine ⟨first.pieces.trans second.pieces, first.registry.trans second.registry, ?_⟩
  have outcome := second.result
  rcases first.result.cases with ⟨err, here, there⟩ | ⟨a, b, here, there, -⟩
  · rwa [here, ← there]
  · rwa [here, ← there]

end Draft

namespace Render

variable {α β : Type} {same : α → α → Prop} {sameNext : β → β → Prop}

/-- Two renderings that leave the same but for names, whatever the names are that they read. -/
def Alike (same : α → α → Prop) (x y : Render α) : Prop :=
  ∀ m m' r r', m.Matches m' → r.Matches r' → (x m r).Alike same (y m' r')

theorem alike_pure {a b : α} (here : same a b) : (pure a : Render α).Alike same (pure b) :=
  fun _ _ _ _ _ registry => ⟨rfl, registry, here⟩

theorem alike_fail (e : Error) : (fail e : Render α).Alike same (fail e) :=
  fun _ _ _ _ _ registry => ⟨rfl, registry, rfl⟩

theorem alike_ofExcept {x y : Except Error α} (outcome : SameOutcome same x y) :
    (ofExcept x).Alike same (ofExcept y) :=
  fun _ _ _ _ _ registry => ⟨rfl, registry, outcome⟩

theorem alike_emit {piece other : Piece} (kept : piece.unnamed = other.unnamed) :
    (emit piece).Alike Eq (emit other) :=
  fun _ _ _ _ _ registry => ⟨congrArg (fun p => [p]) kept, registry, rfl⟩

theorem alike_write (s : String) : (write s).Alike Eq (write s) := alike_emit rfl

theorem alike_quoted (s t : String) : (quoted s).Alike Eq (quoted t) := alike_emit rfl

theorem alike_bound (v : Value) : (bound v).Alike Eq (bound v) := alike_emit rfl

theorem alike_raw (fragment : RawExpr) : (raw fragment).Alike Eq (raw fragment) := alike_emit rfl

theorem alike_ownModel : ownModel.Alike Model.Matches ownModel :=
  fun _ _ _ _ model registry => ⟨rfl, registry, model⟩

theorem alike_modelOf (e : Entity) : (modelOf e).Alike Model.Matches (modelOf e) := by
  intro m m' r r' _ registry
  unfold modelOf
  rcases (registry.get e).cases with ⟨err, here, there⟩ | ⟨found, other, here, there, same⟩
  · simp only [here, there]
    exact ⟨rfl, registry, rfl⟩
  · simp only [here, there]
    exact ⟨rfl, same.2, same.1⟩

theorem Alike.bind {x y : Render α} {f g : α → Render β} (first : x.Alike same y)
    (second : ∀ a b, same a b → (f a).Alike sameNext (g b)) :
    (x >>= f).Alike sameNext (y >>= g) := by
  intro m m' r r' model registry
  obtain ⟨pieces, after, result⟩ := first m m' r r' model registry
  simp only [Bind.bind, Render.bind]
  rcases result.cases with ⟨err, here, there⟩ | ⟨a, b, here, there, found⟩
  · simp only [here, there]
    exact ⟨pieces, after, rfl⟩
  · simp only [here, there]
    obtain ⟨more, last, outcome⟩ := second a b found m m' _ _ model after
    exact ⟨by simp only [List.map_append, pieces, more], last, outcome⟩

/-- The next rendering does not read what the first one gives. -/
theorem Alike.then {x y : Render Unit} {f g : Unit → Render β} (first : x.Alike Eq y)
    (second : (f ()).Alike sameNext (g ())) : (x >>= f).Alike sameNext (y >>= g) :=
  first.bind fun _ _ _ => second

theorem alike_ownColumn (field : String) :
    (ownColumn field).Alike (fun _ _ => True) (ownColumn field) :=
  alike_ownModel.bind fun _ _ model => alike_ofExcept (model.columnOf field)

theorem Alike.parenthesized {x y : Render Unit} (inside : x.Alike Eq y) :
    (parenthesized x).Alike Eq (parenthesized y) :=
  (alike_write "(").then <| inside.then <| alike_write ")"

variable {γ : Type}

theorem alike_commaTail {item : α → Render Unit} {other : γ → Render Unit} {items : List α}
    {others : List γ} (each : List.Forall₂ (fun a b => (item a).Alike Eq (other b)) items others) :
    (commaTail item items).Alike Eq (commaTail other others) := by
  induction each with
  | nil => exact alike_pure rfl
  | cons first _ ih => exact (alike_write ",").then <| first.then ih

theorem alike_commaList {item : α → Render Unit} {other : γ → Render Unit} {items : List α}
    {others : List γ} (each : List.Forall₂ (fun a b => (item a).Alike Eq (other b)) items others) :
    (commaList item items).Alike Eq (commaList other others) := by
  cases each with
  | nil => exact alike_pure rfl
  | cons first rest => exact first.then (alike_commaTail rest)

theorem alike_commaList_map {item : α → Render Unit} {f : α → α}
    (each : ∀ a, (item a).Alike Eq (item (f a))) (items : List α) :
    (commaList item items).Alike Eq (commaList item (items.map f)) :=
  alike_commaList (List.forall₂_map_right_iff.mpr (List.forall₂_same.mpr fun a _ => each a))

end Render

theorem alike_renderAlias (aliasName : Option String) :
    (renderAlias aliasName).Alike Eq (renderAlias (unnamedAlias aliasName)) := by
  cases aliasName with
  | none => exact alike_pure rfl
  | some name => exact (alike_write " AS ").then (alike_quoted name "")

theorem alike_quotedColumn (field : String) :
    (do quoted (← ownColumn field) : Render Unit).Alike Eq (do quoted (← ownColumn field)) :=
  (alike_ownColumn field).bind fun _ _ _ => alike_quoted _ _

namespace Column

theorem alike_render (c : Column) : c.render.Alike Eq c.unnamed.render := by
  obtain ⟨name, aliasName, table⟩ := c
  cases table with
  | none => exact alike_quotedColumn name
  | some t =>
    obtain ⟨e, tableAlias⟩ := t
    refine (alike_modelOf e).bind fun m m' model =>
      (alike_ofExcept (model.columnOf name)).bind fun column other _ => ?_
    cases tableAlias with
    | none => exact alike_quoted _ _
    | some t => exact (alike_quoted _ _).then <| (alike_write ".").then <| alike_quoted _ _

theorem alike_renderProjected (c : Column) :
    c.renderProjected.Alike Eq c.unnamed.renderProjected :=
  c.alike_render.then (alike_renderAlias c.aliasName)

end Column

mutual

theorem Expr.alike_renderOperand : (e : Expr) →
    e.renderOperand.Alike Eq e.unnamed.renderOperand
  | .predicate p => by
    rw [Expr.unnamed, Expr.renderOperand, Expr.renderOperand]
    exact p.alike_render.parenthesized
  | .column c => by
    rw [Expr.unnamed, Expr.renderOperand, Expr.renderOperand]
    exact c.alike_render
  | .value v => by
    rw [Expr.unnamed, Expr.renderOperand]
    exact alike_bound v
  | .raw r => by
    rw [Expr.unnamed, Expr.renderOperand]
    exact (alike_raw r).parenthesized
  | .assignment field value => by
    rw [Expr.unnamed, Expr.renderOperand, Expr.renderOperand]
    exact alike_fail _

theorem Predicate.alike_render : (p : Predicate) → p.render.Alike Eq p.unnamed.render
  | .compare left op right => by
    rw [Predicate.unnamed, Predicate.render, Predicate.render]
    exact left.alike_render.then <| (alike_write _).then right.alike_renderOperand
  | .and left right => by
    rw [Predicate.unnamed, Predicate.render, Predicate.render]
    exact left.alike_render.parenthesized.then <|
      (alike_write _).then right.alike_render.parenthesized
  | .or left right => by
    rw [Predicate.unnamed, Predicate.render, Predicate.render]
    exact left.alike_render.parenthesized.then <|
      (alike_write _).then right.alike_render.parenthesized
  | .not p => by
    rw [Predicate.unnamed, Predicate.render, Predicate.render]
    exact (alike_write _).then p.alike_render.parenthesized
  | .raw r => by
    rw [Predicate.unnamed, Predicate.render]
    exact (alike_raw r).parenthesized

end

theorem Expr.alike_render (e : Expr) : e.render.Alike Eq e.unnamed.render := by
  cases e with
  | predicate p =>
    rw [Expr.unnamed, Expr.render, Expr.render]
    exact p.alike_render
  | column c => exact Expr.alike_renderOperand (.column c)
  | value v => exact Expr.alike_renderOperand (.value v)
  | raw r => exact Expr.alike_renderOperand (.raw r)
  | assignment field value => exact Expr.alike_renderOperand (.assignment field value)

theorem unnamed_foldl_and (p : Predicate) (rest : List Predicate) :
    (rest.foldl .and p).unnamed = (rest.map Predicate.unnamed).foldl .and p.unnamed := by
  induction rest generalizing p with
  | nil => rfl
  | cons q rest ih => rw [List.map_cons, List.foldl_cons, List.foldl_cons, ih, Predicate.unnamed]

theorem alike_renderAll (conditions : List Predicate) :
    (renderAll conditions).Alike Eq (renderAll (conditions.map Predicate.unnamed)) := by
  cases conditions with
  | nil => exact alike_pure rfl
  | cons p rest =>
    have whole := (rest.foldl .and p).alike_render
    rwa [unnamed_foldl_and] at whole

theorem alike_renderClause (keyword : String) (conditions : List Predicate) :
    (renderClause keyword conditions).Alike Eq
      (renderClause keyword (conditions.map Predicate.unnamed)) := by
  cases conditions with
  | nil => exact alike_pure rfl
  | cons p rest => exact (alike_write keyword).then (alike_renderAll (p :: rest))

theorem Assignment.alike_render (a : Assignment) : a.render.Alike Eq a.unnamed.render :=
  (alike_ownColumn a.field).bind fun _ _ _ =>
    (alike_quoted _ _).then <| (alike_write "=").then a.value.alike_render

theorem alike_columnList (fields : List String) :
    (commaList (fun field => do quoted (← ownColumn field)) fields).Alike Eq
      (commaList (fun field => do quoted (← ownColumn field)) fields) :=
  alike_commaList (List.forall₂_same.mpr fun field _ => alike_quotedColumn field)

theorem alike_renderUsing (fields : List String) :
    (renderUsing fields).Alike Eq (renderUsing fields) := by
  cases fields with
  | nil => exact alike_pure rfl
  | cons field rest =>
    exact (alike_write " USING (").then <| (alike_columnList _).then <| alike_write ")"

theorem Table.alike_render (t : Table) : t.render.Alike Eq t.unnamed.render :=
  (alike_modelOf t.entity).bind fun _ _ _ =>
    (alike_quoted _ _).then (alike_renderAlias t.aliasName)

theorem Source.alike_render (source : Source) : source.render.Alike Eq source.unnamed.render := by
  induction source with
  | table t => exact t.alike_render
  | join kind left right fields conditions first second =>
    exact (alike_write "(").then <| first.then <| (alike_write _).then <| second.then <|
      (alike_renderUsing fields).then <| (alike_renderClause _ conditions).then <| alike_write ")"

theorem alike_renderSource (source : Option Source) :
    (renderSource source).Alike Eq (renderSource (source.map Source.unnamed)) := by
  cases source with
  | none => exact alike_ownModel.bind fun _ _ _ => alike_quoted _ _
  | some source => exact source.alike_render

theorem Selectable.alike_render (item : Selectable) :
    item.render.Alike Eq item.unnamed.render := by
  cases item with
  | column c => exact c.alike_renderProjected
  | aggregate a =>
    exact (alike_write _).then <| (alike_quotedColumn a.field).parenthesized.then <|
      alike_renderAlias a.aliasName
  | raw r => exact alike_raw r

theorem SortKey.alike_render (key : SortKey) : key.render.Alike Eq key.unnamed.render :=
  key.column.alike_render.then (alike_write _)

theorem alike_renderList {α : Type} {keyword : String} {item : α → Render Unit} {f : α → α}
    (each : ∀ a, (item a).Alike Eq (item (f a))) (items : List α) :
    (renderList keyword item items).Alike Eq (renderList keyword item (items.map f)) := by
  cases items with
  | nil => exact alike_pure rfl
  | cons a rest => exact (alike_write keyword).then (alike_commaList_map each (a :: rest))

theorem alike_renderCount (keyword : String) (count : Option UInt64) :
    (renderCount keyword count).Alike Eq (renderCount keyword count) := by
  cases count with
  | none => exact alike_pure rfl
  | some n => exact (alike_write keyword).then (alike_bound _)

namespace Select

theorem alike_renderProjection (items : List Selectable) :
    (renderProjection items).Alike Eq (renderProjection (items.map Selectable.unnamed)) := by
  cases items with
  | nil => exact alike_write "*"
  | cons item rest => exact alike_commaList_map Selectable.alike_render (item :: rest)

theorem alike_render (s : Select) : s.render.Alike Eq s.unnamed.render :=
  (alike_write _).then <| (alike_renderProjection s.projection).then <| (alike_write _).then <|
    (alike_renderSource s.source).then <| (alike_renderClause _ s.conditions).then <|
    (alike_renderList Column.alike_render s.groupBy).then <|
    (alike_renderClause _ s.having).then <| (alike_renderList SortKey.alike_render s.orderBy).then <|
    (alike_renderCount _ s.limit).then <| alike_renderCount _ s.offset

end Select

namespace Upsert

theorem alike_renderItem (before after : String) (item : Assignable) :
    (renderItem before after item).Alike Eq (renderItem before after item.unnamed) := by
  cases item with
  | assignment a => exact a.alike_render
  | column c =>
    have column : (assignableColumn c).Alike (fun _ _ => True) (assignableColumn c.unnamed) := by
      obtain ⟨name, aliasName, table⟩ := c
      cases table with
      | none => exact alike_ownColumn name
      | some t => exact alike_fail _
    exact column.bind fun _ _ _ => (alike_quoted _ _).then <| (alike_write before).then <|
      (alike_quoted _ _).then <| alike_write after

theorem alike_renderTarget (u : Upsert) : u.renderTarget.Alike Eq u.unnamed.renderTarget := by
  obtain ⟨assignments, conflictFields⟩ := u
  cases conflictFields with
  | nil => exact alike_write _
  | cons field rest => exact (alike_write _).then <| (alike_columnList _).then <| alike_write _

theorem alike_render (d : Dialect) (u : Upsert) :
    (u.render d).Alike Eq (u.unnamed.render d) := by
  have conflict : u.renderConflict.Alike Eq u.unnamed.renderConflict :=
    u.alike_renderTarget.then (alike_commaList_map (alike_renderItem _ _) _)
  cases d with
  | mysql => exact (alike_write _).then (alike_commaList_map (alike_renderItem _ _) _)
  | sqlite => exact conflict
  | postgres =>
    rw [render, render, Upsert.unnamed]
    split
    next => exact alike_fail _
    next => exact conflict

end Upsert

section Records

variable {e : Entity}

namespace Insert

theorem sameOutcome_resolveFields {m m' : Model} (model : m.Matches m') (names : List String) :
    SameOutcome (List.Forall₂ fun f g : MappedField => f.unnamed = g.unnamed)
      (resolveFields m names) (resolveFields m' names) := by
  induction names with
  | nil => exact .nil
  | cons name rest ih =>
    simp only [resolveFields]
    rcases model.field?_cases name with ⟨here, there⟩ | ⟨f, g, here, there, same⟩
    · simp only [here, there, SameOutcome]
    · simp only [here, there]
      rcases ih.cases with ⟨err, failed, failedToo⟩ | ⟨fs, gs, found, foundToo, all⟩
      · simp only [failed, failedToo, SameOutcome]
      · simp only [found, foundToo]
        exact .cons same all

theorem sameOutcome_targetFields {m m' : Model} (model : m.Matches m') (names : List String) :
    SameOutcome (List.Forall₂ fun f g : MappedField => f.unnamed = g.unnamed)
      (targetFields m names) (targetFields m' names) := by
  cases names with
  | nil => exact model.forall₂_fields
  | cons name rest => exact sameOutcome_resolveFields model (name :: rest)

theorem alike_renderCell (k : Materializer) (r : e.Record) {f g : MappedField}
    (same : f.unnamed = g.unnamed) : (renderCell k r f).Alike Eq (renderCell k r g) := by
  have sameName : f.name = g.name := (MappedField.mk.inj same).1
  refine alike_ownModel.bind fun m m' model => ?_
  rw [model.field k r f.name, sameName]
  exact (alike_ofExcept (sameOutcome_self (fun _ => rfl) _)).bind fun v w found =>
    found ▸ alike_bound v

theorem alike_render (style : Style) (s : Insert e) :
    (s.render style).Alike Eq (s.unnamed.render style) := by
  refine alike_ownModel.bind fun m m' model =>
    (alike_ofExcept (sameOutcome_targetFields model s.fields)).bind fun fs gs fields =>
      (alike_write _).then <| (alike_quoted _ _).then ?_
  have columns : (commaList (fun field => quoted field.column) fs).Alike Eq
      (commaList (fun field => quoted field.column) gs) :=
    alike_commaList (fields.imp fun _ _ _ => alike_quoted _ _)
  have row (r : e.Record) : (commaList (renderCell style.materializer r) fs).Alike Eq
      (commaList (renderCell style.materializer r) gs) :=
    alike_commaList (fields.imp fun _ _ same => alike_renderCell style.materializer r same)
  have rows := alike_commaList (List.forall₂_same.mpr
    fun r (_ : r ∈ s.records) => (row r).parenthesized)
  refine columns.parenthesized.then <| (alike_write _).then <| rows.then ?_
  obtain ⟨records, names, upsert⟩ := s
  cases upsert with
  | none => exact alike_pure rfl
  | some u => exact u.alike_render style.dialect

end Insert

namespace Update

theorem alike_renderField (k : Materializer) (r : e.Record) (name column other : String) :
    (renderField k r name column).Alike Eq (renderField k r name other) := by
  refine alike_ownModel.bind fun m m' model => (alike_quoted _ _).then <| (alike_write _).then ?_
  rw [model.field k r name]
  exact (alike_ofExcept (sameOutcome_self (fun _ => rfl) _)).bind fun v w found =>
    found ▸ alike_bound v

theorem alike_renderItem (k : Materializer) (record : Option e.Record) (item : Assignable) :
    (renderItem k record item).Alike Eq (renderItem k record item.unnamed) := by
  cases item with
  | assignment a => exact a.alike_render
  | column c =>
    obtain ⟨name, aliasName, table⟩ := c
    cases record with
    | none => exact alike_fail _
    | some r =>
      cases table with
      | none => exact (alike_ownColumn name).bind fun _ _ _ => alike_renderField k r name _ _
      | some t => exact alike_fail _

theorem alike_renderAssignments (k : Materializer) (s : Update e) :
    (s.renderAssignments k).Alike Eq (s.unnamed.renderAssignments k) := by
  obtain ⟨record, assignments, conditions⟩ := s
  cases assignments with
  | nil =>
    cases record with
    | none => exact alike_fail _
    | some r =>
      refine alike_ownModel.bind fun m m' model => alike_commaList (model.forall₂_fields.imp ?_)
      intro f g same
      have sameName : f.name = g.name := (MappedField.mk.inj same).1
      rw [sameName]
      exact alike_renderField k r g.name f.column g.column
  | cons item rest => exact alike_commaList_map (alike_renderItem k record) (item :: rest)

theorem alike_render (style : Style) (s : Update e) :
    (s.render style).Alike Eq (s.unnamed.render style) := by
  have isVoid : s.unnamed.isVoid = s.isVoid := by
    simp [Update.isVoid, Update.unnamed]
  refine alike_ownModel.bind fun m m' model => ?_
  have body : (do
      write "UPDATE "
      quoted m.table
      write " SET "
      s.renderAssignments style.materializer
      renderClause " WHERE " s.conditions : Render Unit).Alike Eq (do
      write "UPDATE "
      quoted m'.table
      write " SET "
      s.unnamed.renderAssignments style.materializer
      renderClause " WHERE " s.unnamed.conditions) :=
    (alike_write _).then <| (alike_quoted _ _).then <| (alike_write _).then <|
      (s.alike_renderAssignments _).then <| alike_renderClause _ s.conditions
  rw [isVoid]
  split
  next => exact (alike_fail _).then body
  next => exact body

end Update

theorem Delete.alike_render (s : Delete) : s.render.Alike Eq s.unnamed.render :=
  alike_ownModel.bind fun _ _ _ => (alike_write _).then <| (alike_quoted _ _).then <|
    alike_renderClause _ s.conditions

namespace Statement

theorem alike_render (style : Style) (s : Statement e) :
    (s.render style).Alike Eq (s.unnamed.render style) := by
  cases s with
  | select s => exact s.alike_render
  | insert s => exact s.alike_render style
  | update s => exact s.alike_render style
  | delete s => exact s.alike_render
  | raw r => exact alike_raw r

theorem alike_draftFor {r r' : Registry} {x y : Render Unit} (registry : r.Matches r')
    (body : x.Alike Eq y) : (draftFor e x r).Alike Eq (draftFor e y r') := by
  unfold draftFor
  rcases (registry.get e).cases with ⟨err, here, there⟩ | ⟨found, other, here, there, same⟩
  · simp only [here, there]
    exact ⟨rfl, registry, rfl⟩
  · simp only [here, there]
    exact body _ _ _ _ same.1 same.2

theorem alike_draft_unnamed {r r' : Registry} (registry : r.Matches r') (style : Style)
    (s : Statement e) : (s.draft style r).Alike Eq (s.unnamed.draft style r') := by
  have ended : (do s.render style; write ";" : Render Unit).Alike Eq
      (do s.unnamed.render style; write ";") := (s.alike_render style).then (alike_write _)
  cases s with
  | select s => exact alike_draftFor registry ended
  | insert s =>
    obtain ⟨records, names, upsert⟩ := s
    cases records with
    | nil => exact ⟨rfl, registry, rfl⟩
    | cons first rest => exact alike_draftFor registry ended
  | update s => exact alike_draftFor registry ended
  | delete s => exact alike_draftFor registry ended
  | raw r => exact ⟨rfl, registry, rfl⟩

/-- Statements of which the same is left without names are written alike. -/
theorem alike_draft {r r' : Registry} {s s' : Statement e} (same : s.unnamed = s'.unnamed)
    (registry : r.Matches r') (style : Style) :
    (s.draft style r).Alike Eq (s'.draft style r') := by
  -- Both are written like what is left of them, which is one statement.
  have first := s.alike_draft_unnamed registry style
  have second := s'.alike_draft_unnamed (r := r') rfl style
  rw [same] at first
  exact first.trans second.symm

end Statement

end Records

end RecordSql
