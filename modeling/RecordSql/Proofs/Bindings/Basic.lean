import RecordSql.Proofs.Rendering
import RecordSql.WhereScan
/-! # What statements bind

The bound values and raw fragments of a statement stand in its syntax in a definite order:
projection, source, conditions, HAVING, LIMIT and OFFSET for a selection; the cells row by
row and then the upsert for an insertion; the assignments and then the conditions for an
update. `Statement.bindings` reads that order off the statement alone.

`Binds pieces bs` says that pieces bring the bindings `bs` and that the texts between them
hold no question mark and no quote character. Every renderer writes its bindings in order
(`binds_render`), whatever the registry. -/
set_option autoImplicit false
namespace RecordSql

def Piece.isBinding : Piece → Bool
  | raw _ => true
  | bound _ => true
  | text _ => false
  | name _ => false

/-! ## Bindings of the syntax -/

mutual

def Expr.bindings : Expr → List Piece
  | .predicate p => p.bindings
  | .column _ => []
  | .value v => [.bound v]
  | .raw r => [.raw r]
  | .assignment _ _ => []

def Predicate.bindings : Predicate → List Piece
  | .compare _ _ right => right.bindings
  | .and left right => left.bindings ++ right.bindings
  | .or left right => left.bindings ++ right.bindings
  | .not p => p.bindings
  | .raw r => [.raw r]

end

def Source.bindings : Source → List Piece
  | .table _ => []
  | .join _ left right _ conditions =>
    left.bindings ++ (right.bindings ++ conditions.flatMap Predicate.bindings)

def Selectable.bindings : Selectable → List Piece
  | raw r => [.raw r]
  | column _ => []
  | aggregate _ => []

/-- What an item of an upsert binds: a bare column repeats the value of the insertion. -/
def Assignable.bindings : Assignable → List Piece
  | assignment a => a.value.bindings
  | column _ => []

def countBindings : Option UInt64 → List Piece
  | none => []
  | some n => [.bound (.uint n)]

def Select.bindings (s : Select) : List Piece :=
  s.projection.flatMap Selectable.bindings ++ ((s.source.elim [] Source.bindings) ++
    (s.conditions.flatMap Predicate.bindings ++ (s.having.flatMap Predicate.bindings ++
      (countBindings s.limit ++ countBindings s.offset))))

section Records

variable {e : Entity} (k : Materializer) (m : Model)

/-- What a record binds for a field; nothing where the field is not reached. -/
def fieldBindings (r : e.Record) (name : String) : List Piece :=
  match k.field m e r name with
  | .ok v => [.bound v]
  | .error _ => []

def Insert.fieldNames (s : Insert e) : List String :=
  match s.fields with
  | [] => m.fields.map MappedField.name
  | _ :: _ => s.fields

def Insert.bindings (s : Insert e) : List Piece :=
  s.records.flatMap (fun r => (s.fieldNames m).flatMap (fieldBindings k m r)) ++
    s.upsert.elim [] fun u => u.assignments.flatMap Assignable.bindings

/-- What an item of an update binds: a bare column takes its value from the record. -/
def Update.itemBindings (record : Option e.Record) : Assignable → List Piece
  | .assignment a => a.value.bindings
  | .column c => record.elim [] fun r => fieldBindings k m r c.name

/-- What the assignments of an update bind: those of the list, or all fields of the record. -/
def Update.assignmentBindings (s : Update e) : List Piece :=
  match s.assignments with
  | [] => s.record.elim [] fun r => (m.fields.map MappedField.name).flatMap (fieldBindings k m r)
  | _ :: _ => s.assignments.flatMap (Update.itemBindings k m s.record)

def Update.bindings (s : Update e) : List Piece :=
  s.assignmentBindings k m ++ s.conditions.flatMap Predicate.bindings

def Statement.bindings : Statement e → List Piece
  | .select s => s.bindings
  | .insert s => s.bindings k m
  | .update s => s.bindings k m
  | .delete s => s.conditions.flatMap Predicate.bindings
  | .raw r => [.raw r]

end Records

/-! ## Pieces and their bindings -/

/-- Text that is neither a placeholder nor quoted. -/
def IsPlain (s : String) : Prop := ∀ c ∈ s.toList, c ≠ '?' ∧ isQuoteChar c = false

instance (s : String) : Decidable (IsPlain s) :=
  List.decidableBAll (fun c => c ≠ '?' ∧ isQuoteChar c = false) s.toList

/-- Pieces that bring these bindings, with plain texts between them. -/
structure Binds (pieces bs : List Piece) : Prop where
  bindings : pieces.filter Piece.isBinding = bs
  plain : ∀ s, .text s ∈ pieces → IsPlain s

theorem binds_nil : Binds [] [] := ⟨rfl, by simp⟩

theorem Binds.append {front back bs cs : List Piece} (first : Binds front bs)
    (second : Binds back cs) : Binds (front ++ back) (bs ++ cs) := by
  refine ⟨by rw [List.filter_append, first.bindings, second.bindings], fun s member => ?_⟩
  rcases List.mem_append.mp member with found | found
  · exact first.plain s found
  · exact second.plain s found

namespace Render

variable {α β : Type} {m : Model} {bs cs : List Piece}

/-- A rendering whose every success brings these bindings. -/
def Binds (x : Render α) (m : Model) (bs : List Piece) : Prop :=
  ∀ r pieces after a, x.Yields m r pieces after a → RecordSql.Binds pieces bs

theorem binds_pure {a : α} : (pure a : Render α).Binds m [] := by
  intro r pieces after b run
  obtain ⟨rfl, -, -⟩ := yields_pure.mp run
  exact binds_nil

theorem binds_fail {e : Error} : (fail e : Render α).Binds m bs :=
  fun _ _ _ _ run => absurd run yields_fail

theorem binds_write {s : String} (plain : IsPlain s) : (write s).Binds m [] := by
  intro r pieces after a run
  obtain ⟨rfl, -⟩ := yields_write.mp run
  refine ⟨rfl, fun t member => ?_⟩
  rw [List.mem_singleton, Piece.text.injEq] at member
  exact member ▸ plain

theorem binds_quoted {s : String} : (quoted s).Binds m [] := by
  intro r pieces after a run
  obtain ⟨rfl, -⟩ := yields_quoted.mp run
  exact ⟨rfl, by simp⟩

theorem binds_bound {v : Value} : (bound v).Binds m [.bound v] := by
  intro r pieces after a run
  obtain ⟨rfl, -⟩ := yields_bound.mp run
  exact ⟨rfl, by simp⟩

theorem binds_raw {fragment : RawExpr} : (raw fragment).Binds m [.raw fragment] := by
  intro r pieces after a run
  obtain ⟨rfl, -⟩ := yields_raw.mp run
  exact ⟨rfl, by simp⟩

theorem binds_modelOf {e : Entity} : (modelOf e).Binds m [] := by
  intro r pieces after a run
  obtain ⟨rfl, -⟩ := yields_modelOf.mp run
  exact binds_nil

theorem binds_ofExcept {x : Except Error α} : (ofExcept x).Binds m [] := by
  intro r pieces after a run
  obtain ⟨rfl, -⟩ := yields_ofExcept.mp run
  exact binds_nil

theorem binds_ownColumn {field : String} : (ownColumn field).Binds m [] := by
  intro r pieces after a run
  obtain ⟨rfl, -⟩ := yields_ownColumn.mp run
  exact binds_nil

theorem Binds.bind {x : Render α} {f : α → Render β} (first : x.Binds m bs)
    (second : ∀ a, (f a).Binds m cs) : (x >>= f).Binds m (bs ++ cs) := by
  intro r pieces after b run
  obtain ⟨front, middle, a, back, runFirst, runSecond, rfl⟩ := yields_bind.mp run
  exact (first r front middle a runFirst).append (second a middle back after b runSecond)

/-- A rendering behind one that binds nothing. -/
theorem Binds.quietly {x : Render α} {f : α → Render β} (first : x.Binds m [])
    (second : ∀ a, (f a).Binds m bs) : (x >>= f).Binds m bs := first.bind second

/-- A rendering in front of one that binds nothing. -/
theorem Binds.andThen {x : Render α} {f : α → Render β} (first : x.Binds m bs)
    (second : ∀ a, (f a).Binds m []) : (x >>= f).Binds m bs := by
  have both := first.bind second
  rwa [List.append_nil] at both

theorem binds_ownModel_bind {f : Model → Render β} (next : (f m).Binds m bs) :
    (ownModel >>= f).Binds m bs := by
  intro r pieces after b run
  obtain ⟨_, _, _, back, first, second, rfl⟩ := yields_bind.mp run
  obtain ⟨rfl, rfl, rfl⟩ := yields_ownModel.mp first
  exact next _ _ _ _ second

theorem binds_ofExcept_bind {x : Except Error α} {f : α → Render β}
    (next : ∀ a, x = .ok a → (f a).Binds m bs) : (ofExcept x >>= f).Binds m bs := by
  intro r pieces after b run
  obtain ⟨_, _, a, back, first, second, rfl⟩ := yields_bind.mp run
  obtain ⟨rfl, rfl, found⟩ := yields_ofExcept.mp first
  exact next a found _ _ _ _ second

theorem binds_parenthesized {x : Render Unit} (inside : x.Binds m bs) :
    (parenthesized x).Binds m bs :=
  (binds_write (by decide)).quietly fun _ => inside.andThen fun _ => binds_write (by decide)

theorem binds_commaTail {item : α → Render Unit} {bindings : α → List Piece} {items : List α}
    (each : ∀ a ∈ items, (item a).Binds m (bindings a)) :
    (commaTail item items).Binds m (items.flatMap bindings) := by
  induction items with
  | nil => exact binds_pure
  | cons a rest ih =>
    have tail := ih fun b member => each b (List.mem_cons_of_mem a member)
    exact (binds_write (by decide)).quietly fun _ => (each a List.mem_cons_self).bind fun _ => tail

theorem binds_commaList {item : α → Render Unit} {bindings : α → List Piece} {items : List α}
    (each : ∀ a ∈ items, (item a).Binds m (bindings a)) :
    (commaList item items).Binds m (items.flatMap bindings) := by
  cases items with
  | nil => exact binds_pure
  | cons a rest =>
    have tail := binds_commaTail fun b member => each b (List.mem_cons_of_mem a member)
    exact (each a List.mem_cons_self).bind fun _ => tail

/-- A list of items that bind nothing. -/
theorem binds_commaList_nil {item : α → Render Unit} {items : List α}
    (each : ∀ a ∈ items, (item a).Binds m []) : (commaList item items).Binds m [] := by
  have none : items.flatMap (fun _ => ([] : List Piece)) = [] :=
    List.flatMap_eq_nil_iff.mpr fun _ _ => rfl
  rw [← none]
  exact binds_commaList each

end Render

end RecordSql
