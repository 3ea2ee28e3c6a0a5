import RecordSql.Statement.Render
/-! # Successful renderings

`x.Yields m r pieces after a` says that the rendering `x` succeeds against the model `m` and
the registry `r`: it writes `pieces`, leaves the registry `after` and gives `a`. There is one
inversion for each way to put a rendering together, and none of them looks at what was
written before. -/
set_option autoImplicit false
namespace RecordSql

namespace Render

variable {α β : Type} {m : Model} {r after : Registry} {pieces : List Piece}

/-- A rendering that succeeds, and all it leaves. -/
def Yields (x : Render α) (m : Model) (r : Registry) (pieces : List Piece) (after : Registry)
    (a : α) : Prop :=
  x m r = ⟨pieces, after, .ok a⟩

theorem yields_pure {a b : α} :
    (pure a : Render α).Yields m r pieces after b ↔ pieces = [] ∧ after = r ∧ b = a := by
  simp only [Yields, pure, Render.pure, Draft.mk.injEq, Except.ok.injEq]
  constructor <;> rintro ⟨rfl, rfl, rfl⟩ <;> exact ⟨rfl, rfl, rfl⟩

/-- A rendering and the next: what they write stands side by side, and the second one starts
from the registry that the first one leaves. -/
theorem yields_bind {x : Render α} {f : α → Render β} {b : β} :
    (x >>= f).Yields m r pieces after b ↔
      ∃ front middle a back, x.Yields m r front middle a ∧ (f a).Yields m middle back after b ∧
        pieces = front ++ back := by
  simp only [Yields, bind, Render.bind]
  constructor
  · intro run
    rcases first : x m r with ⟨front, middle, result⟩
    rw [first] at run
    cases result with
    | error e => simp at run
    | ok a =>
      rcases second : f a m middle with ⟨back, last, outcome⟩
      simp only [second, Draft.mk.injEq] at run
      obtain ⟨rfl, rfl, rfl⟩ := run
      exact ⟨front, middle, a, back, rfl, second, rfl⟩
  · rintro ⟨front, middle, a, back, first, second, rfl⟩
    simp only [first, second]

theorem Yields.bind {x : Render α} {f : α → Render β} {front back : List Piece} {middle : Registry}
    {a : α} {b : β} (first : x.Yields m r front middle a)
    (second : (f a).Yields m middle back after b) : (x >>= f).Yields m r (front ++ back) after b :=
  yields_bind.mpr ⟨front, middle, a, back, first, second, rfl⟩

theorem yields_fail {e : Error} {a : α} : ¬ (fail e : Render α).Yields m r pieces after a := by
  simp [Yields, fail]

theorem yields_ofExcept {x : Except Error α} {a : α} :
    (ofExcept x).Yields m r pieces after a ↔ pieces = [] ∧ after = r ∧ x = .ok a := by
  simp only [Yields, ofExcept, Draft.mk.injEq]
  constructor <;> rintro ⟨rfl, rfl, rfl⟩ <;> exact ⟨rfl, rfl, rfl⟩

theorem yields_emit {piece : Piece} {a : Unit} :
    (emit piece).Yields m r pieces after a ↔ pieces = [piece] ∧ after = r := by
  simp only [Yields, emit, Draft.mk.injEq, and_true]
  constructor <;> rintro ⟨rfl, rfl⟩ <;> exact ⟨rfl, rfl⟩

theorem yields_write {s : String} {a : Unit} :
    (write s).Yields m r pieces after a ↔ pieces = [.text s] ∧ after = r := yields_emit

theorem yields_quoted {s : String} {a : Unit} :
    (quoted s).Yields m r pieces after a ↔ pieces = [.name s] ∧ after = r := yields_emit

theorem yields_bound {v : Value} {a : Unit} :
    (bound v).Yields m r pieces after a ↔ pieces = [.bound v] ∧ after = r := yields_emit

theorem yields_raw {fragment : RawExpr} {a : Unit} :
    (raw fragment).Yields m r pieces after a ↔ pieces = [.raw fragment] ∧ after = r := yields_emit

theorem yields_ownModel {a : Model} :
    ownModel.Yields m r pieces after a ↔ pieces = [] ∧ after = r ∧ a = m := by
  simp only [Yields, ownModel, Draft.mk.injEq, Except.ok.injEq]
  constructor <;> rintro ⟨rfl, rfl, rfl⟩ <;> exact ⟨rfl, rfl, rfl⟩

theorem yields_modelOf {e : Entity} {a : Model} :
    (modelOf e).Yields m r pieces after a ↔ pieces = [] ∧ r.get e = .ok (a, after) := by
  simp only [Yields, modelOf]
  split
  next model known found =>
    simp only [found, Draft.mk.injEq, Except.ok.injEq, Prod.mk.injEq]
    constructor <;> rintro ⟨rfl, rfl, rfl⟩ <;> exact ⟨rfl, rfl, rfl⟩
  next err failed => simp [failed]

theorem yields_ownColumn {field column : String} :
    (ownColumn field).Yields m r pieces after column ↔
      pieces = [] ∧ after = r ∧ m.columnOf field = .ok column := by
  simp only [ownColumn, yields_bind, yields_ownModel, yields_ofExcept]
  constructor
  · rintro ⟨_, _, _, _, ⟨rfl, rfl, rfl⟩, ⟨rfl, rfl, found⟩, rfl⟩
    exact ⟨rfl, rfl, found⟩
  · rintro ⟨rfl, rfl, found⟩
    exact ⟨[], after, m, [], ⟨rfl, rfl, rfl⟩, ⟨rfl, rfl, found⟩, rfl⟩

theorem yields_parenthesized {x : Render Unit} {a : Unit} :
    (parenthesized x).Yields m r pieces after a ↔
      ∃ inner, x.Yields m r inner after () ∧ pieces = .text "(" :: inner ++ [.text ")"] := by
  simp only [parenthesized, yields_bind, yields_write]
  constructor
  · rintro ⟨_, _, _, _, ⟨rfl, rfl⟩, ⟨inner, _, _, _, run, ⟨rfl, rfl⟩, rfl⟩, rfl⟩
    exact ⟨inner, run, rfl⟩
  · rintro ⟨inner, run, rfl⟩
    exact ⟨_, r, (), _, ⟨rfl, rfl⟩, ⟨inner, after, (), _, run, ⟨rfl, rfl⟩, rfl⟩, rfl⟩

theorem Yields.parenthesized {x : Render Unit} {inner : List Piece}
    (inside : x.Yields m r inner after ()) :
    (parenthesized x).Yields m r (.text "(" :: inner ++ [.text ")"]) after () :=
  yields_parenthesized.mpr ⟨inner, inside, rfl⟩

theorem commaTail_map {item : β → Render Unit} {f : α → β} {items : List α} :
    commaTail item (items.map f) = commaTail (fun a => item (f a)) items := by
  induction items with
  | nil => rfl
  | cons a rest ih => rw [List.map_cons, commaTail, commaTail, ih]

theorem commaList_map {item : β → Render Unit} {f : α → β} {items : List α} :
    commaList item (items.map f) = commaList (fun a => item (f a)) items := by
  cases items with
  | nil => rfl
  | cons a rest => rw [List.map_cons, commaList, commaList, commaTail_map]

theorem yields_commaTail {item : α → Render Unit} {print : α → List Piece} {items : List α}
    (each : ∀ a ∈ items, (item a).Yields m r (print a) r ()) :
    (commaTail item items).Yields m r (items.flatMap fun a => .text "," :: print a) r () := by
  induction items with
  | nil => exact yields_pure.mpr ⟨rfl, rfl, rfl⟩
  | cons a rest ih =>
    have head := each a List.mem_cons_self
    have tail := ih fun b member => each b (List.mem_cons_of_mem a member)
    have comma : (write ",").Yields m r [.text ","] r () := rfl
    exact comma.bind (head.bind tail)

theorem intercalate_cons (separator part : List Piece) (parts : List (List Piece)) :
    separator.intercalate (part :: parts) = part ++ parts.flatMap (separator ++ ·) := by
  induction parts generalizing part with
  | nil => simp
  | cons next rest ih =>
    rw [List.intercalate_cons_cons, ih, List.flatMap_cons, List.append_assoc, List.append_assoc]

/-- Items that leave the registry alone are written with commas between them. -/
theorem yields_commaList {item : α → Render Unit} {print : α → List Piece} {items : List α}
    (each : ∀ a ∈ items, (item a).Yields m r (print a) r ()) :
    (commaList item items).Yields m r ([Piece.text ","].intercalate (items.map print)) r () := by
  cases items with
  | nil => exact yields_pure.mpr ⟨rfl, rfl, rfl⟩
  | cons a rest =>
    have head := each a List.mem_cons_self
    have tail := yields_commaTail fun b member => each b (List.mem_cons_of_mem a member)
    rw [List.map_cons, intercalate_cons, List.flatMap_map]
    exact head.bind tail

end Render

/-! ## Built statements -/

namespace Statement

variable {e : Entity} {style : Style} {registry : Registry} {s : Statement e}

/-- A statement that builds is written by a draft that succeeds. -/
theorem build_eq_ok {q : Query} (built : (s.build style registry).result = .ok q) :
    (s.draft style registry).result = .ok () ∧
      q = .ofPieces style.dialect.quote (s.draft style registry).pieces := by
  simp only [build] at built
  cases outcome : (s.draft style registry).result with
  | error err => simp [outcome, Except.map] at built
  | ok u =>
    simp only [outcome, Except.map, Except.ok.injEq] at built
    exact ⟨rfl, built.symm⟩

/-- The draft of a statement that is not raw is the rendering against the model of its own
entity, and a semicolon. -/
theorem yields_of_draft (written : s.queryType ≠ .raw)
    (success : (s.draft style registry).result = .ok ()) :
    ∃ model middle body after, registry.get e = .ok (model, middle) ∧
      (s.render style).Yields model middle body after () ∧
      (s.draft style registry).pieces = body ++ [.text ";"] := by
  have drafted : s.draft style registry =
      draftFor e (do s.render style; Render.write ";") registry := by
    unfold draft at success ⊢
    split
    next => exact absurd rfl written
    next => simp at success
    next => rfl
  rw [drafted] at success ⊢
  unfold draftFor at success ⊢
  split at success
  next => simp at success
  next model middle found =>
    rcases run : (do s.render style; Render.write ";" : Render Unit) model middle with
      ⟨pieces, after, result⟩
    rw [run] at success
    obtain rfl : result = .ok () := success
    obtain ⟨body, last, u, tail, first, second, rfl⟩ := Render.yields_bind.mp run
    obtain ⟨rfl, -⟩ := Render.yields_write.mp second
    exact ⟨model, middle, body, last, found, first, rfl⟩

end Statement

def account : Entity :=
  .derived 0 "Account" "" [⟨"id", .scalar .int64, ""⟩, ⟨"owner", .scalar .int64, ""⟩]

end RecordSql
