import RecordSql.Registry
import RecordSql.Render.Piece
/-! # Rendering

Rendering reads the model of the statement's own entity and a registry, writes pieces, and
may register entities on the way. It cannot see what was written before it. When it fails,
the pieces and registrations made until then remain. -/
set_option autoImplicit false
namespace RecordSql

/-- What a rendering leaves: the pieces it wrote, the registry, and its result. -/
structure Draft (α : Type) where
  pieces : List Piece
  registry : Registry
  result : Except Error α

/-- A rendering against the statement's own model. -/
def Render (α : Type) : Type := Model → Registry → Draft α

namespace Render

variable {α β γ : Type}

protected def pure (a : α) : Render α := fun _ registry => ⟨[], registry, .ok a⟩

protected def bind (x : Render α) (f : α → Render β) : Render β := fun model registry =>
  let first := x model registry
  match first.result with
  | .error e => ⟨first.pieces, first.registry, .error e⟩
  | .ok a =>
    let second := f a model first.registry
    ⟨first.pieces ++ second.pieces, second.registry, second.result⟩

instance : Monad Render where
  pure := Render.pure
  bind := Render.bind

theorem pure_bind (a : α) (f : α → Render β) : (pure a >>= f) = f a := by
  funext m r
  simp [bind, Render.bind, pure, Render.pure]

theorem bind_assoc (x : Render α) (f : α → Render β) (g : β → Render γ) :
    (x >>= f >>= g) = x >>= fun a => f a >>= g := by
  funext m r
  simp only [bind, Render.bind]
  cases first : (x m r).result with
  | error e => simp only
  | ok a =>
    cases second : (f a m (x m r).registry).result with
    | error e => simp only [second]
    | ok b => simp only [second, List.append_assoc]

def fail (e : Error) : Render α := fun _ registry => ⟨[], registry, .error e⟩

def ofExcept (x : Except Error α) : Render α := fun _ registry => ⟨[], registry, x⟩

def emit (piece : Piece) : Render Unit := fun _ registry => ⟨[piece], registry, .ok ()⟩

def write (s : String) : Render Unit := emit (.text s)

def quoted (s : String) : Render Unit := emit (.name s)

def bound (v : Value) : Render Unit := emit (.bound v)

def raw (r : RawExpr) : Render Unit := emit (.raw r)

def ownModel : Render Model := fun model registry => ⟨[], registry, .ok model⟩

/-- The model of an entity, which is registered if it has none. -/
def modelOf (e : Entity) : Render Model := fun _ registry =>
  match registry.get e with
  | .ok (model, after) => ⟨[], after, .ok model⟩
  | .error err => ⟨[], registry, .error err⟩

def ownColumn (field : String) : Render String := do
  let model ← ownModel
  ofExcept (model.columnOf field)

def parenthesized (x : Render Unit) : Render Unit := do
  write "("
  x
  write ")"

def commaTail (item : α → Render Unit) : List α → Render Unit
  | [] => pure ()
  | a :: rest => do
    write ","
    item a
    commaTail item rest

def commaList (item : α → Render Unit) : List α → Render Unit
  | [] => pure ()
  | a :: rest => do
    item a
    commaTail item rest

end Render

end RecordSql
