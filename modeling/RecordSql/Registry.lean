import RecordSql.Model
/-! # The registry of models

The registry remembers every registration, the newest first. The model in force for an
entity is that of its newest registration; an entity without one is registered without
options when its model is first asked for. -/
set_option autoImplicit false
namespace RecordSql

structure Registration where
  entity : Nat
  typeName : String
  model : Model
  deriving DecidableEq

/-- The registrations, the newest first. -/
structure Registry where
  history : List Registration
  deriving DecidableEq

namespace Registry

def empty : Registry := ⟨[]⟩

/-- The model in force for the entity with this identity. -/
def find? (r : Registry) (identity : Nat) : Option Model :=
  (r.history.find? fun entry => entry.entity == identity).map Registration.model

def register (r : Registry) (e : Entity) (options : List ModelOption) :
    Except Error (Model × Registry) :=
  match Model.ofEntity e options with
  | .error err => .error err
  | .ok model => .ok (model, ⟨⟨e.identity, e.typeName, model⟩ :: r.history⟩)

/-- The model in force for the entity, which is registered if there is none. -/
def get (r : Registry) (e : Entity) : Except Error (Model × Registry) :=
  match r.find? e.identity with
  | some model => .ok (model, r)
  | none => r.register e []

def size (r : Registry) : Nat := (r.history.map Registration.entity).eraseDups.length

def isEmpty (r : Registry) : Bool := r.history.isEmpty

def serial? (r : Registry) (identity : Nat) : Option Nat :=
  (r.history.findIdx? fun entry => entry.entity == identity).map fun i => r.history.length - i

def since (r earlier : Registry) : List Registration :=
  (r.history.take (r.history.length - earlier.history.length)).reverse

theorem find?_register_self {r after : Registry} {e : Entity} {options : List ModelOption}
    {model : Model} (success : r.register e options = .ok (model, after)) :
    after.find? e.identity = some model := by
  unfold register at success
  split at success
  · simp at success
  · simp only [Except.ok.injEq, Prod.mk.injEq] at success
    obtain ⟨rfl, rfl⟩ := success
    simp [find?]

theorem find?_register_of_ne {r after : Registry} {e : Entity} {options : List ModelOption}
    {model : Model} {identity : Nat} (success : r.register e options = .ok (model, after))
    (distinct : identity ≠ e.identity) : after.find? identity = r.find? identity := by
  unfold register at success
  split at success
  · simp at success
  · simp only [Except.ok.injEq, Prod.mk.injEq] at success
    obtain ⟨rfl, rfl⟩ := success
    simp [find?, Ne.symm distinct]

end Registry

end RecordSql
