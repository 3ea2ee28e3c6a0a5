import Mathlib.Data.List.Range
import RecordSql.Middleware.Chain
/-! # Chains are nested

A layer is a middleware that calls the rest of the chain at most once. An execution passes
inwards through the layers as long as they call the rest, each with the execution that the
next one sees; the first layer that does not call it, or else the innermost step, gives the
inner result, which passes back through what the layers do afterwards. `Passage` says this
with positions, and `compose_eq_passage` that every chain of layers is run so, entering and
leaving each layer once. -/
set_option autoImplicit false
namespace RecordSql

variable {σ ρ τ : Type}

/-! ## Layers -/

/-- What a layer does with an execution: it answers, or it calls the rest of the chain and
makes its own result of what that gives. -/
inductive Move (σ ρ : Type)
  | answer (outcome : Outcome) (x : Execution σ ρ)
  | call (x : Execution σ ρ) (leave : Outcome × Execution σ ρ → Outcome × Execution σ ρ)

/-- A middleware that calls the rest of the chain at most once, by its moves. -/
structure Layer (σ : Type) : Type 1 where
  move : {ρ : Type} → Execution σ ρ → Move σ ρ

namespace Layer

def middleware (l : Layer σ) : Middleware σ where
  handle rest x :=
    match l.move x with
    | .answer outcome y => (outcome, y)
    | .call y leave => leave (rest y)

variable {l : Layer σ} {x y : Execution σ ρ} {outcome : Outcome}
  {leave : Outcome × Execution σ ρ → Outcome × Execution σ ρ}

theorem handle_of_answer (move : l.move x = .answer outcome y) (rest : Handler σ ρ) :
    l.middleware.handle rest x = (outcome, y) := by
  simp only [middleware, move]

theorem handle_of_call (move : l.move x = .call y leave) (rest : Handler σ ρ) :
    l.middleware.handle rest x = leave (rest y) := by
  simp only [middleware, move]

end Layer

/-- The middleware decides without the rest of the chain whether to call it and with which
execution; it sees no more of the rest than the result of that call. -/
def Middleware.CallsAtMostOnce (m : Middleware σ) : Prop :=
  ∀ (ρ : Type) (x : Execution σ ρ), (∃ r, ∀ rest, m.handle rest x = r) ∨
    ∃ (y : Execution σ ρ) (leave : Outcome × Execution σ ρ → Outcome × Execution σ ρ),
      ∀ rest, m.handle rest x = leave (rest y)

theorem Middleware.callsAtMostOnce_iff (m : Middleware σ) :
    m.CallsAtMostOnce ↔ ∃ l : Layer σ, l.middleware = m := by
  constructor
  · intro once
    have decided (ρ : Type) (x : Execution σ ρ) : ∃ move : Move σ ρ, ∀ rest,
        m.handle rest x = match move with
          | .answer outcome y => (outcome, y)
          | .call y leave => leave (rest y) := by
      rcases once ρ x with ⟨r, answered⟩ | ⟨y, leave, called⟩
      · exact ⟨.answer r.1 r.2, answered⟩
      · exact ⟨.call y leave, called⟩
    choose move handled using decided
    refine ⟨⟨fun {ρ} x => move ρ x⟩, ?_⟩
    obtain ⟨handle⟩ := m
    simp only [Layer.middleware, mk.injEq]
    funext ρ rest x
    exact (handled ρ x rest).symm
  · rintro ⟨l, rfl⟩ ρ x
    cases move : l.move x with
    | answer outcome y => exact .inl ⟨(outcome, y), l.handle_of_answer move⟩
    | call y leave => exact .inr ⟨y, leave, l.handle_of_call move⟩

/-! ## Passages -/

/-- How an execution passes through layers: `depth` of them call the rest of the chain. Layer
`i` sees `seen i`, and `leave i` is what it does afterwards. -/
structure Passage (layers : List (Layer σ)) (innermost : Handler σ ρ) (x : Execution σ ρ) where
  depth : Nat
  seen : Nat → Execution σ ρ
  leave : Nat → Outcome × Execution σ ρ → Outcome × Execution σ ρ
  inner : Outcome × Execution σ ρ
  depth_le : depth ≤ layers.length
  seen_zero : seen 0 = x
  calls : ∀ i : Fin layers.length, i.val < depth →
    layers[i].move (seen i) = .call (seen (i + 1)) (leave i)
  answers : ∀ i : Fin layers.length, i.val = depth →
    layers[i].move (seen i) = .answer inner.1 inner.2
  reaches : depth = layers.length → inner = innermost (seen depth)

namespace Passage

variable {l : Layer σ} {rest : List (Layer σ)} {innermost : Handler σ ρ} {x y : Execution σ ρ}

/-- The inner result, passed through what the layers do afterwards, the innermost first. -/
def result {layers : List (Layer σ)} (p : Passage layers innermost x) :
    Outcome × Execution σ ρ :=
  (List.range p.depth).foldr p.leave p.inner

def nil : Passage [] innermost x where
  depth := 0
  seen _ := x
  leave _ := id
  inner := innermost x
  depth_le := Nat.le_refl 0
  seen_zero := rfl
  calls i := i.elim0
  answers i := i.elim0
  reaches _ := rfl

def stop {outcome : Outcome} (move : l.move x = .answer outcome y) :
    Passage (l :: rest) innermost x where
  depth := 0
  seen _ := x
  leave _ := id
  inner := (outcome, y)
  depth_le := Nat.zero_le _
  seen_zero := rfl
  calls i inside := absurd inside (Nat.not_lt_zero i)
  answers i here := by
    obtain rfl : i = ⟨0, Nat.succ_pos _⟩ := Fin.ext here
    exact move
  reaches none := by simp at none

def cons {leave : Outcome × Execution σ ρ → Outcome × Execution σ ρ}
    (move : l.move x = .call y leave) (p : Passage rest innermost y) :
    Passage (l :: rest) innermost x where
  depth := p.depth + 1
  seen
    | 0 => x
    | i + 1 => p.seen i
  leave
    | 0 => leave
    | i + 1 => p.leave i
  inner := p.inner
  depth_le := Nat.succ_le_succ p.depth_le
  seen_zero := rfl
  calls i inside := by
    obtain ⟨i, bound⟩ := i
    cases i with
    | zero =>
      show l.move x = .call (p.seen 0) leave
      rw [p.seen_zero, move]
    | succ i => exact p.calls ⟨i, Nat.lt_of_succ_lt_succ bound⟩ (Nat.lt_of_succ_lt_succ inside)
  answers i here := by
    obtain ⟨i, bound⟩ := i
    cases i with
    | zero => simp at here
    | succ i => exact p.answers ⟨i, Nat.lt_of_succ_lt_succ bound⟩ (Nat.succ.inj here)
  reaches all := p.reaches (Nat.succ.inj all)

def of : (layers : List (Layer σ)) → (innermost : Handler σ ρ) → (x : Execution σ ρ) →
    Passage layers innermost x
  | [], _, _ => .nil
  | l :: rest, innermost, x =>
    match move : l.move x with
    | .answer _ _ => .stop move
    | .call y _ => .cons move (of rest innermost y)

theorem of_stop {outcome : Outcome} (move : l.move x = .answer outcome y) :
    Passage.of (l :: rest) innermost x = .stop move := by
  rw [of]
  split
  next o z same =>
    obtain ⟨rfl, rfl⟩ : o = outcome ∧ z = y := by simpa [same] using move
    rfl
  next same => simp [same] at move

theorem of_cons {leave : Outcome × Execution σ ρ → Outcome × Execution σ ρ}
    (move : l.move x = .call y leave) :
    Passage.of (l :: rest) innermost x = .cons move (.of rest innermost y) := by
  rw [of]
  split
  next same => simp [same] at move
  next z after same =>
    obtain ⟨rfl, rfl⟩ : z = y ∧ after = leave := by simpa [same] using move
    rfl

theorem result_cons {leave : Outcome × Execution σ ρ → Outcome × Execution σ ρ}
    (move : l.move x = .call y leave) (p : Passage rest innermost y) :
    (p.cons move).result = leave p.result := by
  rw [result, result, cons, List.range_succ_eq_map, List.foldr_cons, List.foldr_map]

end Passage

/-! ## Watching a chain -/

def Buildable.beside (b : Buildable σ) : Buildable (σ × τ) where
  build s :=
    let (result, after) := b.build s.1
    (result, after, s.2)
  hasWhere := b.hasWhere

def Buildable.alone (b : Buildable (σ × τ)) (t : τ) : Buildable σ where
  build s :=
    let (result, after) := b.build (s, t)
    (result, after.1)
  hasWhere := b.hasWhere

namespace Execution

def beside (x : Execution σ ρ) (t : τ) : Execution (σ × τ) ρ :=
  ⟨x.queryType, x.buildable.beside, x.model, x.query, (x.state, t), x.slot⟩

def alone (x : Execution (σ × τ) ρ) : Execution σ ρ :=
  ⟨x.queryType, x.buildable.alone x.state.2, x.model, x.query, x.state.1, x.slot⟩

@[simp] theorem alone_beside (x : Execution σ ρ) (t : τ) : (x.beside t).alone = x := rfl

end Execution

/-- A step of a chain is entered or left. -/
inductive Mark
  | entered (index : Nat)
  | left (index : Nat)
  deriving DecidableEq

/-- A step that keeps a journal of its passing beside the state. -/
def Handler.watched (i : Nat) (h : Handler σ ρ) : Handler (σ × List Mark) ρ := fun x =>
  let (outcome, y) := h x.alone
  (outcome, y.beside (x.state.2 ++ [.entered i, .left i]))

def Layer.watched (i : Nat) (l : Layer σ) : Layer (σ × List Mark) where
  move x :=
    match l.move x.alone with
    | .answer outcome y => .answer outcome (y.beside (x.state.2 ++ [.entered i, .left i]))
    | .call y leave => .call (y.beside (x.state.2 ++ [.entered i])) fun result =>
        let (outcome, after) := leave (result.1, result.2.alone)
        (outcome, after.beside (result.2.state.2 ++ [.left i]))

/-- The chain of the layers where each keeps the journal under its position. -/
def watchedFrom (first : Nat) (layers : List (Layer σ)) : List (Middleware (σ × List Mark)) :=
  (layers.zipIdx first).map fun entry => (entry.1.watched entry.2).middleware

theorem watchedFrom_cons (first : Nat) (l : Layer σ) (rest : List (Layer σ)) :
    watchedFrom first (l :: rest) =
      (l.watched first).middleware :: watchedFrom (first + 1) rest := by
  rw [watchedFrom, List.zipIdx_cons, List.map_cons, watchedFrom]

/-- The journal of a passage: positions in order, then in reverse. -/
def journal (first depth : Nat) : List Mark :=
  (List.range' first (depth + 1)).map .entered ++ (List.range' first (depth + 1)).reverse.map .left

theorem journal_succ (first depth : Nat) :
    journal first (depth + 1) = .entered first :: journal (first + 1) depth ++ [.left first] := by
  simp [journal, List.range'_succ]

example : journal 0 2 =
    [.entered 0, .entered 1, .entered 2, .left 2, .left 1, .left 0] := by decide

theorem compose_eq_result (layers : List (Layer σ)) (innermost : Handler σ ρ)
    (x : Execution σ ρ) :
    compose (layers.map Layer.middleware) innermost x = (Passage.of layers innermost x).result := by
  induction layers generalizing x with
  | nil => rfl
  | cons l rest ih =>
    rw [List.map_cons, compose_cons]
    cases move : l.move x with
    | answer outcome y =>
      rw [l.handle_of_answer move, Passage.of_stop move]
      rfl
    | call y leave => rw [l.handle_of_call move, ih y, Passage.of_cons move, Passage.result_cons]

/-- Watching changes nothing but the journal. -/
theorem compose_watchedFrom (layers : List (Layer σ)) (innermost : Handler σ ρ)
    (x : Execution σ ρ) (first : Nat) (before : List Mark) :
    compose (watchedFrom first layers) (innermost.watched (first + layers.length))
        (x.beside before) =
      ((Passage.of layers innermost x).result.1, (Passage.of layers innermost x).result.2.beside
        (before ++ journal first (Passage.of layers innermost x).depth)) := by
  induction layers generalizing x first before with
  | nil => rfl
  | cons l rest ih =>
    rw [watchedFrom_cons, compose_cons]
    cases move : l.move x with
    | answer outcome y =>
      have watched : (l.watched first).move (x.beside before) =
          .answer outcome (y.beside (before ++ [.entered first, .left first])) := by
        simp only [Layer.watched, Execution.alone_beside, move]
        rfl
      rw [(l.watched first).handle_of_answer watched, Passage.of_stop move]
      rfl
    | call y leave =>
      have watched : (l.watched first).move (x.beside before) =
          .call (y.beside (before ++ [.entered first])) fun result =>
            let (outcome, after) := leave (result.1, result.2.alone)
            (outcome, after.beside (result.2.state.2 ++ [.left first])) := by
        simp only [Layer.watched, Execution.alone_beside, move]
        rfl
      have last : first + (l :: rest).length = first + 1 + rest.length := by
        rw [List.length_cons]
        omega
      -- The layer's own marks go around those of the rest.
      have marks (depth : Nat) :
          before ++ [.entered first] ++ journal (first + 1) depth ++ [.left first] =
            before ++ journal first (depth + 1) := by
        rw [journal_succ]
        simp
      rw [(l.watched first).handle_of_call watched, last, ih, Passage.of_cons move,
        Passage.result_cons, Passage.cons, ← marks]
      rfl

/-- Middlewares that call the rest at most once are layers, and a chain of layers is a passage:
the layers up to the first that answers are entered in order, each with the execution that the
one before hands over; then the innermost step, if all layers call it; and all are left in
reverse order, with the inner result passed outwards. In the journal the innermost step has the
position behind the last layer. -/
theorem compose_eq_passage :
    (∀ m : Middleware σ, m.CallsAtMostOnce ↔ ∃ l : Layer σ, l.middleware = m) ∧
      ∀ (layers : List (Layer σ)) (innermost : Handler σ ρ) (x : Execution σ ρ),
        ∃ p : Passage layers innermost x,
          compose (layers.map Layer.middleware) innermost x = p.result ∧
            compose (watchedFrom 0 layers) (innermost.watched layers.length) (x.beside []) =
              (p.result.1, p.result.2.beside (journal 0 p.depth)) := by
  refine ⟨Middleware.callsAtMostOnce_iff, fun layers innermost x => ?_⟩
  have watched := compose_watchedFrom layers innermost x 0 []
  rw [Nat.zero_add, List.nil_append] at watched
  exact ⟨.of layers innermost x, compose_eq_result layers innermost x, watched⟩

end RecordSql
