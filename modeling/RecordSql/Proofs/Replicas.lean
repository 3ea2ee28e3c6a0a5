import Mathlib.Data.Int.CardIntervalMod
import RecordSql.Proofs.Courses
import RecordSql.Proofs.Transparency
import RecordSql.Session.Replicas
/-! # Replicas take turns

Every call that reaches a primary with replicas is one dispatch: it goes to one database, and a
fetch takes a turn. The ledger of the turn and of the calls so far is a view that building and
middlewares leave alone, so a statement dispatches the calls of its innermost step and nothing
else, and a run of statements is a sequence of dispatches. What a dispatch preserves then says
where every call of a run went. -/
set_option autoImplicit false
namespace RecordSql

variable {ω ρ τ : Type} {e : Entity}

/-! ## Calls of the innermost step -/

/-- The calls that the innermost step makes of an execution: one, or none if there is no
query. -/
def Execution.calls (fetches : Bool) (x : Execution (World ω) ρ) : List Call :=
  match x.buildQuery.1 with
  | .ok q => [⟨fetches, q⟩]
  | .error _ => []

theorem Handler.changes_ofQuery {view : World ω → τ} {change : τ → Call → τ} {fetches : Bool}
    {next : Query → Handler (World ω) ρ}
    (step : ∀ q, (next q).Changes view fun t _ => change t ⟨fetches, q⟩) :
    (Handler.ofQuery next).Changes view fun t x => (x.calls fetches).foldl change t := by
  intro t x shows'
  have asked := shows'.buildQuery
  simp only [Handler.ofQuery, Execution.calls]
  rcases built : x.buildQuery with ⟨result, y⟩
  rw [built] at asked
  cases result with
  | error err => exact asked
  | ok q => exact step q t y asked

namespace Session

variable {view : ω → τ} {change : τ → Call → τ} {s : Session ω}

theorem changes_fetchQuery {q : Query}
    (called : ∀ b, view (s.executor.query q b).backend = change (view b) ⟨true, q⟩)
    (e : Entity) (mode : FetchMode) :
    (s.fetchQuery e mode q).Changes (fun w => view w.backend) fun t _ => change t ⟨true, q⟩ := by
  intro t x shows'
  have state : view (s.executor.runQuery q x.state).2.backend = change t ⟨true, q⟩ := by
    rw [← shows'.state]
    exact called x.state.backend
  rw [fetchQuery]
  rcases run : s.executor.runQuery q x.state with ⟨answer, world⟩
  rw [run] at state
  cases answer with
  | error err => exact ⟨state, shows'.buildable⟩
  | ok rows =>
    dsimp only
    split
    next => exact ⟨state, shows'.buildable⟩
    next => exact ⟨state, shows'.buildable⟩

/-- If a call of the executor changes the view in some way, a statement changes it as the calls
of its innermost step do. -/
theorem changes_innermost (e : Entity) (k : Request)
    (called : ∀ q b, view (s.executor.after k.fetches q b) = change (view b) ⟨k.fetches, q⟩) :
    (s.innermost e k).Changes (fun w => view w.backend) fun t x =>
      (x.calls k.fetches).foldl change t := by
  cases k with
  | get =>
    rw [innermost, fetchStep_eq]
    exact Handler.changes_ofQuery fun q => changes_fetchQuery (called q) e .one
  | getMulti =>
    rw [innermost, fetchStep_eq]
    exact Handler.changes_ofQuery fun q => changes_fetchQuery (called q) e .all
  | exec =>
    rw [innermost, commandStep_eq]
    refine Handler.changes_ofQuery fun q t x shows' => ⟨?_, shows'.buildable⟩
    rw [← shows'.state]
    exact called q x.state.backend

end Session

/-! ## Tasks -/

/-- A statement, the session that runs it and what the caller asks for. The middlewares leave
alone what the view shows of the databases. -/
structure Task (view : ω → τ) : Type 1 where
  style : Style
  chain : List (Bystander fun w : World ω => view w.backend)
  entity : Entity
  statement : Statement entity
  request : Request

namespace Task

variable {view : ω → τ}

def session (task : Task view) (x : Executor ω) : Session ω :=
  ⟨⟨task.style, task.chain.map Bystander.middleware⟩, x⟩

def perform (x : Executor ω) (w : World ω) (task : Task view) : World ω :=
  ((task.session x).perform task.statement task.request w).2

/-- The executions with which the innermost step of the session is reached: none if there is no
model or a middleware answers. -/
def visits (x : Executor ω) (w : World ω) (task : Task view) :
    List (Execution (World ω) (task.request.Slot task.entity)) :=
  match w.modelOf task.entity with
  | (.error _, _) => []
  | (.ok model, w) =>
    Bystander.visits ((task.session x).innermost task.entity task.request) task.chain
      (.start task.statement.queryType (.ofStatement task.style task.statement) model w
        task.request.slot)

def calls (x : Executor ω) (w : World ω) (task : Task view) : List Call :=
  (task.visits x w).flatMap (Execution.calls task.request.fetches)

def allCalls (x : Executor ω) : World ω → List (Task view) → List Call
  | _, [] => []
  | w, task :: rest => task.calls x w ++ allCalls x (task.perform x w) rest

theorem view_perform {x : Executor ω} {change : τ → Call → τ}
    (called : ∀ fetches q b, view (x.after fetches q b) = change (view b) ⟨fetches, q⟩)
    (task : Task view) (w : World ω) :
    view (task.perform x w).backend = (task.calls x w).foldl change (view w.backend) := by
  rw [perform, Session.perform_eq, Session.run, calls, visits]
  cases got : w.registry.get task.entity with
  | error err =>
    simp only [World.modelOf, got]
    rfl
  | ok found =>
    obtain ⟨model, registry⟩ := found
    simp only [World.modelOf, got]
    let start : Execution (World ω) (task.request.Slot task.entity) :=
      .start task.statement.queryType (.ofStatement task.style task.statement) model
        (w.adoptRegistry registry) task.request.slot
    have shows' : start.Shows (fun w => view w.backend) (view w.backend) :=
      ⟨congrArg view (w.adoptRegistry_eq registry).2,
        Buildable.leaves_ofStatement view task.style task.statement⟩
    have step := Bystander.changes_compose ((task.session x).changes_innermost task.entity
      task.request (called task.request.fetches)) task.chain
    rw [List.foldl_flatMap]
    exact (step _ start shows').state

theorem view_foldl_perform {x : Executor ω} {change : τ → Call → τ}
    (called : ∀ fetches q b, view (x.after fetches q b) = change (view b) ⟨fetches, q⟩)
    (tasks : List (Task view)) (w : World ω) :
    view (tasks.foldl (perform x) w).backend =
      (allCalls x w tasks).foldl change (view w.backend) := by
  induction tasks generalizing w with
  | nil => rfl
  | cons task rest ih =>
    rw [List.foldl_cons, ih, view_perform called, allCalls, List.foldl_append]

end Task

/-! ## Dispatches -/

inductive Receiver
  | primary
  | replica (index : Nat)
  deriving DecidableEq

structure Delivery where
  receiver : Receiver
  call : Call
  deriving DecidableEq

def Executor.tracked (x : Executor ω) (receiver : Receiver) : Executor (ω × List Delivery) where
  query q b :=
    let reply := x.query q b.1
    ⟨reply.result, reply.notices, reply.elapsed, reply.backend, b.2 ++ [⟨receiver, true, q⟩]⟩
  execute q b :=
    let reply := x.execute q b.1
    ⟨reply.result, reply.notices, reply.elapsed, reply.backend, b.2 ++ [⟨receiver, false, q⟩]⟩

def trackedReplicas (primary : Executor ω) (replicas : List (Executor ω)) :
    Executor (Rotation (ω × List Delivery)) :=
  replicated (primary.tracked .primary)
    (replicas.zipIdx.map fun (x, i) => x.tracked (.replica i))

/-- The turn, and the calls that the databases got so far. -/
structure Ledger where
  turn : UInt64
  received : List Delivery

def Rotation.ledger (r : Rotation (ω × List Delivery)) : Ledger := ⟨r.turn, r.backend.2⟩

/-- One call: a fetch goes to the replica whose turn it is, if there are any, and everything else
to the primary. -/
def Ledger.dispatch (count : Nat) (l : Ledger) (call : Call) : Ledger :=
  if call.fetches = true ∧ 0 < count then
    ⟨l.turn + 1, l.received ++ [⟨.replica (l.turn.toNat % count), call⟩]⟩
  else ⟨l.turn, l.received ++ [⟨.primary, call⟩]⟩

theorem readerAt?_tracked (replicas : List (Executor ω)) (turn : UInt64) :
    readerAt? (replicas.zipIdx.map fun (x, i) => x.tracked (.replica i)) turn =
      replicas[turn.toNat % replicas.length]?.map fun x =>
        x.tracked (.replica (turn.toNat % replicas.length)) := by
  simp only [readerAt?, List.length_map, List.length_zipIdx, List.getElem?_map,
    List.getElem?_zipIdx, Option.map_map, Nat.zero_add]
  rfl

/-- A call of a primary with replicas is one dispatch. -/
theorem ledger_after (primary : Executor ω) (replicas : List (Executor ω)) (fetches : Bool)
    (q : Query) (r : Rotation (ω × List Delivery)) :
    ((trackedReplicas primary replicas).after fetches q r).ledger =
      r.ledger.dispatch replicas.length ⟨fetches, q⟩ := by
  cases fetches with
  | false => rfl
  | true =>
    simp only [Executor.after, if_true, trackedReplicas, replicated, readerAt?_tracked,
      Ledger.dispatch, true_and]
    by_cases some : 0 < replicas.length
    · rw [if_pos some, List.getElem?_eq_getElem (Nat.mod_lt _ some)]
      rfl
    · rw [if_neg some, List.getElem?_eq_none (by omega)]
      rfl

namespace Ledger

/-! ## What dispatches preserve -/

def fetched (received : List Delivery) : List Delivery := received.filter (·.call.fetches)

theorem fetched_append (received : List Delivery) (receiver : Receiver) (call : Call) :
    fetched (received ++ [⟨receiver, call⟩]) =
      fetched received ++ if call.fetches = true then [⟨receiver, call⟩] else [] := by
  rw [fetched, List.filter_append, List.filter_singleton, Bool.cond_eq_ite]
  rfl

def turns (count fetches : Nat) : List Receiver :=
  (List.range fetches).map fun j => .replica ((UInt64.ofNat j).toNat % count)

theorem turns_succ (count fetches : Nat) : turns count (fetches + 1) =
    turns count fetches ++ [.replica ((UInt64.ofNat fetches).toNat % count)] := by
  rw [turns, List.range_succ, List.map_append, turns, List.map_singleton]

/-- Commands went to the primary, and fetches to the replicas in turn; the turn is the number of
fetches. Without replicas everything went to the primary. -/
structure Fair (count : Nat) (l : Ledger) : Prop where
  commands : ∀ d ∈ l.received, d.call.fetches = false → d.receiver = .primary
  alone : count = 0 → ∀ d ∈ l.received, d.receiver = .primary
  turn : 0 < count → l.turn = .ofNat (fetched l.received).length
  turns : 0 < count →
    (fetched l.received).map Delivery.receiver = turns count (fetched l.received).length

theorem fair_start (count : Nat) : Fair count ⟨0, []⟩ := by
  constructor <;> simp [fetched, Ledger.turns]

theorem Fair.dispatch {count : Nat} {l : Ledger} (fair : l.Fair count) (call : Call) :
    (l.dispatch count call).Fair count := by
  -- Only a fetch with replicas takes a turn; any other call adds nothing to the fetches.
  by_cases rotates : call.fetches = true ∧ 0 < count
  · obtain ⟨fetches, some⟩ := rotates
    have grown := fetched_append l.received (.replica (l.turn.toNat % count)) call
    rw [if_pos fetches] at grown
    rw [Ledger.dispatch, if_pos ⟨fetches, some⟩]
    refine ⟨?_, fun none => ?_, fun _ => ?_, fun _ => ?_⟩
    · exact List.forall_mem_append.mpr ⟨fair.commands, by simp [fetches]⟩
    · omega
    · rw [grown, fair.turn some, List.length_append, List.length_singleton, UInt64.ofNat_add]
      rfl
    · rw [grown, List.map_append, fair.turns some, List.length_append, List.length_singleton,
        turns_succ, fair.turn some, List.map_singleton]
  · rw [Ledger.dispatch, if_neg rotates]
    refine ⟨?_, fun none => ?_, fun some => ?_, fun some => ?_⟩
    · exact List.forall_mem_append.mpr ⟨fair.commands, by simp⟩
    · exact List.forall_mem_append.mpr ⟨fair.alone none, by simp⟩
    all_goals
      have command : ¬ call.fetches = true := fun fetches => rotates ⟨fetches, some⟩
      rw [fetched_append, if_neg command, List.append_nil]
    · exact fair.turn some
    · exact fair.turns some

theorem Fair.foldl_dispatch {count : Nat} {l : Ledger} (fair : l.Fair count)
    (calls : List Call) : (calls.foldl (Ledger.dispatch count) l).Fair count := by
  induction calls generalizing l with
  | nil => exact fair
  | cons call rest ih => exact ih (fair.dispatch call)

/-- Every call is recorded once, in order. -/
theorem map_call_foldl_dispatch (count : Nat) (calls : List Call) (l : Ledger) :
    (calls.foldl (dispatch count) l).received.map Delivery.call =
      l.received.map Delivery.call ++ calls := by
  induction calls generalizing l with
  | nil => rw [List.foldl_nil, List.append_nil]
  | cons call rest ih =>
    have once : (l.dispatch count call).received.map Delivery.call =
        l.received.map Delivery.call ++ [call] := by
      rw [dispatch]
      split <;> rw [List.map_append, List.map_singleton]
    rw [List.foldl_cons, ih, once, List.append_assoc, List.singleton_append]

/-! ## Counting turns -/

/-- The turn does not start again before the `2 ^ 64`th fetch. -/
theorem turns_eq {fetches : Nat} (bound : fetches ≤ 2 ^ 64) (count : Nat) :
    turns count fetches = (List.range fetches).map fun j => .replica (j % count) := by
  refine List.map_congr_left fun j inside => ?_
  have below := List.mem_range.mp inside
  rw [UInt64.toNat_ofNat_of_lt' (by rw [UInt64.size]; omega)]

theorem count_turns {count fetches : Nat} (some : 0 < count) (bound : fetches ≤ 2 ^ 64)
    {a : Nat} (replica : a < count) : (turns count fetches).count (.replica a) =
      fetches / count + if a < fetches % count then 1 else 0 := by
  have counted : (turns count fetches).count (.replica a) =
      fetches.count (· ≡ a [MOD count]) := by
    rw [turns_eq bound, List.count, List.countP_map, Nat.count]
    refine List.countP_congr fun j _ => ?_
    simp [Nat.ModEq, Nat.mod_eq_of_lt replica]
  rw [counted, Nat.count_modEq_card _ some, Nat.mod_eq_of_lt replica]

theorem Fair.receiver_fetched {count : Nat} {l : Ledger} (fair : l.Fair count) (some : 0 < count)
    (bound : (fetched l.received).length ≤ 2 ^ 64) {j : Nat}
    (inside : j < (fetched l.received).length) :
    (fetched l.received)[j].receiver = .replica (j % count) := by
  have order := fair.turns some
  rw [turns_eq bound] at order
  have here := congrArg (·[j]?) order
  simpa [inside] using here

/-- In every earlier record two replicas differ by at most one. -/
theorem Fair.count_le {count : Nat} {l : Ledger} (fair : l.Fair count)
    (bound : (fetched l.received).length ≤ 2 ^ 64) {before : List Delivery}
    (earlier : before <+: l.received) {a b : Nat} (first : a < count) (second : b < count) :
    (before.map Delivery.receiver).count (.replica a) ≤
      (before.map Delivery.receiver).count (.replica b) + 1 := by
  have some : 0 < count := by omega
  have fewer : fetched before <+: fetched l.received := earlier.filter _
  -- The fetches so far took the first turns.
  have taken : (fetched before).map Delivery.receiver =
      Ledger.turns count (fetched before).length := by
    have receivers := fewer.map Delivery.receiver
    rw [fair.turns some, List.prefix_iff_eq_take] at receivers
    rw [receivers, Ledger.turns, ← List.map_take, List.take_range, List.length_map,
      Nat.min_eq_left fewer.length_le]
    rfl
  -- What a replica got was fetched.
  have counted (i : Nat) : (before.map Delivery.receiver).count (.replica i) =
      ((fetched before).map Delivery.receiver).count (.replica i) := by
    rw [List.count_eq_countP, List.count_eq_countP, List.countP_map, List.countP_map, fetched,
      List.countP_filter]
    refine List.countP_congr fun d mem => ?_
    have command := fair.commands d (earlier.subset mem)
    cases fetches : d.call.fetches with
    | true => simp
    | false => simp [command fetches]
  have within : (fetched before).length ≤ 2 ^ 64 := fewer.length_le.trans bound
  rw [counted, counted, taken, count_turns some within first, count_turns some within second]
  split <;> split <;> omega

end Ledger

/-- Replicas take turns. A task changes neither the turn nor the record if its innermost step is
not reached, or is reached without a query only. In every run of tasks from the start, the calls
that reach the session are recorded once each, in order: commands at the primary, the `j`th fetch
at the replica `j` modulo the number of replicas, so that at every moment any two replicas differ
by at most one; without replicas everything at the primary. -/
theorem received_run (primary : Executor ω) (replicas : List (Executor ω)) :
    let x := trackedReplicas primary replicas
    (∀ (task : Task Rotation.ledger) (w : World (Rotation (ω × List Delivery))),
      (∀ y ∈ task.visits x w, ∃ err, y.buildQuery.1 = .error err) →
        (task.perform x w).backend.ledger = w.backend.ledger) ∧
    ∀ (tasks : List (Task Rotation.ledger)) (w : World (Rotation (ω × List Delivery))),
      w.backend.ledger = ⟨0, []⟩ →
      let received := (tasks.foldl (Task.perform x) w).backend.ledger.received
      let fetched := Ledger.fetched received
      received.map Delivery.call = Task.allCalls x w tasks ∧
      (∀ d ∈ received, d.call.fetches = false → d.receiver = .primary) ∧
      (replicas = [] → ∀ d ∈ received, d.receiver = .primary) ∧
      (replicas ≠ [] → fetched.length ≤ 2 ^ 64 →
        (∀ (j : Nat) (inside : j < fetched.length),
          fetched[j].receiver = .replica (j % replicas.length)) ∧
        ∀ before, before <+: received → ∀ a b, a < replicas.length → b < replicas.length →
          (before.map Delivery.receiver).count (.replica a) ≤
            (before.map Delivery.receiver).count (.replica b) + 1) := by
  intro x
  have called (fetches : Bool) (q : Query) (r : Rotation (ω × List Delivery)) :=
    ledger_after primary replicas fetches q r
  constructor
  · intro task w failed
    have none : task.calls x w = [] := by
      rw [Task.calls, List.flatMap_eq_nil_iff]
      intro y mem
      obtain ⟨err, built⟩ := failed y mem
      rw [Execution.calls, built]
    rw [Task.view_perform called, none, List.foldl_nil]
  · intro tasks w start received fetched
    have ran : (tasks.foldl (Task.perform x) w).backend.ledger =
        (Task.allCalls x w tasks).foldl (Ledger.dispatch replicas.length) ⟨0, []⟩ := by
      rw [Task.view_foldl_perform called, start]
    have fair : (tasks.foldl (Task.perform x) w).backend.ledger.Fair replicas.length := by
      rw [ran]
      exact (Ledger.fair_start _).foldl_dispatch _
    have recorded : received.map Delivery.call = Task.allCalls x w tasks := by
      show (Rotation.ledger _).received.map _ = _
      rw [ran, Ledger.map_call_foldl_dispatch, List.map_nil, List.nil_append]
    refine ⟨recorded, fair.commands, fun none => fair.alone (by rw [none]; rfl),
      fun some bound => ⟨fun j inside => ?_, fun before earlier a b first second => ?_⟩⟩
    · exact fair.receiver_fetched (List.length_pos_iff.mpr some) bound inside
    · exact fair.count_le bound earlier first second

/-- Two replicas, of which the first always fails: a selection that is run twice, an update, a
refused deletion, a selection of a column that is not there, and a last selection. -/
theorem received_run_failingReplica :
    let good : Executor Unit :=
      ⟨fun _ b => ⟨.ok .empty, [], 7, b⟩, fun _ b => ⟨.ok ⟨1, none⟩, [], 7, b⟩⟩
    let bad : Executor Unit :=
      ⟨fun _ b => ⟨.error .noRows, [], 7, b⟩, fun _ b => ⟨.error .noRows, [], 7, b⟩⟩
    let x := trackedReplicas good [bad, good]
    let w : World (Rotation (Unit × List Delivery)) := .initial ⟨0, ((), [])⟩
    let task (chain : List BuiltIn) (runs : Nat) (k : Request) (s : Statement account) :
        Task (ω := Rotation (Unit × List Delivery)) Rotation.ledger :=
      ⟨⟨.mysql, .accessor⟩, chain.map (BuiltIn.bystander _) ++ [.again (runs - 1)], account, s, k⟩
    let selection (conditions : List Predicate) : Statement account :=
      .select ⟨none, [], conditions, [], [], [], none, none⟩
    let refused := task [.span, .noDelete] 1 .exec (.delete ⟨none, []⟩)
    let unknown := task [] 2 .get (selection [.compare ⟨"age", none, none⟩ .eq (.value (.int 1))])
    let tasks := [task [.span] 2 .get (selection []),
      task [.metrics] 1 .exec (.update ⟨none, [.assignment ⟨"owner", .value (.int 1)⟩], []⟩),
      refused, unknown, task [] 1 .getMulti (selection [])]
    let received := (tasks.foldl (Task.perform x) w).backend.ledger.received
    (refused.session x).core.middlewares = [spanMiddleware, noDelete, Steps.again 0] ∧
      w.backend.ledger = ⟨0, []⟩ ∧
      (refused.perform x w).backend.ledger = w.backend.ledger ∧
      (unknown.perform x w).backend.ledger = w.backend.ledger ∧
      received.map Delivery.receiver = [.replica 0, .replica 1, .primary, .replica 0] ∧
      received.map Delivery.call = Task.allCalls x w tasks ∧
      (∀ d ∈ received, d.call.fetches = false → d.receiver = .primary) ∧
      (∃ inside : 2 < (Ledger.fetched received).length,
        (Ledger.fetched received)[2].receiver = .replica (2 % 2)) ∧
      (received.map Delivery.receiver).count (.replica 0) ≤
        (received.map Delivery.receiver).count (.replica 1) + 1 := by
  intro good bad x w task selection refused unknown tasks received
  obtain ⟨idle, routed⟩ := received_run good [bad, good]
  have installed : (refused.session x).core.middlewares =
      [spanMiddleware, noDelete, Steps.again 0] := by
    simp [refused, task, Task.session, BuiltIn.middleware_bystander, BuiltIn.middleware,
      Bystander.middleware_again]
  have start : w.backend.ledger = ⟨0, []⟩ := rfl
  have aborted : refused.visits x w = [] := List.eq_nil_of_length_eq_zero (by decide +kernel)
  have unbuilt : (unknown.visits x w).all fun y => !y.buildQuery.1.isOk := by decide +kernel
  have receivers : received.map Delivery.receiver =
      [.replica 0, .replica 1, .primary, .replica 0] := by decide +kernel
  have three : (Ledger.fetched received).length = 3 := by decide +kernel
  obtain ⟨recorded, commands, -, rotated⟩ := routed tasks w start
  obtain ⟨order, fair⟩ := rotated (by simp) (by rw [three]; decide)
  refine ⟨installed, start, idle refused w fun y mem => ?_, idle unknown w fun y mem => ?_,
    receivers, recorded, commands, ⟨by omega, order 2 _⟩,
    fair received (List.prefix_refl _) 0 1 (by decide) (by decide)⟩
  · rw [aborted] at mem
    simp at mem
  · have failed := List.all_eq_true.mp unbuilt y mem
    cases result : y.buildQuery.1 with
    | error err => exact ⟨err, rfl⟩
    | ok q => simp [result, Except.isOk, Except.toBool] at failed

end RecordSql
