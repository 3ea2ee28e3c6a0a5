import RecordSql.Proofs.Situations
import RecordSql.Session.Basic
/-! # Observers are transparent

A chain of the library's middlewares ends as its guards alone would end it: the first one that
stops decides, and otherwise the innermost step, which calls the executor once if the
statement builds and not at all if it does not. So whoever observes a statement, the caller
gets the same and the databases see the same calls. -/
set_option autoImplicit false
namespace RecordSql

variable {ω ρ : Type} {e : Entity}

/-! ## Whole chains -/

/-- The first error with which a middleware of the chain stops. -/
def BuiltIn.firstStop (c : Situation ω ρ e) (chain : List BuiltIn) : Option Error :=
  chain.findSome? fun b => b.stop? c.statement c.model.table c.result

theorem answers_compose {c : Situation ω ρ e} {a : Ending ω ρ} {innermost : Handler (World ω) ρ}
    (inner : innermost.Answers c a) (chain : List BuiltIn) :
    (compose (chain.map BuiltIn.middleware) innermost).Answers c
      (c.ending (BuiltIn.firstStop c chain) a) := by
  induction chain with
  | nil => exact inner
  | cons b rest ih =>
    intro x about
    have step := (b.handsOn_layer c).answers ih x about
    rw [b.handle_layer] at step
    rw [List.map_cons, compose_cons, BuiltIn.firstStop, List.findSome?_cons]
    cases stops : b.stop? c.statement c.model.table c.result with
    | some err =>
      rw [stops] at step
      exact step
    | none =>
      rw [stops] at step
      exact step

theorem BuiltIn.firstStop_filter_isGuard {c : Situation ω ρ e} {q : Query}
    (built : c.result = .ok q) (chain : List BuiltIn) :
    firstStop c (chain.filter isGuard) = firstStop c chain := by
  induction chain with
  | nil => rfl
  | cons b rest ih =>
    cases guards : b.isGuard with
    | true =>
      rw [List.filter_cons_of_pos guards, firstStop, firstStop, List.findSome?_cons,
        List.findSome?_cons, ← firstStop, ← firstStop, ih]
    | false =>
      have goesOn : b.stop? c.statement c.model.table c.result = none := by
        rw [built, stop?_ok_of_observer guards]
      rw [List.filter_cons_of_neg (by simp [guards]), ih, firstStop, firstStop,
        List.findSome?_cons, goesOn]

/-! ## The innermost steps -/

def Situation.start (style : Style) (statement : Statement e) (m : Model) (w : World ω)
    (slot : ρ) : Situation ω ρ e :=
  ⟨style, statement, m, (statement.build style w.registry).result, w.backend, slot⟩

theorem Execution.is_start {style : Style} {statement : Statement e} {m : Model} {w : World ω}
    {slot : ρ} {after : Registry} (got : w.registry.get e = .ok (m, after)) :
    (Execution.start statement.queryType (.ofStatement style statement) m (w.adoptRegistry after)
      slot).Is (.start style statement m w slot) := by
  obtain ⟨registry, backend⟩ := w.adoptRegistry_eq after
  refine ⟨rfl, rfl, rfl, backend, rfl, .inl ⟨rfl, ?_⟩⟩
  rw [Execution.start, Situation.start]
  simp only [registry]
  exact Statement.build_after_get got

namespace Session

theorem run_of_answers {s : Session ω} {statement : Statement e} {slot : ρ}
    {innermost : Handler (World ω) ρ} {w : World ω} {m : Model} {after : Registry} {a : Ending ω ρ}
    (got : w.registry.get e = .ok (m, after))
    (chain : (compose s.core.middlewares innermost).Answers
      (.start s.core.style statement m w slot) a) :
    (s.run statement slot innermost w).1 = a.outcome.map (fun output => (output, a.slot)) ∧
      (s.run statement slot innermost w).2.backend = a.backend := by
  obtain ⟨outcome, ends⟩ := chain _ (Execution.is_start got)
  simp only [run, World.modelOf, got]
  exact ⟨by rw [outcome, ends.slot], ends.backend⟩

end Session

/-- A handler that builds the query and goes on with it. -/
def Handler.ofQuery (next : Query → Handler (World ω) ρ) : Handler (World ω) ρ := fun x =>
  match x.buildQuery with
  | (.error err, y) => (.error err, y)
  | (.ok q, y) => next q y

/-- In a situation the handler always ends the same way: with the error of a statement that
does not build, or with the databases as one call of the executor leaves them. -/
def Handler.CallsOnce (h : Handler (World ω) ρ) (call : Query → ω → ω) (c : Situation ω ρ e) :
    Prop :=
  ∃ a, h.Answers c a ∧ (∀ err, c.result = .error err → a = c.stopped err) ∧
    ∀ q, c.result = .ok q → a.backend = call q c.backend

theorem Handler.callsOnce_ofQuery {next : Query → Handler (World ω) ρ} {call : Query → ω → ω}
    {c : Situation ω ρ e}
    (ends : ∀ q, ∃ a, (next q).Answers c a ∧ a.backend = call q c.backend) :
    (Handler.ofQuery next).CallsOnce call c := by
  cases result : c.result with
  | error err =>
    refine ⟨c.stopped err, fun x about => ?_, by simp [result], by simp [result]⟩
    obtain ⟨y, built, aboutY⟩ := about.buildQuery
    simp only [ofQuery, built, result]
    exact ⟨rfl, aboutY.ends _⟩
  | ok q =>
    obtain ⟨a, answers, backend⟩ := ends q
    refine ⟨a, fun x about => ?_, by simp [result], by simpa [result] using backend⟩
    obtain ⟨y, built, aboutY⟩ := about.buildQuery
    simp only [ofQuery, built, result]
    exact answers y aboutY

namespace Session

def fetchQuery (s : Session ω) (e : Entity) (mode : FetchMode) (q : Query) :
    Handler (World ω) (List e.Record) := fun x =>
  let (answer, world) := s.executor.runQuery q x.state
  let y := { x with state := world }
  match answer with
  | .error err => (.error err, y)
  | .ok rows =>
    match s.core.style.materializer.decodeRows x.model e (mode.select rows.toList) with
    | .error err => (.error err, y)
    | .ok records => (.ok (.rows records.length), { y with slot := records })

theorem fetchStep_eq (s : Session ω) (e : Entity) (mode : FetchMode) :
    s.fetchStep e mode = .ofQuery (s.fetchQuery e mode) := by
  funext x
  rw [fetchStep, Handler.ofQuery]
  rcases x.buildQuery with ⟨result, y⟩
  cases result <;> rfl

def commandQuery (s : Session ω) (q : Query) : Handler (World ω) Unit := fun x =>
  ((s.executor.runCommand q x.state).1.map .affected,
    { x with state := (s.executor.runCommand q x.state).2 })

theorem commandStep_eq (s : Session ω) : s.commandStep = .ofQuery s.commandQuery := by
  funext x
  rw [commandStep, Handler.ofQuery]
  rcases x.buildQuery with ⟨result, y⟩
  cases result <;> rfl

theorem callsOnce_fetchStep (s : Session ω) (mode : FetchMode)
    (c : Situation ω (List e.Record) e) :
    (s.fetchStep e mode).CallsOnce (fun q b => (s.executor.query q b).backend) c := by
  rw [fetchStep_eq]
  refine Handler.callsOnce_ofQuery fun q => ?_
  have ran (x : Execution (World ω) (List e.Record)) (about : x.Is c) : ∃ world,
      s.executor.runQuery q x.state = ((s.executor.query q c.backend).result, world) ∧
        world.backend = (s.executor.query q c.backend).backend := by
    rw [← about.backend]
    exact ⟨_, rfl, rfl⟩
  generalize s.executor.query q c.backend = reply at ran
  cases answer : reply.result with
  | error err =>
    refine ⟨⟨.error err, reply.backend, c.slot⟩, fun x about => ?_, rfl⟩
    obtain ⟨world, called, backend⟩ := ran x about
    simp only [fetchQuery, called, answer]
    exact ⟨trivial, about.buildable, backend, about.slot⟩
  | ok rows =>
    cases decoded : s.core.style.materializer.decodeRows c.model e (mode.select rows.toList) with
    | error err =>
      refine ⟨⟨.error err, reply.backend, c.slot⟩, fun x about => ?_, rfl⟩
      obtain ⟨world, called, backend⟩ := ran x about
      simp only [fetchQuery, called, answer, about.model, decoded]
      exact ⟨trivial, about.buildable, backend, about.slot⟩
    | ok records =>
      refine ⟨⟨.ok (.rows records.length), reply.backend, records⟩, fun x about => ?_, rfl⟩
      obtain ⟨world, called, backend⟩ := ran x about
      simp only [fetchQuery, called, answer, about.model, decoded]
      exact ⟨trivial, about.buildable, backend, rfl⟩

theorem callsOnce_commandStep (s : Session ω) (c : Situation ω Unit e) :
    s.commandStep.CallsOnce (fun q b => (s.executor.execute q b).backend) c := by
  rw [commandStep_eq]
  refine Handler.callsOnce_ofQuery fun q =>
    ⟨⟨(s.executor.execute q c.backend).result.map .affected,
      (s.executor.execute q c.backend).backend, c.slot⟩, fun x about => ?_, rfl⟩
  rw [← about.backend]
  exact ⟨rfl, about.buildable, rfl, about.slot⟩

end Session

/-! ## Requests -/

inductive Request
  | get
  | getMulti
  | exec
  deriving DecidableEq

namespace Request

def fetches : Request → Bool
  | exec => false
  | _ => true

def Slot (e : Entity) : Request → Type
  | exec => Unit
  | _ => List e.Record

def Answer (e : Entity) : Request → Type
  | get => e.Record
  | getMulti => List e.Record
  | exec => ExecResult

def slot : (k : Request) → k.Slot e
  | get => ([] : List e.Record)
  | getMulti => ([] : List e.Record)
  | exec => ()

def records (r : Except Error (QueryOutput × List e.Record)) : Except Error (List e.Record) :=
  match r with
  | .error err => .error err
  | .ok (_, []) => .error .noRows
  | .ok (_, record :: rest) => .ok (record :: rest)

def last (r : Except Error (List e.Record)) : Except Error e.Record :=
  match r with
  | .error err => .error err
  | .ok records =>
    match records.getLast? with
    | some record => .ok record
    | none => .error .noRows

def report (r : Except Error (QueryOutput × Unit)) : Except Error ExecResult :=
  r.map fun given => given.1.toExecResult

def conclude : (k : Request) → Except Error (QueryOutput × k.Slot e) → Except Error (k.Answer e)
  | get => fun r => last (records r)
  | getMulti => records
  | exec => report

theorem conclude_error (k : Request) (err : Error) :
    k.conclude (.error err : Except Error (QueryOutput × k.Slot e)) = .error err := by
  cases k <;> rfl

end Request

namespace Session

variable (s : Session ω)

def innermost (e : Entity) : (k : Request) → Handler (World ω) (k.Slot e)
  | .get => s.fetchStep e .one
  | .getMulti => s.fetchStep e .all
  | .exec => s.commandStep

def perform (statement : Statement e) :
    (k : Request) → World ω → Except Error (k.Answer e) × World ω
  | .get => s.get statement
  | .getMulti => s.getMulti statement
  | .exec => s.exec statement

theorem perform_eq (statement : Statement e) (k : Request) (w : World ω) :
    s.perform statement k w = (k.conclude (s.run statement k.slot (s.innermost e k) w).1,
      (s.run statement k.slot (s.innermost e k) w).2) := by
  have fetched (mode : FetchMode) : s.fetch mode statement w =
      (Request.records (s.run statement ([] : List e.Record) (s.fetchStep e mode) w).1,
        (s.run statement ([] : List e.Record) (s.fetchStep e mode) w).2) := by
    rw [fetch]
    rcases s.run statement ([] : List e.Record) (s.fetchStep e mode) w with ⟨result, world⟩
    cases result with
    | error err => rfl
    | ok given =>
      obtain ⟨output, records⟩ := given
      cases records <;> rfl
  cases k with
  | get =>
    show s.get statement w =
      (Request.last
          (Request.records (s.run statement ([] : List e.Record) (s.fetchStep e .one) w).1),
        (s.run statement ([] : List e.Record) (s.fetchStep e .one) w).2)
    rw [get, fetched]
    rcases Request.records (s.run statement ([] : List e.Record) (s.fetchStep e .one) w).1 with
      err | records
    · rfl
    · cases found : records.getLast? <;> simp only [Request.last, found]
  | getMulti => exact fetched .all
  | exec =>
    show s.exec statement w = (Request.report (s.run statement () s.commandStep w).1,
      (s.run statement () s.commandStep w).2)
    rw [exec]
    rcases s.run statement () s.commandStep w with ⟨result, world⟩
    cases result <;> rfl

end Session

/-! ## Recorded calls -/

structure Call where
  fetches : Bool
  query : Query
  deriving DecidableEq

namespace Executor

variable (x : Executor ω)

def after (fetches : Bool) (q : Query) (b : ω) : ω :=
  if fetches then (x.query q b).backend else (x.execute q b).backend

def recorded : Executor (ω × List Call) where
  query q b :=
    let reply := x.query q b.1
    ⟨reply.result, reply.notices, reply.elapsed, reply.backend, b.2 ++ [⟨true, q⟩]⟩
  execute q b :=
    let reply := x.execute q b.1
    ⟨reply.result, reply.notices, reply.elapsed, reply.backend, b.2 ++ [⟨false, q⟩]⟩

theorem after_recorded (fetches : Bool) (q : Query) (b : ω × List Call) :
    x.recorded.after fetches q b = (x.after fetches q b.1, b.2 ++ [⟨fetches, q⟩]) := by
  cases fetches <;> rfl

end Executor

namespace Session

theorem callsOnce_innermost (s : Session ω) (k : Request) (c : Situation ω (k.Slot e) e) :
    (s.innermost e k).CallsOnce (s.executor.after k.fetches) c := by
  cases k with
  | get => exact s.callsOnce_fetchStep .one c
  | getMulti => exact s.callsOnce_fetchStep .all c
  | exec => exact s.callsOnce_commandStep c

theorem perform_of_answers {s : Session ω} {statement : Statement e} {k : Request} {w : World ω}
    {m : Model} {after : Registry} {a : Ending ω (k.Slot e)}
    (got : w.registry.get e = .ok (m, after))
    (chain : (compose s.core.middlewares (s.innermost e k)).Answers
      (.start s.core.style statement m w k.slot) a) :
    (s.perform statement k w).1 = k.conclude (a.outcome.map fun output => (output, a.slot)) ∧
      (s.perform statement k w).2.backend = a.backend := by
  obtain ⟨outcome, backend⟩ := run_of_answers got chain
  rw [perform_eq, outcome]
  exact ⟨rfl, backend⟩

/-- Whatever observes a statement that builds, the outcome and the calls of the executor are
those that the guards alone leave: a single call, or none and the error of a guard. A statement
that does not build calls nothing and fails with its own error or that of a guard. -/
theorem perform_filter_isGuard (x : Executor ω) (style : Style) (chain : List BuiltIn)
    (statement : Statement e) (k : Request) {w : World (ω × List Call)} {m : Model}
    {after : Registry} (derives : w.registry.get e = .ok (m, after)) :
    let result := (statement.build style w.registry).result
    let run (chain : List BuiltIn) :=
      (Session.mk ⟨style, chain.map BuiltIn.middleware⟩ x.recorded).perform statement k w
    let calls := (run chain).2.backend.2
    let aborts (err : Error) := ∃ guard ∈ chain, guard.isGuard = true ∧
      guard.stop? statement m.table result = some err
    (∀ q, result = .ok q →
      (run chain).1 = (run (chain.filter BuiltIn.isGuard)).1 ∧
        (run chain).2.backend = (run (chain.filter BuiltIn.isGuard)).2.backend ∧
        ((∃ reason, aborts (.aborted reason) ∧ (run chain).1 = .error (.aborted reason) ∧
            calls = w.backend.2) ∨
          (∀ err, ¬ aborts err) ∧ calls = w.backend.2 ++ [⟨k.fetches, q⟩])) ∧
      ∀ err, result = .error err →
        calls = w.backend.2 ∧ ((run chain).1 = .error err ∨
          ∃ reason, aborts (.aborted reason) ∧ (run chain).1 = .error (.aborted reason)) := by
  intro result run calls aborts
  let c : Situation (ω × List Call) (k.Slot e) e := .start style statement m w k.slot
  obtain ⟨a, answers, failed, called⟩ := callsOnce_innermost ⟨⟨style, []⟩, x.recorded⟩ k c
  have ends (l : List BuiltIn) :
      (run l).1 = k.conclude ((c.ending (BuiltIn.firstStop c l) a).outcome.map
          fun output => (output, (c.ending (BuiltIn.firstStop c l) a).slot)) ∧
        (run l).2.backend = (c.ending (BuiltIn.firstStop c l) a).backend :=
    perform_of_answers derives (answers_compose answers l)
  have stopped {l : List BuiltIn} {err : Error} (stops : BuiltIn.firstStop c l = some err) :
      (run l).1 = .error err ∧ (run l).2.backend = w.backend := by
    rw [(ends l).1, (ends l).2, stops]
    exact ⟨k.conclude_error err, rfl⟩
  have stopping {err : Error} (stops : BuiltIn.firstStop c chain = some err) :
      result = .error err ∨ ∃ reason, err = .aborted reason ∧ aborts err := by
    obtain ⟨b, member, refused⟩ := List.exists_of_findSome?_eq_some stops
    rcases BuiltIn.error_or_aborted_of_stop? refused with own | ⟨guards, reason, same⟩
    · exact .inl own
    · exact .inr ⟨reason, same, b, member, guards, refused⟩
  constructor
  · intro q built
    have same := BuiltIn.firstStop_filter_isGuard (c := c) built chain
    refine ⟨by rw [(ends chain).1, (ends _).1, same], by rw [(ends chain).2, (ends _).2, same], ?_⟩
    cases stops : BuiltIn.firstStop c chain with
    | some err =>
      obtain ⟨outcome, backend⟩ := stopped stops
      rcases stopping stops with own | ⟨reason, rfl, refused⟩
      · simp [built] at own
      · exact .inl ⟨reason, refused, outcome, congrArg Prod.snd backend⟩
    | none =>
      have never := List.findSome?_eq_none_iff.mp stops
      refine .inr ⟨fun err ⟨b, member, _, refused⟩ => ?_, ?_⟩
      · have goesOn := never b member
        exact absurd (goesOn.symm.trans refused) (by simp)
      · have backend := (ends chain).2
        rw [stops] at backend
        have call := backend.trans (called q built)
        rw [Executor.after_recorded] at call
        exact congrArg Prod.snd call
  · intro err own
    cases stops : BuiltIn.firstStop c chain with
    | some first =>
      obtain ⟨outcome, backend⟩ := stopped stops
      refine ⟨congrArg Prod.snd backend, ?_⟩
      rcases stopping stops with same | ⟨reason, rfl, refused⟩
      · obtain rfl : first = err := Except.error.inj (same.symm.trans own)
        exact .inl outcome
      · exact .inr ⟨reason, refused, outcome⟩
    | none =>
      have none := ends chain
      rw [stops, failed err own] at none
      exact ⟨congrArg Prod.snd none.2, .inl (none.1.trans (k.conclude_error err))⟩

/-- A deletion that the guard of changes lets pass, observed on both sides of it. -/
theorem perform_filter_isGuard_deletion :
    let m : Model := ⟨"account", [⟨"id", "id", "i64", 0⟩, ⟨"owner", "owner", "i64", 1⟩]⟩
    let style : Style := ⟨.mysql, .accessor⟩
    let x : Executor Unit :=
      ⟨fun _ b => ⟨.ok .empty, [], 7, b⟩, fun _ b => ⟨.ok ⟨1, none⟩, [], 7, b⟩⟩
    let w : World (Unit × List Call) := .initial ((), [])
    let s : Statement account :=
      .delete ⟨none, [.compare ⟨"id", none, none⟩ .eq (.value (.int 1))]⟩
    let chain : List BuiltIn := [.slowQuery ⟨⟨3⟩, none⟩, .span, .safeChanges, .pause ⟨5⟩, .metrics,
      .queryLog .standard]
    let run (chain : List BuiltIn) :=
      (Session.mk ⟨style, chain.map BuiltIn.middleware⟩ x.recorded).perform s .exec w
    let q : Query := ⟨"DELETE FROM `account` WHERE `id` = ?;", [.int 1]⟩
    w.registry.get account = .ok (m, ⟨[⟨0, "Account", m⟩]⟩) ∧
      (s.build style w.registry).result = .ok q ∧
      (run chain).1 = (run [.safeChanges]).1 ∧
      (run chain).2.backend = (run [.safeChanges]).2.backend ∧
      (run chain).2.backend.2 = [⟨false, q⟩] := by
  intro m style x w s chain run q
  have derives : w.registry.get account = .ok (m, ⟨[⟨0, "Account", m⟩]⟩) := by decide +kernel
  have built : (s.build style w.registry).result = .ok q := by decide +kernel
  obtain ⟨outcome, backend, -⟩ := (perform_filter_isGuard x style chain s .exec derives).1 q built
  exact ⟨derives, built, outcome, backend, by decide +kernel⟩

end Session

end RecordSql
