import RecordSql.Proofs.Conducts
/-! # The effective query of an execution

Whatever a chain of middlewares asks, replaces and runs again, the executions that pass along
it agree on one query. To say what happened, a run is recorded: its builder puts every call on
a record, its executor every query that it is sent, and the middlewares what they are told and
what they replace. The record of a run alone decides what the next step is told. -/
set_option autoImplicit false
namespace RecordSql

/-! ## Records -/

namespace Deed

def success? : Deed → Option Query
  | built (.ok q) => some q
  | _ => none

def replacement? : Deed → Option Query
  | replaced q => some q
  | _ => none

/-- The query in force after a record: the last one put in its place, else the first one that
was built. -/
def effective? (log : List Deed) : Option Query :=
  (log.filterMap replacement?).getLast?.or (log.filterMap success?).head?

/-- What may stand behind a record. The builder is called only while nothing was built or
replaced. Whoever asks is told the effective query, or without one how a build just failed. The
executor is sent what was just asked for. -/
def Fits (before : List Deed) : Deed → Prop
  | built _ => ∀ q, replaced q ∉ before ∧ built (.ok q) ∉ before
  | asked answer =>
    (∀ q, effective? before = some q → answer = .ok q) ∧
      (effective? before = none →
        ∃ earlier err, before = earlier ++ [built (.error err)] ∧ answer = .error err)
  | replaced _ => True
  | sent call => ∃ earlier, before = earlier ++ [asked (.ok call.query)]

/-- Every deed of a record fits the deeds before it. -/
def Coherent (log : List Deed) : Prop :=
  ∀ before deed after, log = before ++ deed :: after → deed.Fits before

variable {log : List Deed} {q : Query}

theorem effective?_eq_none_iff :
    effective? log = none ↔ ∀ q, replaced q ∉ log ∧ built (.ok q) ∉ log := by
  have noReplacement : (log.filterMap replacement?).getLast? = none ↔ ∀ q, replaced q ∉ log := by
    rw [List.getLast?_eq_none_iff, List.filterMap_eq_nil_iff]
    constructor
    · intro nothing q member
      simpa [replacement?] using nothing _ member
    · intro never deed member
      cases deed with
      | replaced q => exact absurd member (never q)
      | _ => rfl
  have noSuccess : (log.filterMap success?).head? = none ↔ ∀ q, built (.ok q) ∉ log := by
    rw [List.head?_eq_none_iff, List.filterMap_eq_nil_iff]
    constructor
    · intro nothing q member
      simpa [success?] using nothing _ member
    · intro never deed member
      cases deed with
      | built answer =>
        cases answer with
        | error err => rfl
        | ok q => exact absurd member (never q)
      | _ => rfl
  rw [effective?, Option.or_eq_none_iff, noReplacement, noSuccess, forall_and]

/-! ### One more deed -/

theorem effective?_replaced : effective? (log ++ [replaced q]) = some q := by
  simp [effective?, replacement?]

theorem effective?_built {answer : Except Error Query} (nothing : effective? log = none) :
    effective? (log ++ [built answer]) = answer.toOption := by
  obtain ⟨noReplacement, noSuccess⟩ := Option.or_eq_none_iff.mp nothing
  cases answer <;> simp [effective?, noReplacement, noSuccess, success?, replacement?,
    Except.toOption]

theorem effective?_concat {deed : Deed} (noReplacement : deed.replacement? = none)
    (noSuccess : deed.success? = none) : effective? (log ++ [deed]) = effective? log := by
  simp [effective?, List.filterMap_append, noReplacement, noSuccess]

theorem fits_asked (effective : effective? log = some q) : (asked (.ok q)).Fits log := by
  constructor
  · intro p same
    rw [Option.some.inj (effective.symm.trans same)]
  · intro nothing
    simp [effective] at nothing

theorem fits_asked_built {answer : Except Error Query} (nothing : effective? log = none) :
    (asked answer).Fits (log ++ [built answer]) := by
  cases answer with
  | ok q => exact fits_asked (effective?_built nothing)
  | error err =>
    constructor
    · intro p same
      simp [effective?_built nothing, Except.toOption] at same
    · intro _
      exact ⟨log, err, rfl, rfl⟩

namespace Coherent

theorem nil : Coherent [] := by
  intro before deed after cut
  simp at cut

theorem concat {deed : Deed} (coherent : Coherent log) (fits : deed.Fits log) :
    Coherent (log ++ [deed]) := by
  intro before d after cut
  rcases List.eq_nil_or_concat after with rfl | ⟨front, last, rfl⟩
  · obtain ⟨rfl, same⟩ := List.append_inj' cut rfl
    obtain rfl := List.head_eq_of_cons_eq same
    exact fits
  · have cut' : log ++ [deed] = (before ++ d :: front) ++ [last] := by simpa using cut
    exact coherent before d front (List.append_inj' cut' rfl).1

/-- At most one build succeeds. -/
theorem length_successes (coherent : Coherent log) : (log.filterMap success?).length ≤ 1 := by
  induction log using List.reverseRecOn with
  | nil => exact Nat.zero_le 1
  | append_singleton log deed ih =>
    have front : Coherent log := fun before d after cut =>
      coherent before d (after ++ [deed]) (by simp [cut])
    rw [List.filterMap_append, List.length_append]
    cases success : deed.success? with
    | none => simpa [success] using ih front
    | some q =>
      -- Only a call of the builder succeeds, and that comes before any other success.
      have first : (log.filterMap success?).head? = none := by
        cases deed with
        | built answer =>
          have nothing := effective?_eq_none_iff.mpr (coherent log _ [] rfl)
          exact (Option.or_eq_none_iff.mp nothing).2
        | _ => simp [success?] at success
      rw [List.head?_eq_none_iff.mp first]
      simp [success]

end Coherent

end Deed

variable {ω ρ : Type}

/-! ## Recorded runs -/

def World.recording (w : World ω) (log : List Deed) : World (ω × List Deed) :=
  ⟨w.registry, w.log, w.depth, w.clock, w.stats, (w.backend, log)⟩

def World.unrecorded (w : World (ω × List Deed)) : World ω :=
  ⟨w.registry, w.log, w.depth, w.clock, w.stats, w.backend.1⟩

def Recorder.beside : Recorder ω (World (ω × List Deed)) where
  world := World.unrecorded
  setWorld w old := w.recording old.backend.2
  note deed w := w.unrecorded.recording (w.backend.2 ++ [deed])

def Buildable.recording (b : Buildable (World ω)) : Buildable (World (ω × List Deed)) where
  build w :=
    let (answer, after) := b.build w.unrecorded
    (answer, after.recording (w.backend.2 ++ [.built answer]))
  hasWhere := b.hasWhere

def Reply.recording {α : Type} (reply : Reply ω α) (log : List Deed) :
    Reply (ω × List Deed) α :=
  ⟨reply.result, reply.notices, reply.elapsed, reply.backend, log⟩

def Executor.recording (x : Executor ω) : Executor (ω × List Deed) where
  query q b := (x.query q b.1).recording (b.2 ++ [.sent ⟨true, q⟩])
  execute q b := (x.execute q b.1).recording (b.2 ++ [.sent ⟨false, q⟩])

def Execution.recording (x : Execution (World ω) ρ) (log : List Deed) :
    Execution (World (ω × List Deed)) ρ :=
  ⟨x.queryType, x.buildable.recording, x.model, x.query, x.state.recording log, x.slot⟩

/-- The query at hand is the one that the record makes effective. -/
structure Execution.Follows (x : Execution (World ω) ρ) (log : List Deed) : Prop where
  query : x.query = Deed.effective? log
  coherent : Deed.Coherent log

/-- The second handler does what the first one does, and keeps a record of it. -/
def Handler.Records (h : Handler (World ω) ρ) (h' : Handler (World (ω × List Deed)) ρ) : Prop :=
  ∀ (x : Execution (World ω) ρ) (log : List Deed), x.Follows log →
    ∃ log', (h x).2.Follows log' ∧ h' (x.recording log) = ((h x).1, (h x).2.recording log')

namespace Execution.Follows

variable {x : Execution (World ω) ρ} {log : List Deed}

theorem start (queryType : QueryType) (b : Buildable (World ω)) (m : Model) (w : World ω)
    (slot : ρ) : (Execution.start queryType b m w slot).Follows [] :=
  ⟨rfl, .nil⟩

theorem replaceQuery (follows : x.Follows log) (q : Query) :
    (x.replaceQuery .blind q).Follows (log ++ [.replaced q]) :=
  ⟨Deed.effective?_replaced.symm, follows.coherent.concat trivial⟩

/-- A deed that brings no query leaves the execution where it is. -/
theorem concat {deed : Deed} (follows : x.Follows log) (noReplacement : deed.replacement? = none)
    (noSuccess : deed.success? = none) (fits : deed.Fits log) : x.Follows (log ++ [deed]) :=
  ⟨follows.query.trans (Deed.effective?_concat noReplacement noSuccess).symm,
    follows.coherent.concat fits⟩

/-- The query that is built or at hand fits the record, which grows by a call of the builder if
there was none. A failure leaves nothing behind but its place on the record. -/
theorem buildQuery (follows : x.Follows log) : ∃ log', x.buildQuery.2.Follows log' ∧
    (Deed.asked x.buildQuery.1).Fits log' ∧
    (x.recording log).buildQuery = (x.buildQuery.1, x.buildQuery.2.recording log') := by
  cases found : x.query with
  | some q =>
    have effective : Deed.effective? log = some q := follows.query.symm.trans found
    have recorded : (x.recording log).buildQuery = (.ok q, x.recording log) :=
      buildQuery_of_some found
    rw [buildQuery_of_some found]
    exact ⟨log, follows, Deed.fits_asked effective, recorded⟩
  | none =>
    have nothing : Deed.effective? log = none := follows.query.symm.trans found
    rcases run : x.buildable.build x.state with ⟨answer, after⟩
    have found' : (x.recording log).query = none := found
    have run' : (x.recording log).buildable.build (x.recording log).state =
        (answer, after.recording (log ++ [.built answer])) := by
      show ((x.buildable.build x.state).1, World.recording (x.buildable.build x.state).2
        (log ++ [.built (x.buildable.build x.state).1])) = _
      rw [run]
    have first : (Deed.built answer).Fits log := Deed.effective?_eq_none_iff.mp nothing
    rw [buildQuery_of_none found run, buildQuery_of_none found' run']
    exact ⟨log ++ [.built answer], ⟨(Deed.effective?_built nothing).symm,
      follows.coherent.concat first⟩, Deed.fits_asked_built nothing, rfl⟩

/-- Whoever asks is told the effective query. -/
theorem ask (follows : x.Follows log) : ∃ log',
    x.buildQuery.2.Follows (log' ++ [.asked x.buildQuery.1]) ∧
      (x.recording log).ask .beside =
        (x.buildQuery.1, x.buildQuery.2.recording (log' ++ [.asked x.buildQuery.1])) := by
  obtain ⟨log', after, fits, recorded⟩ := follows.buildQuery
  refine ⟨log', after.concat rfl rfl fits, ?_⟩
  rw [Execution.ask, recorded]
  rfl

end Execution.Follows

namespace Handler.Records

variable {h : Handler (World ω) ρ} {h' : Handler (World (ω × List Deed)) ρ}

/-- A conduct keeps the record, whatever it does, if the rest of the chain keeps it. -/
theorem follow (rest : h.Records h') (c : Conduct ω) :
    (c.middleware.handle h).Records ((c.recordedBy .beside).handle h') := by
  show Handler.Records (c.follow .blind h) (c.follow .beside h')
  induction c with
  | done outcome =>
    intro x log follows
    exact ⟨log, follows, rfl⟩
  | look next ih =>
    intro x log follows
    exact ih (x.sight .blind) x log follows
  | change queryType model world next ih =>
    intro x log follows
    have changed : Execution.Follows { x with queryType, model, state := world } log :=
      ⟨follows.query, follows.coherent⟩
    exact ih _ log changed
  | ask next ih =>
    intro x log follows
    obtain ⟨log', after, recorded⟩ := follows.ask
    obtain ⟨last, follows', same⟩ := ih x.buildQuery.1 _ _ after
    refine ⟨last, follows', ?_⟩
    rw [Conduct.follow, recorded]
    exact same
  | replace q next ih =>
    intro x log follows
    exact ih _ _ (follows.replaceQuery q)
  | run next ih =>
    intro x log follows
    obtain ⟨log', after, recorded⟩ := rest x log follows
    obtain ⟨last, follows', same⟩ := ih (h x).1 _ _ after
    refine ⟨last, follows', ?_⟩
    rw [Conduct.follow, recorded]
    exact same

theorem compose (innermost : h.Records h') (chain : List (Conduct ω)) :
    (compose (chain.map Conduct.middleware) h).Records
      (RecordSql.compose (chain.map (Conduct.recordedBy .beside)) h') := by
  induction chain with
  | nil => exact innermost
  | cons c rest ih => exact ih.follow c

end Handler.Records

/-! ## The innermost steps -/

theorem World.receive_recording {α : Type} (w : World ω) (reply : Reply ω α)
    (before after : List Deed) :
    (w.recording before).receive (reply.recording after) =
      ((w.receive reply).1, (w.receive reply).2.recording after) := by
  have reported (notices : List Notice) (w : World ω) :
      notices.foldl (fun w notice => w.emit (.backend notice)) (w.recording before) =
        (notices.foldl (fun w notice => w.emit (.backend notice)) w).recording before := by
    induction notices generalizing w with
    | nil => rfl
    | cons notice rest ih => exact ih (w.emit (.backend notice))
  simp only [receive, Reply.recording, reported]
  rfl

/-- A step behind an inspection sends the query that was just asked for. -/
theorem Handler.records_ofQuery {next : Query → Handler (World ω) ρ}
    {next' : Query → Handler (World (ω × List Deed)) ρ} (fetches : Bool)
    (sends : ∀ (q : Query) (x : Execution (World ω) ρ) (log : List Deed),
      (next q x).2.query = x.query ∧ next' q (x.recording log) =
        ((next q x).1, (next q x).2.recording (log ++ [.sent ⟨fetches, q⟩]))) :
    (Handler.ofQuery next).Records
      ((Conduct.inspect.recordedBy .beside).handle (.ofQuery next')) := by
  intro x log follows
  obtain ⟨log', after, recorded⟩ := follows.ask
  show ∃ last, _ ∧ Conduct.follow .beside (.ofQuery next') .inspect (x.recording log) = _
  rw [Conduct.inspect, Conduct.follow, recorded, ofQuery]
  rcases asked : x.buildQuery with ⟨answer, y⟩
  rw [asked] at after
  cases answer with
  | error err => exact ⟨_, after, rfl⟩
  | ok q =>
    obtain ⟨kept, sent⟩ := sends q y (log' ++ [.asked (.ok q)])
    have found : y.query = some q := Execution.query_of_buildQuery asked
    have found' : (y.recording (log' ++ [.asked (.ok q)])).query = some q := found
    have after' : y.Follows (log' ++ [.asked (.ok q)] ++ [.sent ⟨fetches, q⟩]) :=
      after.concat rfl rfl ⟨log', rfl⟩
    refine ⟨_, ⟨kept.trans after'.query, after'.coherent⟩, ?_⟩
    simp only [Conduct.follow, ofQuery, Execution.buildQuery_of_some found']
    exact sent

namespace Executor

variable (executor : Executor ω) (q : Query) (w : World ω) (log : List Deed)

theorem runQuery_recording : executor.recording.runQuery q (w.recording log) =
    ((executor.runQuery q w).1, (executor.runQuery q w).2.recording (log ++ [.sent ⟨true, q⟩])) :=
  w.receive_recording (executor.query q w.backend) log _

theorem runCommand_recording : executor.recording.runCommand q (w.recording log) =
    ((executor.runCommand q w).1,
      (executor.runCommand q w).2.recording (log ++ [.sent ⟨false, q⟩])) :=
  w.receive_recording (executor.execute q w.backend) log _

end Executor

namespace Session

def recording (s : Session ω) (chain : List (Middleware (World (ω × List Deed)))) :
    Session (ω × List Deed) :=
  ⟨⟨s.core.style, chain⟩, s.executor.recording⟩

variable (s : Session ω) (chain : List (Middleware (World (ω × List Deed)))) (e : Entity)

theorem records_fetchStep (mode : FetchMode) : (s.fetchStep e mode).Records
    ((Conduct.inspect.recordedBy .beside).handle ((s.recording chain).fetchStep e mode)) := by
  rw [fetchStep_eq, fetchStep_eq]
  refine Handler.records_ofQuery true fun q x log => ?_
  have sent := s.executor.runQuery_recording q x.state log
  rcases ran : s.executor.runQuery q x.state with ⟨answer, world⟩
  rw [ran] at sent
  have sent' : (s.recording chain).executor.runQuery q (x.recording log).state =
      (answer, world.recording (log ++ [.sent ⟨true, q⟩])) := sent
  simp only [fetchQuery, ran, sent']
  cases answer with
  | error err => exact ⟨rfl, rfl⟩
  | ok rows =>
    have sameRows : (s.recording chain).core.style.materializer.decodeRows
        (x.recording log).model e (mode.select rows.toList) =
      s.core.style.materializer.decodeRows x.model e (mode.select rows.toList) := rfl
    simp only [sameRows]
    cases s.core.style.materializer.decodeRows x.model e (mode.select rows.toList) with
    | error err => exact ⟨rfl, rfl⟩
    | ok records => exact ⟨rfl, rfl⟩

theorem records_commandStep : s.commandStep.Records
    ((Conduct.inspect.recordedBy .beside).handle (s.recording chain).commandStep) := by
  rw [commandStep_eq, commandStep_eq]
  refine Handler.records_ofQuery false fun q x log => ⟨rfl, ?_⟩
  have sent := s.executor.runCommand_recording q x.state log
  have sent' : (s.recording chain).executor.runCommand q (x.recording log).state =
      ((s.executor.runCommand q x.state).1,
        (s.executor.runCommand q x.state).2.recording (log ++ [.sent ⟨false, q⟩])) := sent
  simp only [commandQuery, sent']
  rfl

theorem records_innermost (k : Request) : (s.innermost e k).Records
    ((Conduct.inspect.recordedBy .beside).handle ((s.recording chain).innermost e k)) := by
  cases k with
  | get => exact s.records_fetchStep chain e .one
  | getMulti => exact s.records_fetchStep chain e .all
  | exec => exact s.records_commandStep chain

end Session

/-- Every run of a chain around the innermost step of a session can be recorded without a
difference; the recorded chain asks for the query once more right before the innermost step.
On the record, whoever asks is told the last query that replaced another, else the first one
that was built; the builder is called only before there is any, so it succeeds at most once;
after a failure the next one to ask makes it try again; and the executor is sent exactly what
was asked for right before. -/
theorem compose_effective (style : Style) (executor : Executor ω) (chain : List (Conduct ω))
    (e : Entity) (k : Request) (queryType : QueryType) (b : Buildable (World ω)) (m : Model)
    (w : World ω) :
    let s : Session ω := ⟨⟨style, chain.map Conduct.middleware⟩, executor⟩
    let recorded := s.recording ((chain ++ [Conduct.inspect]).map (Conduct.recordedBy .beside))
    let x : Execution (World ω) (k.Slot e) := .start queryType b m w k.slot
    let run := compose s.core.middlewares (s.innermost e k) x
    ∃ log, compose recorded.core.middlewares (recorded.innermost e k) (x.recording []) =
        (run.1, run.2.recording log) ∧
      run.2.query = Deed.effective? log ∧ Deed.Coherent log ∧
      (log.filterMap Deed.success?).length ≤ 1 := by
  intro s recorded x run
  have innermost : (s.innermost e k).Records
      ((Conduct.inspect.recordedBy .beside).handle (recorded.innermost e k)) :=
    s.records_innermost _ e k
  obtain ⟨log, follows, same⟩ := innermost.compose chain x [] (.start queryType b m w k.slot)
  refine ⟨log, ?_, follows.query, follows.coherent, follows.coherent.length_successes⟩
  show compose ((chain ++ [Conduct.inspect]).map (Conduct.recordedBy .beside)) _ _ = _
  rw [List.map_append, compose_append]
  exact same

/-- A builder that fails when it is first called, and whose answer would change again. -/
example :
    let b : Buildable (World Unit) := ⟨fun w =>
      (if w.clock = 0 then .error .noRows else .ok ⟨"SELECT 1;", [.bool (w.clock = 1)]⟩,
        w.pass 1), none⟩
    let chain : List (Conduct Unit) :=
      [.ask fun _ => .run .done, .ask fun _ => .run fun _ => .replace ⟨"SELECT 2;", []⟩ (.run .done)]
    let executor : Executor Unit :=
      ⟨fun _ w => ⟨.ok .empty, [], 7, w⟩, fun _ w => ⟨.ok ⟨1, none⟩, [], 7, w⟩⟩
    let s : Session (Unit × List Deed) := Session.recording ⟨⟨.standard, []⟩, executor⟩
      ((chain ++ [Conduct.inspect]).map (Conduct.recordedBy .beside))
    let x : Execution (World Unit) Unit := .start .raw b ⟨"account", []⟩ (.initial ()) ()
    let first : Query := ⟨"SELECT 1;", [.bool true]⟩
    let last : Query := ⟨"SELECT 2;", []⟩
    (compose s.core.middlewares s.commandStep (x.recording [])).2.state.backend.2 =
      [.built (.error .noRows), .asked (.error .noRows), .built (.ok first), .asked (.ok first),
        .asked (.ok first), .sent ⟨false, first⟩, .replaced last, .asked (.ok last),
        .sent ⟨false, last⟩] := rfl

end RecordSql
