import Mathlib.Data.Finset.Card
import RecordSql.Registry
/-! # What a registry remembers

A registry is used by a sequence of calls. Its transcript keeps each call with what the caller
was given. The options in force for an entity are those of the last successful registration in
the transcript; every call gives the model with these options, and nothing else of the past
counts. Entities with one identity are the same entity throughout. -/
set_option autoImplicit false
namespace RecordSql

inductive RegistryCall
  | get (e : Entity)
  | register (e : Entity) (options : List ModelOption)
  deriving DecidableEq

def RegistryCall.entity : RegistryCall → Entity
  | get e => e
  | register e _ => e

structure Exchange where
  call : RegistryCall
  outcome : Except Error Model

namespace Exchange

def succeeded (x : Exchange) : Bool := x.outcome.isOk

def options? (e : Entity) (x : Exchange) : Option (List ModelOption) :=
  match x.call with
  | .get _ => none
  | .register f options => if f = e ∧ x.succeeded then some options else none

theorem options?_of_ne {e : Entity} {x : Exchange} (other : x.call.entity ≠ e) :
    x.options? e = none := by
  obtain ⟨c, outcome⟩ := x
  cases c with
  | get f => rfl
  | register f options =>
    have differs : f ≠ e := other
    simp [options?, differs]

/-- The options of the last successful registration; none before the first. -/
def inForce (e : Entity) (transcript : List Exchange) : List ModelOption :=
  (transcript.filterMap (options? e)).getLast?.getD []

end Exchange

def RegistryCall.options (before : List Exchange) : RegistryCall → List ModelOption
  | get e => Exchange.inForce e before
  | register _ options => options

namespace Registry

def answer (r : Registry) : RegistryCall → Except Error (Model × Registry)
  | .get e => r.get e
  | .register e options => r.register e options

def outcome (r : Registry) (c : RegistryCall) : Except Error Model := (r.answer c).map Prod.fst

/-- The registry after a call, which an error leaves as it was. -/
def after (r : Registry) (c : RegistryCall) : Registry :=
  match r.answer c with
  | .ok (_, next) => next
  | .error _ => r

def run (r : Registry) (calls : List RegistryCall) : Registry := calls.foldl after r

def transcript (r : Registry) : List RegistryCall → List Exchange
  | [] => []
  | c :: rest => ⟨c, r.outcome c⟩ :: (r.after c).transcript rest

variable {r : Registry} {e : Entity} {c : RegistryCall} {t : List Exchange}

theorem run_append (front back : List RegistryCall) :
    r.run (front ++ back) = (r.run front).run back := List.foldl_append

theorem transcript_append (front back : List RegistryCall) :
    r.transcript (front ++ back) = r.transcript front ++ (r.run front).transcript back := by
  induction front generalizing r with
  | nil => rfl
  | cons c rest ih =>
    rw [List.cons_append, transcript, transcript, ih, run, run, List.foldl_cons, List.cons_append]

theorem length_transcript (calls : List RegistryCall) :
    (r.transcript calls).length = calls.length := by
  induction calls generalizing r with
  | nil => rfl
  | cons c rest ih => rw [transcript, List.length_cons, List.length_cons, ih]

/-! ## One call -/

theorem outcome_register (options : List ModelOption) :
    r.outcome (.register e options) = Model.ofEntity e options := by
  rw [outcome, answer, register]
  cases Model.ofEntity e options <;> rfl

/-- A call that succeeds leaves its model in force, and only for its own entity. -/
theorem find?_after_of_ok {m : Model} (success : r.outcome c = .ok m) (identity : Nat) :
    (r.after c).find? identity =
      if identity = c.entity.identity then some m else r.find? identity := by
  have registered {f : Entity} {options : List ModelOption} {next : Registry}
      (made : r.register f options = .ok (m, next)) :
      next.find? identity = if identity = f.identity then some m else r.find? identity := by
    by_cases same : identity = f.identity
    · rw [if_pos same, same, find?_register_self made]
    · rw [if_neg same, find?_register_of_ne made same]
  rw [after]
  cases given : r.answer c with
  | error err => simp [outcome, given, Except.map] at success
  | ok found =>
    obtain ⟨model, next⟩ := found
    obtain rfl : model = m := by simpa [outcome, given, Except.map] using success
    cases c with
    | register f options => exact registered given
    | get f =>
      simp only [answer, get] at given
      split at given
      next known found =>
        obtain ⟨rfl, rfl⟩ : known = model ∧ r = next := by simpa using given
        change r.find? identity = if identity = f.identity then some known else r.find? identity
        by_cases same : identity = f.identity
        · rw [if_pos same, same, found]
        · rw [if_neg same]
      next => exact registered given

theorem after_of_error {err : Error} (failed : r.outcome c = .error err) : r.after c = r := by
  rw [after]
  cases given : r.answer c with
  | error _ => rfl
  | ok found => simp [outcome, given, Except.map] at failed

/-! ## The transcript decides -/

/-- What is in force for the entity follows from the transcript. -/
def Reflects (r : Registry) (e : Entity) (t : List Exchange) : Prop :=
  match r.find? e.identity with
  | some m => Model.ofEntity e (Exchange.inForce e t) = .ok m
  | none => Exchange.inForce e t = []

theorem reflects_empty (e : Entity) : empty.Reflects e [] := rfl

theorem Reflects.outcome_get (reflects : r.Reflects e t) :
    r.outcome (.get e) = Model.ofEntity e (Exchange.inForce e t) := by
  rw [Reflects] at reflects
  rw [outcome, answer, get]
  cases found : r.find? e.identity with
  | some m =>
    simp only [found] at reflects
    exact reflects.symm
  | none =>
    simp only [found] at reflects
    rw [reflects]
    exact outcome_register []

theorem Reflects.outcome_options (reflects : r.Reflects c.entity t) :
    r.outcome c = Model.ofEntity c.entity (c.options t) := by
  cases c with
  | get e => exact reflects.outcome_get
  | register e options => exact outcome_register options

theorem inForce_append_of_none {x : Exchange} (silent : x.options? e = none) :
    Exchange.inForce e (t ++ [x]) = Exchange.inForce e t := by
  rw [Exchange.inForce, List.filterMap_append, List.filterMap_cons_none silent,
    List.filterMap_nil, List.append_nil, Exchange.inForce]

theorem inForce_append_of_some {x : Exchange} {options : List ModelOption}
    (registers : x.options? e = some options) : Exchange.inForce e (t ++ [x]) = options := by
  rw [Exchange.inForce, List.filterMap_append, List.filterMap_cons_some registers,
    List.filterMap_nil, List.getLast?_concat, Option.getD_some]

/-- One call: what is in force for an entity changes with a successful registration of it, and
with nothing else. -/
theorem Reflects.after (reflects : r.Reflects e t)
    (faithful : c.entity.identity = e.identity → c.entity = e) :
    (r.after c).Reflects e (t ++ [⟨c, r.outcome c⟩]) := by
  cases result : r.outcome c with
  | error err =>
    have silent : (Exchange.mk c (.error err)).options? e = none := by
      cases c <;> simp [Exchange.options?, Exchange.succeeded, Except.isOk, Except.toBool]
    rw [after_of_error result, Reflects, inForce_append_of_none silent]
    exact reflects
  | ok m =>
    have found := find?_after_of_ok result e.identity
    by_cases own : e.identity = c.entity.identity
    · rw [if_pos own] at found
      simp only [Reflects, found]
      have same := faithful own.symm
      cases c with
      | get f =>
        obtain rfl : f = e := same
        rw [inForce_append_of_none rfl, ← reflects.outcome_get, result]
      | register f options =>
        obtain rfl : f = e := same
        have registers : (Exchange.mk (.register f options) (.ok m)).options? f = some options := by
          simp [Exchange.options?, Exchange.succeeded, Except.isOk, Except.toBool]
        rw [inForce_append_of_some registers, ← result, outcome_register]
    · rw [if_neg own] at found
      have other : c.entity ≠ e := fun same => own (congrArg Entity.identity same).symm
      have silent : (Exchange.mk c (.ok m)).options? e = none := Exchange.options?_of_ne other
      rw [Reflects, found, inForce_append_of_none silent]
      exact reflects

theorem reflects_run {calls : List RegistryCall}
    (faithful : ∀ d ∈ calls, d.entity.identity = e.identity → d.entity = e) :
    (empty.run calls).Reflects e (empty.transcript calls) := by
  induction calls using List.reverseRecOn with
  | nil => exact reflects_empty e
  | append_singleton front c ih =>
    have before := ih fun d member => faithful d (List.mem_append_left [c] member)
    have step := before.after (faithful c (by simp))
    rw [run_append, transcript_append]
    exact step

/-! ## Other entities do not matter -/

/-- Whether a registration succeeds does not depend on the registry. -/
theorem filterMap_options?_transcript (calls : List RegistryCall) :
    (r.transcript calls).filterMap (Exchange.options? e) =
      calls.filterMap fun c => Exchange.options? e ⟨c, empty.outcome c⟩ := by
  induction calls generalizing r with
  | nil => rfl
  | cons c rest ih =>
    have same : Exchange.options? e ⟨c, r.outcome c⟩ =
        Exchange.options? e ⟨c, empty.outcome c⟩ := by
      cases c with
      | get f => rfl
      | register f options => rw [outcome_register, outcome_register]
    rw [transcript, List.filterMap_cons, List.filterMap_cons, same, ih]

theorem inForce_transcript_filter (calls : List RegistryCall) :
    Exchange.inForce e (r.transcript (calls.filter fun c => c.entity = e)) =
      Exchange.inForce e (r.transcript calls) := by
  have own (c : RegistryCall) :
      (if decide (c.entity = e) = true then Exchange.options? e ⟨c, empty.outcome c⟩ else none) =
        Exchange.options? e ⟨c, empty.outcome c⟩ := by
    by_cases same : c.entity = e
    · rw [if_pos (decide_eq_true same)]
    · rw [if_neg (by simpa using same), Exchange.options?_of_ne same]
  rw [Exchange.inForce, Exchange.inForce, filterMap_options?_transcript,
    filterMap_options?_transcript, List.filterMap_filter]
  simp only [own]

theorem options_transcript_filter (calls : List RegistryCall) :
    c.options (r.transcript (calls.filter fun d => d.entity = c.entity)) =
      c.options (r.transcript calls) := by
  cases c with
  | get e => exact inForce_transcript_filter calls
  | register e options => rfl

/-! ## The size -/

theorem length_eraseDups (l : List Nat) : l.eraseDups.length = l.toFinset.card := by
  cases l with
  | nil => rfl
  | cons a rest =>
    have shorter : (rest.filter fun b => !b == a).length < (a :: rest).length :=
      Nat.lt_succ_of_le (List.length_filter_le _ _)
    have others := length_eraseDups (rest.filter fun b => !b == a)
    have members : (a :: rest).toFinset = insert a (rest.filter fun b => !b == a).toFinset := by
      ext b
      by_cases same : b = a <;> simp [same]
    rw [List.eraseDups_cons, List.length_cons, others, members, Finset.card_insert_of_notMem]
    simp
termination_by l.length
decreasing_by exact shorter

/-- The entities with a model are those for which a call succeeded. -/
theorem mem_history_after (identity : Nat) :
    identity ∈ (r.after c).history.map Registration.entity ↔
      identity ∈ r.history.map Registration.entity ∨
        (r.outcome c).isOk ∧ identity = c.entity.identity := by
  have present (s : Registry) :
      identity ∈ s.history.map Registration.entity ↔ (s.find? identity).isSome := by
    simp [find?]
  rw [present, present]
  cases result : r.outcome c with
  | error err => simp [after_of_error result, Except.isOk, Except.toBool]
  | ok m =>
    rw [find?_after_of_ok result]
    by_cases own : identity = c.entity.identity <;> simp [own, Except.isOk, Except.toBool]

theorem mem_history_run (calls : List RegistryCall) (identity : Nat) :
    identity ∈ (r.run calls).history.map Registration.entity ↔
      identity ∈ r.history.map Registration.entity ∨
        ∃ x ∈ r.transcript calls, x.succeeded ∧ identity = x.call.entity.identity := by
  induction calls generalizing r with
  | nil => simp [run, transcript]
  | cons c rest ih =>
    rw [run, List.foldl_cons, ← run, ih, mem_history_after, transcript]
    simp only [List.mem_cons, exists_eq_or_imp, Exchange.succeeded, or_assoc]

theorem size_run (calls : List RegistryCall) :
    (empty.run calls).size = (((empty.transcript calls).filter Exchange.succeeded).map
      fun x => x.call.entity.identity).toFinset.card := by
  rw [size, length_eraseDups]
  congr 1
  ext identity
  rw [List.mem_toFinset, List.mem_toFinset, mem_history_run]
  simp only [empty, List.map_nil, List.not_mem_nil, false_or, List.mem_map, List.mem_filter]
  constructor
  · rintro ⟨x, member, success, rfl⟩
    exact ⟨x, ⟨member, success⟩, rfl⟩
  · rintro ⟨x, ⟨member, success⟩, rfl⟩
    exact ⟨x, member, success, rfl⟩

/-! ## Sequences of calls -/

/-- Every call gives what the derivation with its options gives, model or error: a registration
with its own options, a `get` with those in force. The calls for other entities can be left
out, a call that fails can be left out of the sequence without any other outcome changing, and
the size counts the entities for which a call succeeded. -/
theorem outcome_run (calls : List RegistryCall)
    (faithful : ∀ c ∈ calls, ∀ d ∈ calls,
      c.entity.identity = d.entity.identity → c.entity = d.entity) :
    (∀ earlier c later, calls = earlier ++ c :: later →
      let given := (empty.run earlier).outcome c
      given = Model.ofEntity c.entity (c.options (empty.transcript earlier)) ∧
        given = (empty.run (earlier.filter fun d => d.entity = c.entity)).outcome c ∧
        ((∃ err, given = .error err) → empty.transcript (earlier ++ later) =
          (empty.transcript calls).eraseIdx earlier.length)) ∧
      (empty.run calls).size = (((empty.transcript calls).filter Exchange.succeeded).map
        fun x => x.call.entity.identity).toFinset.card := by
  refine ⟨?_, size_run calls⟩
  rintro earlier c later rfl
  have sameEntity : ∀ d ∈ earlier, d.entity.identity = c.entity.identity → d.entity = c.entity :=
    fun d member => faithful d (List.mem_append_left _ member) c (by simp)
  have outcome := (reflects_run sameEntity).outcome_options
  have alone : (empty.run (earlier.filter fun d => d.entity = c.entity)).outcome c = _ :=
    (reflects_run fun d member => sameEntity d (List.mem_of_mem_filter member)).outcome_options
  refine ⟨outcome, ?_, ?_⟩
  · rw [outcome, alone, options_transcript_filter]
  · rintro ⟨err, failed⟩
    rw [transcript_append, transcript_append, transcript, after_of_error failed,
      List.eraseIdx_append_of_length_le (by rw [length_transcript]), length_transcript]
    simp

/-- A registration that fails between one that succeeds and a `get`. -/
theorem outcome_run_failedRegistration :
    let person : Entity := .derived 7 "Person" "" [⟨"id", .scalar .int64, ""⟩]
    let badge : Entity := .derived 8 "Badge" "" [⟨"code", .scalar .int64, ""⟩]
    let earlier : List RegistryCall := [.get person, .register person [.tableName "people"],
      .get badge, .register person [.columnName "missing" "x"]]
    (empty.run earlier).outcome (.get person) = .ok ⟨"people", [⟨"id", "id", "i64", 0⟩]⟩ ∧
      (empty.run (earlier ++ [.get person])).size = 2 := by
  intro person badge earlier
  have faithful : ∀ c ∈ earlier ++ [.get person], ∀ d ∈ earlier ++ [.get person],
      c.entity.identity = d.entity.identity → c.entity = d.entity := by decide +kernel
  obtain ⟨outcomes, size⟩ := outcome_run (earlier ++ [.get person]) faithful
  have outcome := (outcomes earlier (.get person) [] rfl).1
  refine ⟨outcome.trans ?_, size.trans ?_⟩
  · decide +kernel
  · decide +kernel

end Registry

end RecordSql
