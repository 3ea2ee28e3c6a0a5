import RecordSql.Declare.Grammar
/-! # What readers take and give

Two readers that do the same on short input, and what the tokens that they take have to do with what
they give. There is one rule for each way to put a reader together. A phrase spells tokens that it
has taken: it repeats none and adds only signs, placeholders and numbers of its own. -/
set_option autoImplicit false
namespace RecordSql.Declare

variable {α β : Type}

/-! ## Spelling -/

/-- The tokens that a spelling may add on its own: a sign that is missing, parentheses, the pattern
for everything, and numbers, which are written in one way only. -/
def Token.isFiller : Token → Bool
  | .number _ => true
  | .mark c joined => !joined && (c == ',' || c == '=' || c == ':')
  | .word written => written == "_"
  | .bracket c => c == '(' || c == ')'
  | _ => false

/-- Fillers apart, nothing is spelled more often than it was taken. -/
def DrawnFrom (taken spelled : List Token) : Prop :=
  ∀ token : Token, token.isFiller = false → spelled.count token ≤ taken.count token

namespace DrawnFrom

variable {taken more spelled other : List Token}

theorem refl (taken : List Token) : DrawnFrom taken taken := fun _ _ => Nat.le_refl _

theorem nil (taken : List Token) : DrawnFrom taken [] := fun _ _ => Nat.zero_le _

theorem append (first : DrawnFrom taken spelled) (second : DrawnFrom more other) :
    DrawnFrom (taken ++ more) (spelled ++ other) := by
  intro token plain
  have left := first token plain
  have right := second token plain
  rw [List.count_append, List.count_append]
  omega

theorem left (drawn : DrawnFrom taken spelled) (more : List Token) :
    DrawnFrom (taken ++ more) spelled := by
  intro token plain
  have enough := drawn token plain
  rw [List.count_append]
  omega

theorem right (drawn : DrawnFrom more spelled) (taken : List Token) :
    DrawnFrom (taken ++ more) spelled := by
  intro token plain
  have enough := drawn token plain
  rw [List.count_append]
  omega

theorem of_sublist (drawn : DrawnFrom taken spelled) (sublist : other.Sublist spelled) :
    DrawnFrom taken other :=
  fun token plain => Nat.le_trans (sublist.count_le token) (drawn token plain)

theorem of_fillers {spelled : List Token} (fillers : ∀ token ∈ spelled, token.isFiller = true) :
    DrawnFrom taken spelled := by
  intro token plain
  have absent : token ∉ spelled := by
    intro member
    rw [fillers token member] at plain
    contradiction
  rw [List.count_eq_zero_of_not_mem absent]
  exact Nat.zero_le _

end DrawnFrom

/-- A phrase has taken so many tokens at least and spells only what it has taken. -/
structure Spelled (least : Nat) (taken spelled : List Token) : Prop where
  length : least ≤ taken.length
  drawn : DrawnFrom taken spelled

namespace Spelled

variable {least l : Nat} {taken more spelled other : List Token}

theorem append (first : Spelled least taken spelled) (second : Spelled l more other) :
    Spelled least (taken ++ more) (spelled ++ other) := by
  refine ⟨?_, first.drawn.append second.drawn⟩
  rw [List.length_append]
  exact Nat.le_trans first.length (Nat.le_add_right _ _)

/-- What was taken before may be spelled in part. -/
theorem behind (drawn : DrawnFrom taken spelled) (second : Spelled l more other) :
    Spelled l (taken ++ more) (spelled ++ other) := by
  refine ⟨?_, drawn.append second.drawn⟩
  rw [List.length_append]
  exact Nat.le_trans second.length (Nat.le_add_left _ _)

theorem right (spells : Spelled least more spelled) (taken : List Token) :
    Spelled least (taken ++ more) spelled :=
  behind (.nil taken) spells

/-- What is taken in the end need not be spelled. -/
theorem left (spells : Spelled least taken spelled) (more : List Token) :
    Spelled least (taken ++ more) spelled := by
  refine ⟨?_, spells.drawn.left more⟩
  rw [List.length_append]
  exact Nat.le_trans spells.length (Nat.le_add_right _ _)

end Spelled

/-- What is spelled of a thing that may only be recognized. -/
structure Recognized (least : Nat) (taken : List Token) (found : Option (List Token)) : Prop where
  length : least ≤ taken.length
  drawn : ∀ spelled, found = some spelled → DrawnFrom taken spelled

namespace Recognized

variable {least : Nat} {taken more front spelled : List Token} {found : Option (List Token)}

theorem unknown (length : least ≤ taken.length) : Recognized least taken none :=
  ⟨length, fun _ nothing => nomatch nothing⟩

theorem known (spells : Spelled least taken spelled) : Recognized least taken (some spelled) := by
  refine ⟨spells.length, fun other given => ?_⟩
  obtain rfl := Option.some.inj given
  exact spells.drawn

theorem known_if_not (c : Bool) (spells : Spelled least taken spelled) :
    Recognized least taken (if c then none else some spelled) := by
  cases c with
  | true => exact unknown spells.length
  | false => exact known spells

theorem behind (drawn : DrawnFrom taken front) (recognized : Recognized least more found) :
    Recognized least (taken ++ more) (found.map (front ++ ·)) := by
  constructor
  · rw [List.length_append]
    exact Nat.le_trans recognized.length (Nat.le_add_left _ _)
  · intro whole given
    obtain ⟨spelled, rfl, rfl⟩ := Option.map_eq_some_iff.mp given
    exact drawn.append (recognized.drawn spelled rfl)

end Recognized

theorem Reader.run_bind (x : Reader α) (f : α → Reader β) (tokens : List Token) :
    (x >>= f).run tokens = (x.run tokens).bind fun found => (f found.1).run found.2 := by
  cases ran : x.run tokens <;> simp [bind, ran]

/-- Steps are repeated until one has nothing to add, behind which the rest is left. -/
theorem Reader.repeated_stops {step : α → Reader (Option α)} {a b : α} {tokens rest : List Token}
    (run : (Reader.repeated step a).run tokens = some (b, rest)) :
    ∃ last ahead, (step last).run ahead = some (none, rest) := by
  have bounded (fuel : Nat) (a : α) (tokens : List Token)
      (run : (Reader.repeatAtMost step fuel a).run tokens = some (b, rest)) :
      ∃ last ahead, (step last).run ahead = some (none, rest) := by
    induction fuel generalizing a tokens with
    | zero => exact nomatch run
    | succ fuel ih =>
      rw [repeatAtMost, run_bind] at run
      obtain ⟨⟨next?, left⟩, stepped, others⟩ := Option.bind_eq_some_iff.mp run
      cases next? with
      | none =>
        obtain ⟨rfl, rfl⟩ := Prod.mk.inj (Option.some.inj others)
        exact ⟨a, tokens, stepped⟩
      | some next => exact ih next left others
  exact bounded (tokens.length + 1) a tokens run

/-! ## Readers that do the same -/

/-- On at most `n` tokens the readers do the same. They take tokens from the front, and these go
with what they give as `post` says. -/
def Reader.Alike (n : Nat) (x y : Reader α) (post : List Token → α → Prop) : Prop :=
  ∀ tokens : List Token, tokens.length ≤ n → y.run tokens = x.run tokens ∧
    ∀ a rest, x.run tokens = some (a, rest) → ∃ taken, tokens = taken ++ rest ∧ post taken a

namespace Reader.Alike

variable {n m : Nat} {x y : Reader α} {p q : List Token → α → Prop}

theorem mono (alike : Alike n x y p) (le : m ≤ n) : Alike m x y p :=
  fun tokens short => alike tokens (Nat.le_trans short le)

theorem weaken (alike : Alike n x y p) (implies : ∀ taken a, p taken a → q taken a) :
    Alike n x y q := by
  intro tokens short
  obtain ⟨same, gives⟩ := alike tokens short
  refine ⟨same, fun a rest run => ?_⟩
  obtain ⟨taken, split, holds⟩ := gives a rest run
  exact ⟨taken, split, implies taken a holds⟩

theorem right (alike : Alike n x y p) : Alike n y y p := by
  intro tokens short
  obtain ⟨same, gives⟩ := alike tokens short
  exact ⟨rfl, fun a rest run => gives a rest (same ▸ run)⟩

theorem pure {a : α} (holds : p [] a) : Alike n (Pure.pure a) (Pure.pure a) p := by
  intro tokens short
  refine ⟨rfl, fun b rest run => ?_⟩
  obtain ⟨rfl, rfl⟩ := Prod.mk.inj (Option.some.inj run)
  exact ⟨[], rfl, holds⟩

theorem fail : Alike n (Reader.fail : Reader α) Reader.fail p :=
  fun _ _ => ⟨rfl, fun _ _ run => nomatch run⟩

/-- The second readers are given what the first ones leave. -/
theorem bind {f g : α → Reader β} {r : List Token → β → Prop} (first : Alike n x y p)
    (second : ∀ a taken, p taken a → ∀ m, m + taken.length ≤ n →
      Alike m (f a) (g a) fun more b => r (taken ++ more) b) :
    Alike n (x >>= f) (y >>= g) r := by
  intro tokens short
  obtain ⟨same, gives⟩ := first tokens short
  rw [run_bind, run_bind, same]
  cases run : x.run tokens with
  | none => exact ⟨rfl, fun _ _ nothing => nomatch nothing⟩
  | some found =>
    obtain ⟨a, rest⟩ := found
    obtain ⟨taken, rfl, holds⟩ := gives a rest run
    rw [List.length_append, Nat.add_comm] at short
    obtain ⟨again, behind⟩ := second a taken holds rest.length short rest (Nat.le_refl _)
    refine ⟨again, fun b last run => ?_⟩
    obtain ⟨more, rfl, result⟩ := behind b last run
    exact ⟨taken ++ more, (List.append_assoc _ _ _).symm, result⟩

/-- Nothing follows a failure. -/
theorem fail_bind {f g : α → Reader β} {r : List Token → β → Prop} :
    Alike n (Reader.fail >>= f) (Reader.fail >>= g) r :=
  fun _ _ => ⟨rfl, fun _ _ run => nomatch run⟩

theorem map {r : List Token → β → Prop} (f : α → β) (alike : Alike n x y p)
    (gives : ∀ taken a, p taken a → r taken (f a)) : Alike n (f <$> x) (f <$> y) r := by
  refine alike.bind fun a taken holds m _ => .pure ?_
  rw [List.append_nil]
  exact gives taken a holds

/-- Looking at what is left takes nothing. -/
theorem peek {γ : Type} (look : List Token → γ) {f g : γ → Reader β} {r : List Token → β → Prop}
    (each : ∀ tokens, Alike n (f (look tokens)) (g (look tokens)) r) :
    Alike n (⟨fun tokens => some (look tokens, tokens)⟩ >>= f)
      (⟨fun tokens => some (look tokens, tokens)⟩ >>= g) r :=
  fun tokens short => each tokens tokens short

theorem ahead (look : List Token → Bool) {f g : Bool → Reader β}
    {r : List Token → β → Prop} (each : ∀ answer, Alike n (f answer) (g answer) r) :
    Alike n (Reader.ahead look >>= f) (Reader.ahead look >>= g) r :=
  peek look fun tokens => each (look tokens)

theorem ite {c : Prop} [Decidable c] {x' y' : Reader α} (first : c → Alike n x y p)
    (second : ¬c → Alike n x' y' p) :
    Alike n (if c then x else x') (if c then y else y') p := by
  by_cases h : c
  · rw [if_pos h, if_pos h]
    exact first h
  · rw [if_neg h, if_neg h]
    exact second h

theorem orElse {x' y' : Reader α} (first : Alike n x y p) (second : Alike n x' y' p) :
    Alike n (x.orElse x') (y.orElse y') p := by
  intro tokens short
  obtain ⟨same, gives⟩ := first tokens short
  simp only [Reader.orElse, same]
  cases run : x.run tokens with
  | none => exact second tokens short
  | some found => exact ⟨rfl, fun a rest given => gives a rest (run.trans given)⟩

theorem repeated {step step' : α → Reader (Option α)} {a : α} (start : p [] a)
    (each : ∀ a taken, p taken a → ∀ m, m + taken.length ≤ n → Alike m (step a) (step' a)
      fun more next? => p (taken ++ more) (next?.getD a)) :
    Alike n (repeated step a) (repeated step' a) p := by
  -- The fuel is the same on both sides, so that running out of it is no difference.
  have bounded (fuel : Nat) : ∀ a taken, p taken a → ∀ m, m + taken.length ≤ n →
      Alike m (repeatAtMost step fuel a) (repeatAtMost step' fuel a)
        fun more b => p (taken ++ more) b := by
    induction fuel with
    | zero => exact fun _ _ _ _ _ => fail
    | succ fuel ih =>
      intro a taken holds m room
      rw [repeatAtMost, repeatAtMost]
      refine (each a taken holds m room).bind fun next? more holds k left => ?_
      cases next? with
      | none => exact pure (by simpa using holds)
      | some b =>
        have shorter : k + (taken ++ more).length ≤ n := by
          rw [List.length_append]
          omega
        refine (ih b (taken ++ more) holds k shorter).weaken fun last c result => ?_
        rwa [List.append_assoc] at result
  intro tokens short
  exact bounded (tokens.length + 1) a [] start n (by simp) tokens short

theorem withWritten (alike : Alike n x y p) :
    Alike n x.withWritten y.withWritten fun taken found => p taken found.1 ∧ found.2 = taken := by
  intro tokens short
  obtain ⟨same, gives⟩ := alike tokens short
  simp only [Reader.withWritten, same, true_and]
  intro found rest run
  obtain ⟨⟨a, left⟩, ran, made⟩ := Option.map_eq_some_iff.mp run
  obtain ⟨rfl, rfl⟩ := Prod.mk.inj made
  obtain ⟨taken, rfl, holds⟩ := gives a left ran
  refine ⟨taken, rfl, holds, ?_⟩
  rw [List.length_append, Nat.add_sub_cancel, List.take_left]

end Reader.Alike

/-! ## Phrases that do the same -/

/-- The phrases do the same on at most `n` tokens and spell what they take, `least` at least. -/
abbrev Phrase.Alike (n least : Nat) (x y : Phrase) : Prop := Reader.Alike n x y (Spelled least)

/-- The phrases of all forms do the same on less than `n` tokens, and take one at least. -/
def Later (n : Nat) (read read' : Form → Phrase) : Prop :=
  ∀ form m, m < n → Phrase.Alike m 1 (read form) (read' form)

namespace Later

variable {n m : Nat} {read read' : Form → Phrase}

theorem mono (later : Later n read read') (le : m ≤ n) : Later m read read' :=
  fun form k small => later form k (Nat.lt_of_lt_of_le small le)

theorem below (later : Later n read read') (less : m < n) : Later m read read' :=
  later.mono (Nat.le_of_lt less)

theorem now (later : Later (n + 1) read read') (form : Form) :
    Phrase.Alike n 1 (read form) (read' form) :=
  later form n (Nat.lt_succ_self n)

end Later

namespace Phrase.Alike

variable {n k l : Nat} {x y x' y' : Phrase} {look : List Token → Bool}

theorem loose (alike : Alike n k x y) : Alike n 0 x y :=
  alike.weaken fun _ _ spelled => ⟨Nat.zero_le _, spelled.drawn⟩

theorem appendWith (first : Alike n k x y)
    (second : ∀ m, m + k ≤ n → Alike m l x' y') :
    Alike n (k + l) (x ++ x') (y ++ y') := by
  refine Reader.Alike.bind first fun a taken spelled m room => ?_
  have left : m + k ≤ n := by
    have enough := spelled.length
    omega
  refine (second m left).bind fun b more spelled' i _ => .pure ?_
  rw [List.append_nil]
  refine ⟨?_, spelled.drawn.append spelled'.drawn⟩
  have enough := spelled.length
  have enough' := spelled'.length
  rw [List.length_append]
  omega

/-- Nothing may have been taken before the second phrase. -/
theorem append (first : Alike n k x y) (second : Alike n l x' y') :
    Alike n l (x ++ x') (y ++ y') := by
  have both := first.loose.appendWith fun m room => second.mono (by omega : m ≤ n)
  rwa [Nat.zero_add] at both

/-- The second phrase is left less than there was. -/
theorem before (first : Alike n 1 x y) (second : ∀ m, m < n → Alike m l x' y') :
    Alike n 1 (x ++ x') (y ++ y') :=
  (first.appendWith fun m room => second m (by omega)).weaken fun _ _ spelled =>
    ⟨by have enough := spelled.length; omega, spelled.drawn⟩

theorem nothing : Alike n 0 Phrase.nothing Phrase.nothing :=
  .pure ⟨Nat.le_refl 0, .nil []⟩

theorem one : Alike n 1 (Phrase.one look) (Phrase.one look) := by
  intro tokens short
  refine ⟨rfl, fun spelled rest run => ?_⟩
  cases tokens with
  | nil => exact nomatch run
  | cons token tokens =>
    by_cases fits : look (token :: tokens) = true
    · simp only [Phrase.one, if_pos fits, Option.some.injEq, Prod.mk.injEq] at run
      obtain ⟨rfl, rfl⟩ := run
      exact ⟨[token], rfl, Nat.le_refl 1, .refl _⟩
    · simp [Phrase.one, if_neg fits] at run

/-- So many tokens from the front. -/
theorem taking {count : List Token → Nat} (enough : ∀ tokens, look tokens = true →
    k ≤ count tokens ∧ count tokens ≤ tokens.length) :
    let x : Phrase := ⟨fun tokens =>
      if look tokens then some (tokens.take (count tokens), tokens.drop (count tokens)) else none⟩
    Alike n k x x := by
  intro x tokens short
  refine ⟨rfl, fun spelled rest run => ?_⟩
  by_cases fits : look tokens = true
  · simp only [x, if_pos fits, Option.some.injEq, Prod.mk.injEq] at run
    obtain ⟨rfl, rfl⟩ := run
    obtain ⟨many, few⟩ := enough tokens fits
    refine ⟨tokens.take (count tokens), (List.take_append_drop _ _).symm, ?_, .refl _⟩
    rw [List.length_take, Nat.min_eq_left few]
    exact many
  · simp [x, if_neg fits] at run

end Phrase.Alike

theorem Ahead.length_le_of_areMarks {marks : List Char} {tokens : List Token}
    (fits : Ahead.areMarks marks tokens = true) : marks.length ≤ tokens.length := by
  induction marks generalizing tokens with
  | nil => exact Nat.zero_le _
  | cons c marks ih =>
    cases tokens with
    | nil => cases marks <;> exact nomatch fits
    | cons token tokens =>
      cases token with
      | mark d joined =>
        cases marks with
        | nil => simp
        | cons c' marks =>
          simp only [areMarks, Bool.and_eq_true] at fits
          have rest := ih fits.2
          simp only [List.length_cons] at rest ⊢
          omega
      | _ => cases marks <;> exact nomatch fits

theorem Ahead.behindBrackets_suffix (depth : Nat) (tokens : List Token) :
    behindBrackets depth tokens <:+ tokens := by
  fun_induction behindBrackets depth tokens with
  | case1 => exact List.suffix_rfl
  | case2 depth c rest opens ih => exact ih.trans (List.suffix_cons _ _)
  | case3 c rest => exact List.suffix_cons _ _
  | case4 c rest => exact List.suffix_cons _ _
  | case5 c rest closes depth ih => exact ih.trans (List.suffix_cons _ _)
  | case6 depth token rest _ ih => exact ih.trans (List.suffix_cons _ _)

def Ahead.isOpening (tokens : List Token) : Bool :=
  isBracket '(' tokens || isBracket '[' tokens || isBracket '\x7b' tokens

/-- A group takes its brackets at k. -/
theorem Ahead.behindGroup_suffix {tokens : List Token} (opens : isOpening tokens = true) :
    behindGroup tokens <:+ tokens.tail ∧ tokens ≠ [] := by
  cases tokens with
  | nil => exact nomatch opens
  | cons token rest =>
    cases token with
    | bracket c =>
      have opening : ['(', '[', '\x7b'].contains c = true := by
        simp only [isOpening, isBracket, Bool.or_eq_true, beq_iff_eq] at opens
        rcases opens with (rfl | rfl) | rfl <;> rfl
      rw [behindGroup, behindBrackets, if_pos opening]
      exact ⟨behindBrackets_suffix 1 rest, List.cons_ne_nil _ _⟩
    | _ => exact nomatch opens

namespace Phrase.Alike

variable {n k l : Nat} {x y x' y' : Phrase} {look : List Token → Bool}

theorem mark {marks : String} (given : (marks.length == 0) = false) :
    Alike n 1 (Phrase.mark marks) (Phrase.mark marks) := by
  have enough (tokens : List Token) (fits : Ahead.isMark marks tokens = true) :
      1 ≤ marks.length ∧ marks.length ≤ tokens.length := by
    have few := Ahead.length_le_of_areMarks fits
    rw [String.length_toList] at few
    exact ⟨Nat.pos_of_ne_zero (beq_eq_false_iff_ne.mp given), few⟩
  exact taking enough

theorem group : Alike n 1 Phrase.group Phrase.group := by
  have sized (tokens : List Token) (opens : Ahead.isOpening tokens = true) :
      (Ahead.behindGroup tokens).length < tokens.length := by
    obtain ⟨suffix, some⟩ := Ahead.behindGroup_suffix opens
    have short := suffix.length_le
    have positive := List.length_pos_iff.mpr some
    rw [List.length_tail] at short
    omega
  have same : Phrase.group = ⟨fun tokens =>
      if Ahead.isOpening tokens then
        some (tokens.take (tokens.length - (Ahead.behindGroup tokens).length),
          tokens.drop (tokens.length - (Ahead.behindGroup tokens).length))
      else none⟩ := by
    rw [Phrase.group]
    congr 1
    funext tokens
    by_cases opens : Ahead.isOpening tokens = true
    · have split := (Ahead.behindGroup_suffix opens).1.trans (List.tail_suffix tokens)
      rw [if_pos opens, ← List.suffix_iff_eq_drop.mp split]
      exact if_pos opens
    · rw [if_neg opens]
      exact if_neg opens
  rw [same]
  refine taking fun tokens opens => ?_
  have short := sized tokens opens
  omega

end Phrase.Alike

section

variable {look : List Token → Bool} {tokens : List Token}

theorem Phrase.run_ifAhead_of_fits (fits : look tokens = true) (x y : Phrase) :
    (Phrase.ifAhead look x y).run tokens = x.run tokens := by
  change (if look tokens then x else y).run tokens = x.run tokens
  rw [if_pos fits]

theorem Phrase.run_ifAhead_of_not_fits (fits : look tokens = false) (x y : Phrase) :
    (Phrase.ifAhead look x y).run tokens = y.run tokens := by
  change (if look tokens then x else y).run tokens = y.run tokens
  rw [fits, if_neg Bool.false_ne_true]

/-- A phrase that is read only where `look` fits needs to be known only there. -/
theorem Phrase.ifAhead_congr {x x' : Phrase} (y : Phrase)
    (same : ∀ tokens, look tokens = true → x.run tokens = x'.run tokens) :
    Phrase.ifAhead look x y = Phrase.ifAhead look x' y := by
  have eta (z : Phrase) : z = ⟨fun tokens => z.run tokens⟩ := rfl
  rw [eta (Phrase.ifAhead look x y), eta (Phrase.ifAhead look x' y)]
  congr 1
  funext tokens
  cases fits : look tokens with
  | true => rw [run_ifAhead_of_fits fits, run_ifAhead_of_fits fits, same tokens fits]
  | false => rw [run_ifAhead_of_not_fits fits, run_ifAhead_of_not_fits fits]

/-- A phrase is repeated as long as `look` fits. -/
theorem Phrase.whenever_stops {x : Phrase} {spelled rest : List Token}
    (run : (Phrase.whenever look x).run tokens = some (spelled, rest)) : look rest = false := by
  obtain ⟨front, ahead, stopped⟩ := Reader.repeated_stops run
  change (if look ahead then do return some (front ++ (← x)) else return none : Reader _).run
    ahead = some (none, rest) at stopped
  cases fits : look ahead with
  | false =>
    rw [fits, if_neg Bool.false_ne_true] at stopped
    obtain ⟨-, rfl⟩ := Prod.mk.inj (Option.some.inj stopped)
    exact fits
  | true =>
    rw [fits, if_pos rfl, Reader.run_bind] at stopped
    obtain ⟨found, -, added⟩ := Option.bind_eq_some_iff.mp stopped
    exact nomatch added

end

namespace Phrase.Alike

variable {n k l : Nat} {x y x' y' : Phrase} {look : List Token → Bool}

theorem ifAhead (first : Alike n k x y) (second : Alike n k x' y') :
    Alike n k (Phrase.ifAhead look x x') (Phrase.ifAhead look y y') :=
  Reader.Alike.ahead look fun _ => .ite (fun _ => first) fun _ => second

theorem when (alike : Alike n k x y) : Alike n 0 (Phrase.when look x) (Phrase.when look y) :=
  ifAhead alike.loose nothing

theorem otherwise : Alike n k (Phrase.choose []) (Phrase.choose []) := Reader.Alike.fail

theorem case {rest rest' : List ((List Token → Bool) × Phrase)} (first : Alike n k x y)
    (others : Alike n k (Phrase.choose rest) (Phrase.choose rest')) :
    Alike n k (Phrase.choose ((look, x) :: rest)) (Phrase.choose ((look, y) :: rest')) :=
  ifAhead first others

/-- Where `look` fits, other phrases may stand for the first ones. -/
theorem caseOf {a b : Phrase} {rest rest' : List ((List Token → Bool) × Phrase)}
    (left : ∀ tokens, look tokens = true → a.run tokens = x.run tokens)
    (right : ∀ tokens, look tokens = true → b.run tokens = y.run tokens) (first : Alike n k x y)
    (others : Alike n k (Phrase.choose rest) (Phrase.choose rest')) :
    Alike n k (Phrase.choose ((look, a) :: rest)) (Phrase.choose ((look, b) :: rest')) := by
  have whole : Alike n k (Phrase.ifAhead look x (.choose rest))
      (Phrase.ifAhead look y (.choose rest')) := ifAhead first others
  rwa [← Phrase.ifAhead_congr _ left, ← Phrase.ifAhead_congr _ right] at whole

/-- Where `look` fits, nothing is left out. -/
theorem caseWhen {rest rest' : List ((List Token → Bool) × Phrase)} (first : Alike n k x y)
    (others : Alike n k (Phrase.choose rest) (Phrase.choose rest')) :
    Alike n k (Phrase.choose ((look, .when look x) :: rest))
      (Phrase.choose ((look, .when look y) :: rest')) :=
  caseOf (fun _ fits => Phrase.run_ifAhead_of_fits fits x .nothing)
    (fun _ fits => Phrase.run_ifAhead_of_fits fits y .nothing) first others

theorem maybe (w : String) : Alike n 0 (Phrase.maybe w) (Phrase.maybe w) := when one

theorem whenever (alike : Alike n k x y) :
    Alike n 0 (Phrase.whenever look x) (Phrase.whenever look y) := by
  refine .repeated ⟨Nat.le_refl 0, .nil []⟩ fun front taken spelled m room => ?_
  refine .ahead look fun _ => .ite (fun _ => ?_) fun _ => .pure (by simpa using spelled)
  have short : m ≤ n := by omega
  refine (alike.mono short).bind fun more taken' spelled' i _ => .pure ?_
  rw [List.append_nil]
  exact ⟨Nat.zero_le _, spelled.drawn.append spelled'.drawn⟩

/-- Where `look` fits at the start, the phrase is read once at least. -/
theorem started (alike : Alike n k x y) :
    Alike n 1 (Phrase.choose [(look, .whenever look x)])
      (Phrase.choose [(look, .whenever look y)]) := by
  have repeated : Alike n 0 (Phrase.whenever look x) (Phrase.whenever look y) := whenever alike
  intro tokens short
  cases fits : look tokens with
  | false =>
    have refused (z : Phrase) : (Phrase.choose [(look, z)]).run tokens = none :=
      Phrase.run_ifAhead_of_not_fits fits z .fail
    rw [refused, refused]
    exact ⟨rfl, fun _ _ run => nomatch run⟩
  | true =>
    have read (z : Phrase) : (Phrase.choose [(look, z)]).run tokens = z.run tokens :=
      Phrase.run_ifAhead_of_fits fits z .fail
    obtain ⟨same, gives⟩ := repeated tokens short
    rw [read, read]
    refine ⟨same, fun spelled rest run => ?_⟩
    obtain ⟨taken, split, spelled⟩ := gives spelled rest run
    refine ⟨taken, split, ?_, spelled.drawn⟩
    cases taken with
    | nil =>
      rw [split, List.nil_append, Phrase.whenever_stops run] at fits
      contradiction
    | cons token taken => exact Nat.succ_le_succ (Nat.zero_le _)

theorem listed (alike : Alike n k x y) :
    Alike n 0 (Phrase.listed look x) (Phrase.listed look y) := by
  refine .repeated ⟨Nat.le_refl 0, .nil []⟩ fun front taken spelled m room => ?_
  have short : m ≤ n := by omega
  refine .ahead look fun _ => .ite (fun _ => .pure (by simpa using spelled)) fun _ => ?_
  refine (alike.mono short).bind fun element more spelled' i _ => ?_
  have both := spelled.drawn.append spelled'.drawn
  refine .ahead look fun _ => .ite (fun _ => .pure ?_) fun _ => ?_
  · rw [List.append_nil]
    exact ⟨Nat.zero_le _, both⟩
  · refine Reader.Alike.bind (Phrase.Alike.mark rfl) fun comma last spelled'' _ _ => .pure ?_
    have all := both.append spelled''.drawn
    rw [List.append_assoc] at all
    exact ⟨Nat.zero_le _, by simpa using all⟩

theorem enclosed {opening closing : Char} (inside : ∀ m, m < n → Alike m k x y) :
    Alike n 1 (Phrase.bracket opening ++ x ++ Phrase.bracket closing)
      (Phrase.bracket opening ++ y ++ Phrase.bracket closing) :=
  (one.before inside).before fun _ _ => one

theorem enclosedList {opening closing : Char} (each : ∀ m, m < n → Alike m k x y) :
    Alike n 1 (Phrase.bracket opening ++ Phrase.listed look x ++ Phrase.bracket closing)
      (Phrase.bracket opening ++ Phrase.listed look y ++ Phrase.bracket closing) :=
  enclosed fun m less => listed (each m less)

theorem asWritten {a b : Reader α} {p : List Token → α → Prop} (alike : Reader.Alike n a b p)
    (takes : ∀ taken found, p taken found → k ≤ taken.length) :
    Alike n k a.asWritten b.asWritten := by
  refine alike.withWritten.bind fun found taken holds m _ => .pure ?_
  obtain ⟨made, rfl⟩ := holds
  rw [List.append_nil]
  exact ⟨takes _ _ made, .refl _⟩

theorem orAsWritten {a b : Reader (Option (List Token))}
    (alike : Reader.Alike n a b (Recognized k)) : Alike n k a.orAsWritten b.orAsWritten := by
  refine alike.withWritten.bind fun pair taken holds m _ => .pure ?_
  obtain ⟨found, written⟩ := pair
  obtain ⟨recognized, rfl⟩ := holds
  rw [List.append_nil]
  refine ⟨recognized.length, ?_⟩
  cases found with
  | none => exact .refl _
  | some spelled => exact recognized.drawn spelled rfl

/-- Brackets with all between them, or a single token. -/
theorem piece : Alike n 1
    (Phrase.choose [(Ahead.isBracket '(', .group), (Ahead.isBracket '[', .group),
      (Ahead.isBracket '\x7b', .group), (fun _ => true, .one fun _ => true)])
    (Phrase.choose [(Ahead.isBracket '(', .group), (Ahead.isBracket '[', .group),
      (Ahead.isBracket '\x7b', .group), (fun _ => true, .one fun _ => true)]) :=
  .case group <| .case group <| .case group <| .case one .otherwise

theorem remainder : Alike n 0 Phrase.remainder Phrase.remainder := whenever piece

end Phrase.Alike

end RecordSql.Declare
