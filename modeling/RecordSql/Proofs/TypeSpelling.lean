import RecordSql.Proofs.Readers
/-! # What types are spelled with

The phrases of types, with the paths, bounds and parameters in them, do the same whenever the
phrases do that they are built from, and they spell what they take. -/
set_option autoImplicit false
namespace RecordSql.Declare.Grammar

variable {n least : Nat} {read read' : Form → Phrase}

/-! ## Lists in angle brackets -/

def Element.tokens (e : Element) : List Token := e.written ++ e.comma

theorem alike_elements {element element' : Phrase} {isLifetime : List Token → Bool}
    (alike : Phrase.Alike n least element element') :
    Reader.Alike n (elements element isLifetime) (elements element' isLifetime)
      fun taken es => DrawnFrom taken (es.flatMap Element.tokens) := by
  refine .repeated (.nil []) fun front taken drawn m room => ?_
  have short : m ≤ n := by omega
  refine .ahead _ fun _ => .ite (fun _ => .pure (by simpa using drawn)) fun _ => ?_
  refine .ahead _ fun leads => ?_
  refine (alike.mono short).bind fun written more spelled k _ => ?_
  have both := drawn.append spelled.drawn
  refine .ahead _ fun _ => .ite (fun _ => .pure ?_) fun _ => ?_
  · simpa [Element.tokens] using both
  · refine Reader.Alike.bind (Phrase.Alike.mark rfl) fun comma last spelled' _ _ => .pure ?_
    have all := both.append spelled'.drawn
    simpa [Element.tokens, List.append_assoc] using all

theorem drawn_joinElements (elements : List Element) :
    DrawnFrom (elements.flatMap Element.tokens) (joinElements elements) := by
  induction elements with
  | nil => exact .nil _
  | cons e rest ih =>
    rw [List.flatMap_cons]
    cases rest with
    | nil =>
      rw [List.flatMap_nil, List.append_nil]
      exact .refl _
    | cons next rest =>
      have comma : DrawnFrom e.comma (if e.comma.isEmpty then [.mark ',' false] else e.comma) := by
        split
        next => exact .of_fillers (by simp [Token.isFiller])
        next => exact .refl _
      exact ((DrawnFrom.refl e.written).append comma).append ih

/-- The elements stand in another order than they were taken in. -/
theorem drawn_arranged {elements : List Element} {taken : List Token}
    (drawn : DrawnFrom taken (elements.flatMap Element.tokens)) :
    DrawnFrom taken (arranged elements) := by
  intro token plain
  have joined := drawn_joinElements
    (elements.filter (·.isLifetime) ++ elements.filter fun e => !e.isLifetime) token plain
  have order := (List.filter_append_perm (·.isLifetime) elements).flatMap_right Element.tokens
  rw [order.count_eq] at joined
  exact Nat.le_trans joined (drawn token plain)

/-- Elements between what opens and what closes the list, in their new order. -/
theorem spelled_arranged {elements : List Element} {taken more last opening closing : List Token}
    (front : Spelled least taken opening)
    (drawn : DrawnFrom more (elements.flatMap Element.tokens)) (back : DrawnFrom last closing) :
    Spelled least (taken ++ (more ++ last)) (opening ++ arranged elements ++ closing) := by
  have order := (drawn_arranged drawn).append back
  have whole := front.append (⟨Nat.zero_le _, order⟩ : Spelled 0 _ _)
  rwa [← List.append_assoc opening] at whole

/-! ## Smaller phrases -/

/-- A phrase behind a sign, which leaves it less than there was. -/
theorem alike_behindMark (later : Later n read read') (marks : String)
    (given : (marks.length == 0) = false) (form : Form) :
    Phrase.Alike n 1 (.mark marks ++ read form) (.mark marks ++ read' form) :=
  .before (.mark given) (later form)

theorem alike_memberNumber : Phrase.Alike n 1 memberNumber memberNumber := by
  refine Phrase.Alike.one.bind fun spelled taken drawn m _ => ?_
  split
  next written =>
    refine .pure ⟨?_, .of_fillers (by simp [Token.isFiller])⟩
    rw [List.append_nil]
    exact drawn.length
  next =>
    refine .pure ?_
    rw [List.append_nil]
    exact drawn

theorem alike_member : Phrase.Alike n 1 member member := .ifAhead alike_memberNumber .one

theorem alike_plainPath : Phrase.Alike n 1 plainPath plainPath := by
  have start : Phrase.Alike n 1 (.when (Ahead.isMark "::") (.mark "::") ++ .one isStep)
      (.when (Ahead.isMark "::") (.mark "::") ++ .one isStep) := .append (.when (.mark rfl)) .one
  exact start.before fun _ _ => .whenever (.append (.mark rfl) .one)

theorem alike_visibility : Phrase.Alike n 0 visibility visibility :=
  .when (.append .one (.when .group))

theorem alike_binaryInterface : Phrase.Alike n 0 binaryInterface binaryInterface :=
  .when (.append .one (.when .one))

section

variable (later : Later n read read')
include later

theorem alike_singleAttribute :
    Phrase.Alike n 1 (singleAttribute read) (singleAttribute read') := by
  apply Phrase.Alike.before
  · exact .before (.mark rfl) fun _ _ => .when (.mark rfl)
  · intro m less
    exact .enclosed fun k small => .append (.ifAhead .one alike_plainPath) <|
      .ifAhead (.append (.mark rfl) (later _ k (by omega)).loose) .remainder

theorem alike_attributes : Phrase.Alike n 0 (attributes read) (attributes read') :=
  .whenever (alike_singleAttribute later)

theorem alike_innerAttributes : Phrase.Alike n 0 (innerAttributes read) (innerAttributes read') :=
  .whenever (alike_singleAttribute later)

end

theorem alike_constant (now : Later (n + 1) read read') :
    Phrase.Alike n 1 (constant read) (constant read') :=
  .case (.append (.mark rfl) .one) <| .case .one <| .case (now.now .block) <| .case .one .otherwise

/-! ## Paths -/

theorem alike_bounds (now : Later (n + 1) read read') (stop : List Token → Bool) :
    Phrase.Alike n 0 (bounds read stop) (bounds read' stop) :=
  .whenever ((now.now .bound).before fun _ _ => .when (.mark rfl))

theorem alike_colonBounds (later : Later n read read') (stop : List Token → Bool) :
    Phrase.Alike n 1 (colonBounds read stop) (colonBounds read' stop) := by
  refine Reader.Alike.bind (Phrase.Alike.mark rfl) fun colon taken spelled m room => ?_
  have taken' := spelled.length
  refine (alike_bounds (later.mono (by omega)) stop).bind fun found more spelled' _ _ => .pure ?_
  constructor
  · rw [List.length_append]
    omega
  · rw [List.append_nil]
    split
    next => exact .nil _
    next => exact spelled.drawn.append spelled'.drawn

theorem alike_angledArgument (now : Later (n + 1) read read') :
    Phrase.Alike n 1 (angledArgument read) (angledArgument read') := by
  have type := now.now (.type true)
  refine .case .one <| .case (alike_constant now) <| .case (type.before (l := 0) ?_) .otherwise
  intro m less
  have here := now.below (Nat.succ_lt_succ less)
  have value : Phrase.Alike m 1 (.ifAhead isConstant (constant read) (read (.type true)))
      (.ifAhead isConstant (constant read') (read' (.type true))) :=
    .ifAhead (alike_constant here) (here.now _)
  exact .case (.append (.mark rfl) value.loose) <| .case (.append (.mark rfl) (alike_bounds here _)) <|
    .case .nothing .otherwise

theorem alike_result (later : Later n read read') (sums : Bool) :
    Phrase.Alike n 0 (result read sums) (result read' sums) :=
  .when (.before (.mark rfl) (later (.type sums)))

/-- Readers of paths that do the same behind `front`, which was taken before. -/
abbrev PathAlike (n : Nat) (front : List Token) (x y : Reader Path) : Prop :=
  Reader.Alike n x y fun taken p => Spelled 1 (front ++ taken) p.written

theorem alike_step (later : Later n read read') (inExpression : Bool) :
    PathAlike n [] (step read inExpression) (step read' inExpression) := by
  refine .ahead _ fun isPlace => Phrase.Alike.one.bind fun name taken spelled m room => ?_
  have some := spelled.length
  refine .ahead _ fun isAngled => .ite (fun _ => ?_) fun _ => .pure ?_
  · have opening : Phrase.Alike m 1 (.when (Ahead.isMark "::") (.mark "::") ++ .mark "<")
        (.when (Ahead.isMark "::") (.mark "::") ++ .mark "<") := .append (.when (.mark rfl)) (.mark rfl)
    refine opening.bind fun front more spelled' k _ => ?_
    have argument := alike_angledArgument (later.mono (by omega : k + 1 ≤ n))
    refine (alike_elements argument).bind fun found last drawn l _ => ?_
    refine Reader.Alike.bind (Phrase.Alike.mark rfl) fun closing behind spelled'' _ _ => .pure ?_
    have whole := spelled.append (spelled_arranged spelled' drawn spelled''.drawn)
    simpa [Path.written] using whole
  · simpa [Path.written] using spelled

/-- A path that was taken so far, and what is added to it. -/
theorem spelled_extend {p next : Path} {front more last colons : List Token}
    (first : Spelled 1 front p.written) (between : Spelled 1 more colons)
    (second : Spelled 1 last next.written) :
    Spelled 1 (front ++ (more ++ last)) (p.extend colons next).written := by
  have whole := first.append (between.append second)
  simpa [Path.extend, Path.written] using whole

theorem alike_steps (later : Later n read read') (inExpression : Bool)
    (more : List Token → Bool) {p : Path} {front : List Token}
    (start : Spelled 1 front p.written) :
    PathAlike n front (steps read inExpression more p) (steps read' inExpression more p) := by
  refine .repeated (by simpa using start) fun p taken spelled m room => ?_
  refine .ahead more fun _ => .ite (fun _ => ?_) fun _ => .pure (by simpa using spelled)
  refine Reader.Alike.bind (Phrase.Alike.mark rfl) fun colons between spelled' k less => ?_
  have step := alike_step (later.mono (by omega : k ≤ n)) inExpression
  refine step.bind fun next last spelled'' _ _ => .pure ?_
  simpa using spelled_extend spelled spelled' spelled''

theorem alike_path (later : Later n read read') (inExpression : Bool) :
    PathAlike n [] (path read inExpression) (path read' inExpression) := by
  have start : Phrase.Alike n 0 (.when (Ahead.isMark "::") (.mark "::"))
      (.when (Ahead.isMark "::") (.mark "::")) := .when (.mark rfl)
  refine start.bind fun colons taken spelled m room => ?_
  refine (alike_step (later.mono (by omega)) inExpression).bind fun first more spelled' k less => ?_
  have front : Spelled 1 (taken ++ more) (colons ++ first.written) := by
    refine ⟨?_, spelled.drawn.append spelled'.drawn⟩
    have some := spelled'.length
    simp only [List.nil_append] at some
    rw [List.length_append]
    omega
  have whole :
      Spelled 1 (taken ++ more) { first with front := colons ++ first.front : Path }.written := by
    simpa [Path.written] using front
  have steps := alike_steps (later.mono (by omega : k ≤ n)) inExpression goesOn whole
  refine steps.weaken fun last p result => ?_
  simpa using result

theorem alike_pathBelow (later : Later n read read') (inExpression : Bool) :
    PathAlike n [] (pathBelow read inExpression) (pathBelow read' inExpression) := by
  have opening : Phrase.Alike n 1 (.mark "<" ++ read (.type true))
      (.mark "<" ++ read' (.type true)) :=
    .before (.mark rfl) (later _)
  refine opening.bind fun front taken spelled m room => ?_
  have here : Later m read read' := later.mono (by omega)
  have role : Phrase.Alike m 1
      (do return (← Phrase.word "as") ++ (← path read false).written)
      (do return (← Phrase.word "as") ++ (← path read' false).written) := by
    refine Phrase.Alike.one.bind fun word taken' spelled' k less => ?_
    refine (alike_path (here.mono (by omega)) false).bind fun p more spelled'' _ _ => .pure ?_
    simpa using spelled'.append spelled''
  refine role.when.bind fun role taken' spelled' k less => ?_
  refine Reader.Alike.bind (Phrase.Alike.mark rfl) fun closing more spelled'' i few => ?_
  refine Reader.Alike.bind (Phrase.Alike.mark rfl) fun colons between spelled₃ j _ => ?_
  refine (alike_step (here.mono (by omega)) inExpression).bind fun first last spelled₄ l _ => ?_
  have start : Spelled 1 (taken ++ (taken' ++ more))
      (⟨front ++ role ++ closing, [], true, false⟩ : Path).written := by
    simpa [Path.written] using spelled.append (spelled'.append spelled'')
  have whole := spelled_extend start spelled₃ spelled₄
  refine (alike_steps (here.mono (by omega)) inExpression _ whole).weaken fun end' p result => ?_
  simpa using result

theorem alike_anyPath (later : Later n read read') (inExpression : Bool) :
    PathAlike n [] (anyPath read inExpression) (anyPath read' inExpression) :=
  .ahead _ fun _ => .ite (fun _ => alike_pathBelow later inExpression) fun _ =>
    alike_path later inExpression

theorem alike_callable (later : Later n read read') {x y : Reader Path} {front : List Token}
    (alike : PathAlike n front x y) : PathAlike n front (callable read x) (callable read' y) := by
  refine alike.bind fun p taken spelled m room => .ahead _ fun isCalled => ?_
  have here : Later m read read' := later.mono (by omega)
  refine .ite (fun _ => ?_) fun _ => .pure (by simpa using spelled)
  have colons : Phrase.Alike m 0 (.when (Ahead.isMark "::") (.mark "::"))
      (.when (Ahead.isMark "::") (.mark "::")) := .when (.mark rfl)
  refine colons.bind fun _ more _ k less => ?_
  have arguments : Phrase.Alike k 1
      (.parentheses (.listed Ahead.isEnd (read (.type true))) ++ result read false)
      (.parentheses (.listed Ahead.isEnd (read' (.type true))) ++ result read' false) := by
    apply Phrase.Alike.before
    · exact .enclosed fun i small => .listed (later _ i (by omega))
    · exact fun i small => alike_result (later.mono (by omega)) false
  refine arguments.bind fun found last spelled' _ _ => .pure ?_
  -- The arguments stand in the place of the path's own, which were there to be dropped.
  have name : Spelled 1 (front ++ taken) p.front :=
    ⟨spelled.length, spelled.drawn.of_sublist (List.sublist_append_left _ _)⟩
  simpa [Path.written] using (name.left more).append spelled'

theorem alike_typePath (later : Later n read read') :
    PathAlike n [] (typePath read) (typePath read') := by
  have first := alike_callable later (alike_anyPath later false)
  refine first.bind fun first taken spelled m room => ?_
  refine .repeated (by simpa using spelled) fun p more spelled' k less => ?_
  have here : Later k read read' := later.mono (by omega)
  refine .ahead _ fun _ => .ite (fun _ => ?_) fun _ => .pure (by simpa using spelled')
  have steps := alike_callable here (alike_steps here false goesOn spelled')
  refine steps.map some fun last q result => ?_
  simpa using result

/-! ## Parameters -/

section

variable (later : Later n read read')
include later

theorem alike_parameter : Phrase.Alike n 1 (parameter read) (parameter read') := by
  refine .append (alike_attributes later) ?_
  refine .case ?_ <| .case ?_ <| .case ?_ .otherwise
  · exact .before .one fun m less => .when (alike_colonBounds (later.below less) _)
  · exact .before (.before (.before (.before .one fun _ _ => .one) fun _ _ => .mark rfl) (later _))
      fun m less => .when (.append (.mark rfl) (alike_constant (later.mono less)))
  · exact .before (.before .one fun m less => .when (alike_colonBounds (later.below less) _))
      fun m less => .when (.append (.mark rfl) (later _ m less))

theorem alike_binder : Phrase.Alike n 0 (binder read) (binder read') :=
  .when <| .before (.before (.before .one fun _ _ => .mark rfl)
    fun _ less => .listed (alike_parameter (later.below less))) fun _ _ => .mark rfl

theorem alike_parameters : Phrase.Alike n 0 (parameters read) (parameters read') := by
  apply Phrase.Alike.when (k := 1)
  refine Reader.Alike.bind (Phrase.Alike.mark rfl) fun opening taken spelled m room => ?_
  have parameter := alike_parameter (later.mono (by omega : m ≤ n))
  refine (alike_elements parameter).bind fun found more drawn k _ => ?_
  refine Reader.Alike.bind (Phrase.Alike.mark rfl) fun closing last spelled' _ _ => .pure ?_
  have whole := spelled_arranged spelled drawn spelled'.drawn
  split
  next => exact ⟨by simpa using whole.length, .nil _⟩
  next => simpa using whole

theorem alike_conditions : Phrase.Alike n 0 (conditions read) (conditions read') := by
  apply Phrase.Alike.when (k := 1)
  refine Phrase.Alike.one.bind fun start taken spelled m room => ?_
  have some := spelled.length
  have now : Later (m + 1) read read' := later.mono (by omega)
  have here := now.below (Nat.lt_succ_self m)
  refine Reader.Alike.bind (Phrase.Alike.whenever (k := 1) ?_)
    fun found more spelled' _ _ => .pure ?_
  · refine .before (.ifAhead ?_ ?_) fun _ _ => .when (.mark rfl)
    · exact .before (.before .one fun _ _ => .mark rfl) fun k less => alike_bounds (here.mono less) _
    · exact .before (.before (.append (alike_binder here) (now.now _)) fun _ _ => .mark rfl)
        fun k less => alike_bounds (here.mono less) _
  · split
    next => exact (⟨some, .nil _⟩ : Spelled 1 _ _).left _
    next => simpa using spelled.append spelled'

/-! ## Bounds -/

theorem alike_pathBound :
    Reader.Alike n (pathBound read) (pathBound read') (Recognized 1) := by
  refine (alike_binder later).bind fun front taken spelled m room => .ahead _ fun isConst => ?_
  have here : Later m read read' := later.mono (by omega)
  have const : Phrase.Alike m 1
      (.ifAhead (Ahead.isBracket '[') .group
        (.when (Ahead.isMark "~") (.mark "~") ++ .word "const"))
      (.ifAhead (Ahead.isBracket '[') .group
        (.when (Ahead.isMark "~") (.mark "~") ++ .word "const")) :=
    .ifAhead .group (.append (.when (.mark rfl)) .one)
  refine const.when.bind fun _ more _ k less => ?_
  have sign : Phrase.Alike k 0 (.when (Ahead.isMark "?") (.mark "?") ++ binder read)
      (.when (Ahead.isMark "?") (.mark "?") ++ binder read') :=
    .append (.when (.mark rfl)) (alike_binder (here.mono (by omega)))
  refine sign.bind fun sign between spelled' i few => ?_
  have path := alike_callable (here.mono (by omega : i ≤ m))
    (alike_path (here.mono (by omega)) false)
  refine path.bind fun p last spelled'' _ _ => .pure (.known_if_not isConst ?_)
  have whole := Spelled.behind (spelled.drawn.left more) (.behind spelled'.drawn spelled'')
  simpa using whole

theorem alike_boundPhrase : Phrase.Alike n 1 (boundPhrase read) (boundPhrase read') := by
  refine .case .one <| .case ?_ <| .case (.orAsWritten ?_) <|
    .case (.orAsWritten (alike_pathBound later)) .otherwise
  · have opening : Phrase.Alike n 1 (.word "use" ++ .mark "<") (.word "use" ++ .mark "<") :=
      .before .one fun _ _ => .mark rfl
    refine opening.bind fun front taken spelled m room => ?_
    have argument : Phrase.Alike m 1 (.ifAhead Ahead.isLifetime .lifetime .anyWord)
        (.ifAhead Ahead.isLifetime .lifetime .anyWord) := .ifAhead .one .one
    refine (alike_elements argument).bind fun found more drawn k _ => ?_
    refine Reader.Alike.bind (Phrase.Alike.mark rfl) fun closing last spelled' _ _ => .pure ?_
    simpa using spelled_arranged spelled drawn spelled'.drawn
  · refine Phrase.Alike.one.bind fun opening taken spelled m room => ?_
    refine (alike_pathBound (later.mono (by omega))).bind fun found more recognized k _ => ?_
    refine Phrase.Alike.one.bind fun closing last spelled' _ _ => .pure ⟨?_, ?_⟩
    · have some := spelled.length
      rw [List.length_append]
      omega
    · intro result given
      obtain ⟨found, rfl, rfl⟩ := Option.map_eq_some_iff.mp given
      have whole := spelled.drawn.append ((recognized.drawn found rfl).append spelled'.drawn)
      simpa using whole

theorem alike_moreBounds (sums : Bool) :
    Phrase.Alike n 0 (moreBounds read sums) (moreBounds read' sums) :=
  .whenever (.before (.mark rfl) fun m less => .when (later _ m less))

/-! ## Types -/

theorem alike_functionType : Phrase.Alike n 1 (functionType read) (functionType read') := by
  refine .before (.before (.append (.append (.maybe _) alike_binaryInterface) .one)
    fun m less => .enclosed fun k small => .listed (k := 1) ?_)
    fun m less => alike_result (later.below less) false
  have now : Later (k + 1) read read' := later.mono (by omega)
  have here := now.below (Nat.lt_succ_self k)
  refine .append (alike_attributes here) ?_
  refine .case (.mark rfl) <| .case (.asWritten (p := Spelled 1) ?_ fun _ _ spelled => spelled.length) <|
    .case ?_ <| .case (now.now _) .otherwise
  · exact Phrase.Alike.before (.before .one fun _ _ => .one) fun i few =>
      .when (.append (.mark rfl) (here _ i few))
  · exact .before (.before .one fun _ _ => .mark rfl) fun i few => .ifAhead (.mark rfl) (here _ i few)

end

abbrev ExtendedPathAlike (n : Nat) (x y : Reader (Path × List Token)) : Prop :=
  Reader.Alike n x y fun taken found => Spelled 1 taken (found.1.written ++ found.2)

theorem alike_extendedPath (later : Later n read read') (sums : Bool) :
    ExtendedPathAlike n (extendedPath read sums) (extendedPath read' sums) := by
  refine (alike_typePath later).bind fun p taken spelled m room => .ahead _ fun isMacro => ?_
  have group : Phrase.Alike m 1 (.mark "!" ++ .group) (.mark "!" ++ .group) :=
    .before (.mark rfl) fun _ _ => .group
  have bounds := alike_moreBounds (later.mono (by omega : m ≤ n)) sums
  refine .ite (fun _ => group.bind fun rest more spelled' _ _ => .pure ?_) fun _ =>
    bounds.bind fun rest more spelled' _ _ => .pure ?_
  · simpa using spelled.append spelled'
  · simpa using spelled.append spelled'

theorem alike_pathType (later : Later n read read') (sums : Bool) :
    Phrase.Alike n 1 (pathType read sums) (pathType read' sums) := by
  refine (alike_extendedPath later sums).bind fun found taken spelled _ _ => .pure ?_
  simpa using spelled

/-- A type may begin with a bound, and with no other form. -/
theorem alike_typePhrase (later : Later n read read')
    (bound : Phrase.Alike n 1 (read .bound) (read' .bound)) (sums : Bool) :
    Phrase.Alike n 1 (typePhrase read sums) (typePhrase read' sums) := by
  have summed : Phrase.Alike n 1 (read .bound ++ moreBounds read sums)
      (read' .bound ++ moreBounds read' sums) :=
    bound.before fun m less => alike_moreBounds (later.below less) sums
  refine .case ?_ <| .case (alike_functionType later) <| .case ?_ <| .case ?_ <| .case ?_ <|
    .case ?_ <| .case ?_ <| .case ?_ <| .case (.mark rfl) <| .case .one <| .case summed <|
    .case (alike_pathType later sums) .otherwise
  · exact .append (alike_binder later)
      (.ifAhead (alike_functionType later) (alike_pathType later sums))
  · exact .before (.enclosed fun m less => .listed (.ifAhead (later _ m less) (later _ m less)))
      fun m less => alike_moreBounds (later.below less) sums
  · exact .enclosed fun m less => .before (later _ m less) fun k small =>
      .when (.append (.mark rfl) (later _ k (by omega)))
  · refine .ifAhead (.asWritten (p := Spelled 1) ?_ fun _ _ spelled => spelled.length) ?_
    · exact Phrase.Alike.before (.before .one fun _ _ => .mark rfl) fun m less =>
        summed.mono (Nat.le_of_lt less)
    · exact .before .one fun m less => summed.mono (Nat.le_of_lt less)
  · exact .before .one fun m less => summed.mono (Nat.le_of_lt less)
  · exact .before (.before (.mark rfl) fun _ _ => .one) (later _)
  · exact .before (.before (.before (.mark rfl) fun _ _ => .when .one) fun _ _ => .maybe _) (later _)

end RecordSql.Declare.Grammar
