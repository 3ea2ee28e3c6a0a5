import RecordSql.Proofs.TypeSpelling
/-! # What patterns and expressions are spelled with

The same for what stands in the bodies of functions. An expression, an operand and an arm may
begin with phrases of weaker forms, before anything is taken. -/
set_option autoImplicit false
namespace RecordSql.Declare.Grammar

variable {n least : Nat} {read read' : Form → Phrase}

/-! ## Patterns -/

theorem alike_rangeSign : Phrase.Alike n 1 rangeSign rangeSign := .ifAhead (.mark rfl) (.mark rfl)

theorem alike_pointedSign : Phrase.Alike n 1 pointedSign pointedSign := by
  refine .ahead _ fun _ => .ite (fun _ => ?_) fun _ => alike_rangeSign
  refine Reader.Alike.bind (Phrase.Alike.mark rfl) fun points taken spelled _ _ => .pure ?_
  rw [List.append_nil]
  refine ⟨spelled.length, ?_⟩
  have two := spelled.drawn.of_sublist (List.take_sublist 2 points)
  have sign : DrawnFrom [] [Token.mark '=' false] := .of_fillers (by simp [Token.isFiller])
  simpa using two.append sign

section

variable (later : Later n read read')
include later

theorem alike_rangeEnd : Phrase.Alike n 1 (rangeEnd read) (rangeEnd read') := by
  refine .case (.append (.mark rfl) .one) <| .case .one <| .case (.before .one (later _)) <|
    .case ?_ .otherwise
  refine (alike_anyPath later true).bind fun p taken spelled _ _ => .pure ?_
  simpa using spelled

theorem alike_pointedRange :
    Phrase.Alike n 1 (pointedSign ++ .ifAhead isOpenEnd .nothing (rangeEnd read))
      (pointedSign ++ .ifAhead isOpenEnd .nothing (rangeEnd read')) :=
  alike_pointedSign.before fun _ less =>
    .ifAhead .nothing (alike_rangeEnd (later.below less)).loose

theorem alike_rangeRest : Phrase.Alike n 0 (rangeRest read) (rangeRest read') :=
  (alike_pointedRange later).when

theorem alike_memberPattern : Phrase.Alike n 1 (memberPattern read) (memberPattern read') := by
  refine .append (alike_attributes later) ?_
  refine .case (.mark rfl) <| .case ?_ <| .case ?_ <| .case ?_ .otherwise
  · exact .append (.append (.append .one (.maybe _)) (.maybe _)) .one
  · exact .before (alike_member.before fun _ _ => .mark rfl) (later _)
  · exact .append (.append (.maybe _) (.maybe _)) .one

/-- A path with the call of a macro behind it, or with what else can follow. -/
theorem alike_callOr {x y : Phrase} (after : ∀ m, m < n → Phrase.Alike m 0 x y) :
    Phrase.Alike n 1
      (do
        let p ← anyPath read true
        let isMacro ← Reader.ahead isCall
        if isMacro && p.isPlain then return p.written ++ (← Phrase.mark "!" ++ .group)
        return p.written ++ (← x))
      (do
        let p ← anyPath read' true
        let isMacro ← Reader.ahead isCall
        if isMacro && p.isPlain then return p.written ++ (← Phrase.mark "!" ++ .group)
        return p.written ++ (← y)) := by
  refine (alike_anyPath later true).bind fun p taken spelled m room => .ahead _ fun isMacro => ?_
  have some := spelled.length
  have group : Phrase.Alike m 1 (.mark "!" ++ .group) (.mark "!" ++ .group) :=
    .before (.mark rfl) fun _ _ => .group
  refine .ite (fun _ => group.bind fun rest more spelled' _ _ => .pure ?_) fun _ =>
    (after m ?_).bind fun rest more spelled' _ _ => .pure ?_
  · simpa using spelled.append spelled'
  · rw [List.nil_append] at some
    omega
  · simpa using spelled.append spelled'

theorem alike_pathPattern : Phrase.Alike n 1 (pathPattern read) (pathPattern read') := by
  refine alike_callOr later fun m less => ?_
  have here : Later m read read' := later.below less
  refine .case (.loose (.enclosedList (k := 1) fun k few => ?_)) <|
    .case (.loose (.enclosedList (here _))) <| .case (alike_rangeRest here) .otherwise
  exact alike_memberPattern (here.below few)

theorem alike_patternPhrase : Phrase.Alike n 1 (patternPhrase read) (patternPhrase read') := by
  refine .case (alike_pathPattern later) <| .case .one <| .case (.asWritten (p := Spelled 1) ?_
    fun _ _ spelled => spelled.length) <| .case ?_ <| .case ?_ <| .case ?_ <|
    .case (.enclosedList (later _)) <| .case (.enclosedList (later _)) <|
    .caseWhen (alike_pointedRange later) .otherwise
  · exact Phrase.Alike.before .one (later _)
  · exact (alike_rangeEnd later).before fun m less => alike_rangeRest (later.below less)
  · exact .before (.append (.append (.maybe _) (.maybe _)) .one) fun m less =>
      .when (.append (.mark rfl) (later _ m less))
  · exact .before (.before (.mark rfl) fun _ _ => .maybe _) (later _)

/-- Alternatives begin with a pattern. -/
theorem alike_alternativesPhrase (pattern : Phrase.Alike n 1 (read .pattern) (read' .pattern)) :
    Phrase.Alike n 1 (alternativesPhrase read) (alternativesPhrase read') :=
  .before (.append (.when (.mark rfl)) pattern) fun m less =>
    .whenever (.before (.mark rfl) fun k small => later _ k (by omega))

/-! ## Operators -/

omit later in
theorem length_of_nextOperator? {tokens : List Token} {marks : String} {strength : Strength}
    (next : nextOperator? tokens = some (marks, strength)) : (marks.length == 0) = false := by
  have written : ∀ operator ∈ operators, (operator.1.length == 0) = false := by decide
  rw [nextOperator?] at next
  split at next
  next operator found =>
    obtain rfl := Option.some.inj next
    exact written _ (List.mem_of_find?_eq_some found)
  next =>
    split at next
    next =>
      obtain ⟨rfl, -⟩ := Prod.mk.inj (Option.some.inj next)
      decide
    next => contradiction

theorem alike_openRange (records : Bool) :
    Phrase.Alike n 1 (rangeSign ++ .when (isExpression records)
        (read (.expression records (Strength.range + 1))))
      (rangeSign ++ .when (isExpression records)
        (read' (.expression records (Strength.range + 1)))) :=
  alike_rangeSign.before fun m less => .when (later _ m less)

theorem alike_operations (records : Bool) (least : Strength) {start : List Token × Shape}
    {front : List Token} (spelled : Spelled 1 front start.1) :
    Reader.Alike n (operations read records least start) (operations read' records least start)
      fun taken spelled => Spelled 1 (front ++ taken) spelled := by
  refine Reader.Alike.map Prod.fst (p := fun taken found => Spelled 1 (front ++ taken) found.1)
    (.repeated (by simpa using spelled) fun found taken spelled m room => ?_) fun _ _ holds => holds
  obtain ⟨written, shape⟩ := found
  have here : Later m read read' := later.mono (by omega)
  have done : Reader.Alike m (pure none) (pure none) fun more
      (next? : Option (List Token × Shape)) =>
        Spelled 1 (front ++ (taken ++ more)) (next?.getD (written, shape)).1 :=
    .pure (by simpa using spelled)
  refine .ite (fun _ => done) fun _ => .peek _ fun tokens => ?_
  cases next : nextOperator? tokens with
  | some operator =>
    obtain ⟨marks, strength⟩ := operator
    refine .ite (fun _ => done) fun _ => .ite (fun _ => .fail_bind) fun _ => ?_
    have sign : Phrase.Alike m 1 (.mark marks) (.mark marks) :=
      .mark (length_of_nextOperator? next)
    refine sign.bind fun operator more spelled' k less => ?_
    have some := spelled'.length
    refine (here _ k (by omega)).bind fun operand last spelled'' _ _ => .pure ?_
    simpa using spelled.append (spelled'.append spelled'')
  | none =>
    refine .ahead _ fun isRange => .ahead _ fun isConversion => .ite (fun _ => ?_) fun _ =>
      .ite (fun _ => ?_) fun _ => done
    · refine (alike_openRange here records).bind fun rest more spelled' _ _ => .pure ?_
      simpa using spelled.append spelled'
    · have conversion : Phrase.Alike m 1 (.word "as" ++ read (.type false))
          (.word "as" ++ read' (.type false)) := .before .one (here _)
      refine conversion.bind fun rest more spelled' _ _ => .ahead _ fun _ =>
        .ite (fun _ => .fail_bind) fun _ => .ahead _ fun isEnclosed => .pure ?_
      have whole := spelled.append spelled'
      cases isEnclosed with
      | false => simpa using whole
      | true =>
        have opening : DrawnFrom [] [Token.bracket '('] := .of_fillers (by simp [Token.isFiller])
        have closing : DrawnFrom [] [Token.bracket ')'] := .of_fillers (by simp [Token.isFiller])
        refine ⟨by simpa using whole.length, ?_⟩
        simpa using opening.append (whole.drawn.append closing)

/-- An expression begins with an operand. -/
theorem alike_expressionPhrase (records : Bool) (least : Strength)
    (operand : Phrase.Alike n 1 (read (.operand records)) (read' (.operand records))) :
    Phrase.Alike n 1 (expressionPhrase read records least)
      (expressionPhrase read' records least) := by
  refine .ahead _ fun isRange => operand.bind fun first taken spelled m room => ?_
  exact alike_operations (later.mono (by omega)) records least spelled

/-! ## What follows a value -/

theorem alike_callArguments : Phrase.Alike n 1 (callArguments read) (callArguments read') :=
  .enclosedList (later _)

theorem alike_turbofish : Phrase.Alike n 0 (turbofish read) (turbofish read') := by
  apply Phrase.Alike.when (k := 1)
  have opening : Phrase.Alike n 1 (.mark "::" ++ .mark "<") (.mark "::" ++ .mark "<") :=
    .append (.mark rfl) (.mark rfl)
  refine opening.bind fun front taken spelled m room => ?_
  have some := spelled.length
  have argument := alike_angledArgument (later.mono (by omega : m + 1 ≤ n))
  refine (alike_elements argument).bind fun found more drawn k _ => ?_
  refine Reader.Alike.bind (Phrase.Alike.mark rfl) fun closing last spelled' _ _ => .pure ?_
  simpa using spelled_arranged spelled drawn spelled'.drawn

theorem alike_selections : Phrase.Alike n 0 (selections read) (selections read') := by
  refine .whenever (k := 1) <| .case (.mark rfl) <| .case (alike_callArguments later) <|
    .case (.enclosed (later _)) <| .case ?_ .otherwise
  refine .before (.append (.mark rfl) (.ifAhead ?_ .one)) fun m less =>
    alike_turbofish (later.below less)
  exact .ifAhead alike_memberNumber (alike_memberNumber.append alike_member)

/-! ## Values -/

omit later in
theorem alike_closureParameter (now : Later (n + 1) read read') :
    Phrase.Alike n 1 (closureParameter read) (closureParameter read') := by
  have later := now.below (Nat.lt_succ_self n)
  refine (alike_attributes later).bind fun notes taken spelled m room => .ahead _ fun isOdd => ?_
  have pattern := (now.now .pattern).mono (by omega : m ≤ n)
  refine pattern.bind fun pattern more spelled' k less => .ahead _ fun isTyped => ?_
  have type := alike_behindMark (later.mono (by omega : k ≤ n)) ":" rfl (.type true)
  refine (Phrase.Alike.when type).bind fun type last spelled'' _ _ => .pure ?_
  have kept : DrawnFrom taken (if isOdd && !isTyped then [] else notes) := by
    split
    next => exact .nil _
    next => exact spelled.drawn
  simpa using Spelled.behind kept (spelled'.append spelled'')

theorem alike_closure (records : Bool) :
    Phrase.Alike n 1 (closure read records) (closure read' records) := by
  have front : Phrase.Alike n 1
      (binder read ++ .maybe "const" ++ .maybe "static" ++ .maybe "async" ++ .maybe "move" ++
        .mark "|")
      (binder read' ++ .maybe "const" ++ .maybe "static" ++ .maybe "async" ++ .maybe "move" ++
        .mark "|") :=
    .append (.append (.append (.append (.append (alike_binder later)
      (.maybe _)) (.maybe _)) (.maybe _)) (.maybe _)) (.mark rfl)
  refine .before (.before (.before front fun m less => .listed (k := 1) ?_) fun _ _ => .mark rfl)
    fun m less => .ifAhead ?_ (later _ m less)
  · exact alike_closureParameter (later.mono less)
  · exact .before (.before (.mark rfl) fun k few => later _ k (by omega))
      fun k few => later _ k (by omega)

theorem alike_memberValue : Phrase.Alike n 1 (memberValue read) (memberValue read') := by
  refine .ifAhead ?_ ?_
  · exact .before (.mark rfl) fun m less => .ifAhead .nothing (later _ m less).loose
  · exact .before (.append (alike_attributes later) alike_member) fun m less =>
      .when (.append (.mark rfl) (later _ m less))

theorem alike_pathValue (records : Bool) :
    Phrase.Alike n 1 (pathValue read records) (pathValue read' records) :=
  alike_callOr later fun _ less => .when <| .enclosedList fun _ few =>
    alike_memberValue (later.mono (by omega))

omit later in
theorem alike_matchCase (now : Later (n + 1) read read') :
    Phrase.Alike n 1 (matchCase read) (matchCase read') := by
  have later := now.below (Nat.lt_succ_self n)
  have front := Phrase.Alike.append (alike_attributes later) (now.now .alternatives)
  exact .before (.before (.before (.before front
    fun m less => .when (.append .one (later _ m less))) fun _ _ => .mark rfl) (later _))
    fun _ _ => .when (.mark rfl)

theorem alike_matchPhrase : Phrase.Alike n 1 (matchPhrase read) (matchPhrase read') :=
  .before (.before .one (later _)) fun m less => .enclosed fun k few =>
    .append (alike_innerAttributes (later.mono (by omega)))
      (.whenever (alike_matchCase (later.mono (by omega))))

theorem alike_conditionalPhrase :
    Phrase.Alike n 1 (conditionalPhrase read) (conditionalPhrase read') :=
  .before (.before (.before .one (later _)) (later _)) fun m less =>
    .when (.append .one (.ifAhead (later _ m less) (later _ m less)))

section

variable (block : Phrase.Alike n 1 (read .block) (read' .block))
include block

theorem alike_loopPhrase : Phrase.Alike n 1 (loopPhrase read) (loopPhrase read') := by
  refine .case ?_ <| .case ?_ <| .case (.before .one (later _)) <| .case block .otherwise
  · exact .before (.before .one (later _)) (later _)
  · exact .before (.before (.before (.before .one (later _)) fun _ _ => .one) (later _)) (later _)

theorem alike_blockLike : Phrase.Alike n 1 (blockLike read) (blockLike read') := by
  refine .case (alike_conditionalPhrase later) <| .case (alike_matchPhrase later) <|
    .case ?_ <| .case (.before .one (later _)) <| .case (alike_loopPhrase later block) .otherwise
  exact .before (.before .one fun _ _ => .mark rfl) fun m less =>
    alike_loopPhrase (later.below less) (later _ m less)

theorem alike_value (records : Bool) :
    Phrase.Alike n 1 (value read records) (value read' records) := by
  have whole (braces : Bool) (m : Nat) (less : m < n) : Phrase.Alike m 0
      (.when (isExpression braces) (read (.expression true 0)))
      (.when (isExpression braces) (read' (.expression true 0))) := .when (later _ m less)
  refine .case .one <| .case (alike_blockLike later block) <| .case ?_ <|
    .case (alike_closure later records) <| .case ?_ <| .case (alike_pathValue later records) <|
    .case (alike_callArguments later) <| .case (.enclosed (k := 0) fun m less => ?_) <|
    .case (.before (.before .one fun _ _ => .when .one) (whole records)) <|
    .case (.before .one fun _ _ => .when .one) <| .case (.before .one (whole true)) <|
    .case (.asWritten (p := Spelled 1) ?_ fun _ _ spelled => spelled.length) <|
    .case ?_ <| .case .one .otherwise
  · exact .before (.before .one fun _ _ => .maybe _) (later _)
  · exact .before (.before (.before .one fun _ _ => .mark rfl) fun _ _ => .one) fun _ _ => .group
  · have element := later (.expression true 0) m less
    refine .ifAhead .nothing (.loose (.before element fun k few => .ifAhead (k := 0) ?_ ?_))
    · exact .loose (.before (.mark rfl) fun i small => later _ i (by omega))
    · exact .when (.before (.mark rfl) fun i small => .listed (later _ i (by omega)))
  · exact Phrase.Alike.before .one (later _)
  · exact .before (.before (.before .one (later _)) fun _ _ => .mark rfl) (later _)

omit later block in
theorem isOuterAttribute_of_isOpaque {tokens : List Token} (sign : Ahead.isMark "#" tokens = true)
    (hidden : isOpaque (behindAttributes tokens) = true) : isOuterAttribute tokens = true := by
  rw [← Bool.not_eq_false]
  intro none
  have here : behindAttributes tokens = tokens := by
    rw [behindAttributes]
    cases tokens.length with
    | zero => rfl
    | succ fuel => rw [behindAttributesAtMost, none, if_neg Bool.false_ne_true]
  rw [here] at hidden
  cases tokens with
  | nil => exact nomatch sign
  | cons token rest =>
    cases token with
    | mark c joined => exact nomatch hidden
    | _ => exact nomatch sign

/-- An operand begins with a block at most. One that is hidden has attributes in front. -/
theorem alike_operandPhrase (records : Bool) :
    Phrase.Alike n 1 (operandPhrase read records) (operandPhrase read' records) := by
  -- Attributes may be missing elsewhere. Here the operand behind them is on fewer tokens, as there
  -- is one attribute where a hidden operand is looked for behind a number sign.
  let noted (read : Form → Phrase) : Phrase := .choose [(isOuterAttribute, attributes read)]
  have same (read : Form → Phrase) (tokens : List Token)
      (fits : (Ahead.isMark "#" tokens && isOpaque (behindAttributes tokens)) = true) :
      (attributes read ++ read (.operand records)).asWritten.run tokens =
        (noted read ++ read (.operand records)).asWritten.run tokens := by
    obtain ⟨sign, hidden⟩ := Bool.and_eq_true_iff.mp fits
    have first : (attributes read).run tokens = (noted read).run tokens :=
      (Phrase.run_ifAhead_of_fits (isOuterAttribute_of_isOpaque sign hidden) _ _).symm
    have both : (attributes read ++ read (.operand records)).run tokens =
        (noted read ++ read (.operand records)).run tokens := by
      change Reader.run (_ >>= _) tokens = Reader.run (_ >>= _) tokens
      rw [Reader.run_bind, Reader.run_bind, first]
    simp only [Reader.asWritten, Reader.run_bind, Reader.withWritten, both]
  refine .caseOf (same read) (same read') (.asWritten (p := Spelled 1) ?_
    fun _ _ spelled => spelled.length) <| .case ?_ <| .case ?_ <| .case (.before .one (later _)) <|
    .case (alike_openRange later records) <| .case ?_ .otherwise
  · exact (Phrase.Alike.started (alike_singleAttribute later)).before (later _)
  · exact (alike_singleAttribute later).before (later _)
  · refine .before (.before (.mark rfl) fun m less => .ifAhead ?_ (.maybe _)) (later _)
    exact .loose (.before .one fun _ _ => .one)
  · exact (alike_value later block records).before fun m less => alike_selections (later.below less)

/-- An arm begins with a block or with an expression. -/
theorem alike_armPhrase
    (expression : Phrase.Alike n 1 (read (.expression true 0)) (read' (.expression true 0))) :
    Phrase.Alike n 1 (armPhrase read) (armPhrase read') := by
  have start := Phrase.Alike.append (alike_attributes later) (alike_blockLike later block)
  have lost (isLost : Bool) : Phrase.Alike n 0 (.when (fun _ => isLost) (attributes read))
      (.when (fun _ => isLost) (attributes read')) := (alike_attributes later).when
  refine .ahead _ fun _ => .ite (fun _ => ?_) fun _ => ?_
  · refine start.bind fun first taken spelled m room => .ahead _ fun _ => .ite (fun _ => ?_)
      fun _ => .pure (by simpa using spelled)
    refine (alike_selections (later.mono (by omega))).bind fun rest more spelled' k less => ?_
    have whole := spelled.append spelled'
    have here : Later k read read' := later.mono (by omega)
    refine (alike_operations here true 0 whole).weaken fun last found result => ?_
    simpa using result
  · refine .ahead _ fun isLost => (lost isLost).bind fun _ taken _ m room => ?_
    exact (expression.mono (by omega)).weaken fun more found spelled => spelled.right taken

end

end

end RecordSql.Declare.Grammar
