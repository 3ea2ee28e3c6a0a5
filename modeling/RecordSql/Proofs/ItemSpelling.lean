import RecordSql.Proofs.ExpressionSpelling
/-! # What items are spelled with

The same for declarations and for the statements of a block. An item that is only recognized
takes tokens all the same. -/
set_option autoImplicit false
namespace RecordSql.Declare.Grammar

variable {n : Nat} {read read' : Form → Phrase}

theorem alike_known {x y : Phrase} {least : Nat} (alike : Phrase.Alike n least x y) :
    Reader.Alike n (known x) (known y) (Recognized least) :=
  alike.map some fun _ _ spelled => .known spelled

theorem alike_macroItem : Phrase.Alike n 1 macroItem macroItem :=
  .before (.before (.before (alike_plainPath.before fun _ _ => .mark rfl) fun _ _ => .when .one)
    fun _ _ => .group) fun _ _ => .when (.mark rfl)

theorem alike_throughSemicolon : Phrase.Alike n 1 throughSemicolon throughSemicolon :=
  .append (.whenever .piece) (.mark rfl)

theorem alike_memberType (type : Phrase.Alike n 1 (read (.type true)) (read' (.type true))) :
    Phrase.Alike n 1 (memberType read) (memberType read') :=
  .ifAhead (.before .one fun _ _ => .group) type

/-- A parameter begins with a pattern or with a type. -/
theorem alike_functionParameter (now : Later (n + 1) read read') :
    Phrase.Alike n 1 (functionParameter read) (functionParameter read') := by
  have later := now.below (Nat.lt_succ_self n)
  refine .append (alike_attributes later) ?_
  refine .case (.mark rfl) <| .case ?_ <| .case ?_ <| .case ?_ .otherwise
  · exact .before (.append (.append (.append (.when (.mark rfl)) (.when .one)) (.maybe _)) .one)
      fun m less => .when (.append (.mark rfl) (later _ m less))
  · refine (now.now (.type true)).bind fun type taken spelled _ _ => .pure ?_
    have name : DrawnFrom [] [Token.word "_", .mark ':' false] :=
      .of_fillers (by simp [Token.isFiller])
    simpa using Spelled.behind name spelled
  · exact .before (.before (now.now _) fun _ _ => .mark rfl) fun m less =>
      .ifAhead (.mark rfl) (later _ m less)

/-- A member with its attributes and marks in front. -/
theorem alike_noted {x y : Reader (Option (List Token))} {taken notes : List Token}
    (drawn : DrawnFrom taken notes) (alike : Reader.Alike n x y (Recognized 1)) :
    Reader.Alike n (x >>= fun found => return found.map (notes ++ ·))
      (y >>= fun found => return found.map (notes ++ ·))
      fun more found => Recognized 1 (taken ++ more) found := by
  refine alike.bind fun found more recognized _ _ => .pure ?_
  rw [List.append_nil]
  exact .behind drawn recognized

section

variable (later : Later n read read')
include later

theorem alike_signature : Phrase.Alike n 1 (signature read) (signature read') := by
  have front : Phrase.Alike n 1
      (.maybe "const" ++ .maybe "async" ++ .maybe "unsafe" ++ .maybe "safe" ++ binaryInterface ++
        .word "fn")
      (.maybe "const" ++ .maybe "async" ++ .maybe "unsafe" ++ .maybe "safe" ++ binaryInterface ++
        .word "fn") :=
    .append (.append (.append (.append (.append (.maybe _) (.maybe _)) (.maybe _)) (.maybe _))
      alike_binaryInterface) .one
  refine .before (.before (.before (.before (front.before fun _ _ => .one)
    fun m less => alike_parameters (later.below less))
    fun m less => .enclosedList (k := 1) fun k few => ?_)
    fun m less => alike_result (later.below less) true)
    fun m less => alike_conditions (later.below less)
  exact alike_functionParameter (later.mono (by omega))

/-! ## Members -/

theorem alike_namedMembers : Phrase.Alike n 1 (namedMembers read) (namedMembers read') := by
  refine .enclosedList (k := 1) fun m less => ?_
  have start := Phrase.Alike.append (alike_attributes (later.below less)) alike_visibility
  exact .before (.before (start.append .one) fun _ _ => .mark rfl) fun k few =>
    alike_memberType (later _ k (by omega))

theorem alike_unnamedMembers : Phrase.Alike n 1 (unnamedMembers read) (unnamedMembers read') :=
  .enclosedList fun m less => .append (.append (alike_attributes (later.below less))
    alike_visibility) (later _ m less)

theorem alike_variant : Phrase.Alike n 1 (variant read) (variant read') := by
  refine (alike_attributes later).bind fun notes taken spelled m room => ?_
  refine alike_visibility.bind fun _ more _ k less => ?_
  have here : Later k read read' := later.mono (by omega)
  have body : Phrase.Alike k 1
      (.anyWord ++ .choose [(Ahead.isBracket '\x7b', namedMembers read),
        (Ahead.isBracket '(', unnamedMembers read), (fun _ => true, .nothing)] ++
        .when (Ahead.isMark "=") (.mark "=" ++ read (.expression true 0)))
      (.anyWord ++ .choose [(Ahead.isBracket '\x7b', namedMembers read'),
        (Ahead.isBracket '(', unnamedMembers read'), (fun _ => true, .nothing)] ++
        .when (Ahead.isMark "=") (.mark "=" ++ read' (.expression true 0))) := by
    refine .before (.before (l := 0) .one fun i few => ?_) fun i few =>
      .when (.append (.mark rfl) (here _ i few))
    exact .case (alike_namedMembers (here.below few)).loose <|
      .case (alike_unnamedMembers (here.below few)).loose <| .case .nothing .otherwise
  refine body.bind fun rest last spelled' _ _ => .pure ?_
  simpa using Spelled.behind (spelled.drawn.left more) spelled'

/-! ## Kinds of items -/

theorem alike_functionItem :
    Reader.Alike n (functionItem read) (functionItem read') (Recognized 1) := by
  refine .ahead _ fun isSafe => (alike_signature later).bind fun front taken spelled m room => ?_
  have some := spelled.length
  refine .ahead _ fun _ => .ite (fun _ => ?_) fun _ => ?_
  · refine Reader.Alike.bind (Phrase.Alike.mark rfl) fun _ more _ _ _ => .pure (.unknown ?_)
    simp only [List.length_append]
    omega
  · refine (later _ m (by omega)).bind fun body more spelled' _ _ => .pure (.known_if_not isSafe ?_)
    simpa using spelled.append spelled'

theorem alike_constItem (needsValue : Bool) :
    Reader.Alike n (constItem read needsValue) (constItem read' needsValue) (Recognized 1) := by
  have front : Phrase.Alike n 1 (.word "const" ++ .anyWord) (.word "const" ++ .anyWord) :=
    .append .one .one
  refine front.bind fun name taken spelled m room => .ahead _ fun isGeneric => ?_
  have here : Later m read read' := later.mono (by omega)
  refine (alike_parameters here).bind fun _ more _ k less => ?_
  have type := alike_behindMark (here.mono (by omega : k ≤ m)) ":" rfl (.type true)
  refine type.bind fun type more' spelled' i few => .ahead _ fun hasValue => ?_
  have value := alike_behindMark (here.mono (by omega : i ≤ m)) "=" rfl (.expression true 0)
  refine (Phrase.Alike.when value).bind fun value more'' spelled'' j fewer => .ahead _ fun isConditional => ?_
  refine (alike_conditions (here.mono (by omega))).bind fun _ last _ l _ => ?_
  refine Reader.Alike.bind (Phrase.Alike.mark rfl) fun closing end' spelled₃ _ _ =>
    .pure (.known_if_not _ ?_)
  have whole := (spelled.left more).append (spelled'.append ((spelled''.left last).append spelled₃))
  simpa using whole

theorem alike_staticItem (needsValue : Bool) :
    Reader.Alike n (staticItem read needsValue) (staticItem read' needsValue) (Recognized 1) := by
  have front : Phrase.Alike n 1
      (.maybe "unsafe" ++ .maybe "safe" ++ .word "static" ++ .maybe "mut" ++ .anyWord)
      (.maybe "unsafe" ++ .maybe "safe" ++ .word "static" ++ .maybe "mut" ++ .anyWord) :=
    .append (.append (.append (.append (.maybe _) (.maybe _)) .one) (.maybe _)) .one
  refine .ahead _ fun isMarked => front.bind fun front taken spelled m room => ?_
  have here : Later m read read' := later.mono (by omega)
  refine .ahead _ fun isTyped => ?_
  have type := alike_behindMark here ":" rfl (.type true)
  refine (Phrase.Alike.when type).bind fun type more spelled' k less => .ahead _ fun hasValue => ?_
  have value := alike_behindMark (here.mono (by omega : k ≤ m)) "=" rfl (.expression true 0)
  refine (Phrase.Alike.when value).bind fun value last spelled'' _ _ => ?_
  refine Reader.Alike.bind (Phrase.Alike.mark rfl) fun closing end' spelled₃ _ _ =>
    .pure (.known_if_not _ ?_)
  simpa using spelled.append (spelled'.append (spelled''.append spelled₃))

theorem alike_typeItem (shape : TypeItemShape) :
    Reader.Alike n (typeItem read shape) (typeItem read' shape) (Recognized 1) := by
  have named : Phrase.Alike n 1 (.word "type" ++ .anyWord ++ parameters read)
      (.word "type" ++ .anyWord ++ parameters read') :=
    .before (.before .one fun _ _ => .one) fun m less => alike_parameters (later.below less)
  refine named.bind fun front taken spelled m room => .ahead _ fun hasBounds => ?_
  have here : Later m read read' := later.mono (by omega)
  refine (alike_colonBounds here _).when.bind fun bounds more spelled' k less => ?_
  have conditions : Phrase.Alike k 0 (conditions read) (conditions read') :=
    alike_conditions (here.mono (by omega))
  refine .ahead _ fun isFirst => ?_
  refine conditions.when.bind fun first more' spelled'' i few => .ahead _ fun hasType => ?_
  have type := alike_behindMark (here.mono (by omega : i ≤ m)) "=" rfl (.type true)
  refine (Phrase.Alike.when type).bind fun type more'' spelled₃ j fewer => ?_
  have conditions' : Phrase.Alike j 0
      (.when (fun _ => shape.conditionsLast && !isFirst) (Grammar.conditions read))
      (.when (fun _ => shape.conditionsLast && !isFirst) (Grammar.conditions read')) :=
    .when (conditions.mono (by omega))
  refine conditions'.bind fun last last' spelled₄ _ _ => ?_
  refine Reader.Alike.bind (Phrase.Alike.mark rfl) fun closing end' spelled₅ _ _ =>
    .pure (.known_if_not _ ?_)
  have whole := spelled.append (spelled'.append (spelled''.append (spelled₃.append
    (spelled₄.append spelled₅))))
  simpa using whole

theorem alike_structItem : Phrase.Alike n 1 (structItem read) (structItem read') := by
  refine .before (.before (.before (.before .one fun _ _ => .one)
    fun m less => alike_parameters (later.below less))
    fun m less => alike_conditions (later.below less))
    fun m less => .case (alike_namedMembers (later.below less)) <| .case ?_ <|
      .case (.mark rfl) .otherwise
  exact .before (.before (alike_unnamedMembers (later.below less))
    fun k few => alike_conditions (later.mono (by omega))) fun _ _ => .mark rfl

theorem alike_enumerationItem :
    Phrase.Alike n 1 (enumerationItem read) (enumerationItem read') :=
  .before (.before (.before (.before .one fun _ _ => .one)
    fun m less => alike_parameters (later.below less))
    fun m less => alike_conditions (later.below less))
    fun m less => .enclosedList fun k few => alike_variant (later.mono (by omega))

/-- Each item in braces takes what its reader takes, and is kept where it is only recognized. -/
theorem alike_itemBody {item item' : Reader (Option (List Token))}
    (alike : ∀ m, m < n → Reader.Alike m item item' (Recognized 1)) :
    Phrase.Alike n 1 (itemBody read item) (itemBody read' item') :=
  .enclosed fun m less => .append (alike_innerAttributes (later.below less))
    (.whenever (.orAsWritten (alike m less)))

theorem alike_traitMember :
    Reader.Alike n (traitMember read) (traitMember read') (Recognized 1) := by
  refine (alike_attributes later).bind fun notes taken spelled m room => .ahead _ fun isMarked => ?_
  have marks : Phrase.Alike m 0 (visibility ++ .maybe "default") (visibility ++ .maybe "default") :=
    .append alike_visibility (.maybe _)
  refine marks.bind fun _ more _ k less => ?_
  have here : Later k read read' := later.mono (by omega)
  have function : Phrase.Alike k 1
      (signature read ++ .ifAhead (Ahead.isMark ";") (.mark ";") (read .block))
      (signature read' ++ .ifAhead (Ahead.isMark ";") (.mark ";") (read' .block)) :=
    (alike_signature here).before fun i few => .ifAhead (.mark rfl) (here _ i few)
  refine .ahead _ fun isFunction => .ahead _ fun isConst => .ahead _ fun isType => ?_
  have finish {x y : Reader (Option (List Token))} (alike : Reader.Alike k x y (Recognized 1)) :
      Reader.Alike k (x >>= fun found => return if isMarked then none else found.map (notes ++ ·))
        (y >>= fun found => return if isMarked then none else found.map (notes ++ ·))
        fun last found => Recognized 1 (taken ++ (more ++ last)) found := by
    refine alike.bind fun found last recognized _ _ => .pure ?_
    have whole := Recognized.behind (spelled.drawn.left more) recognized
    rw [List.append_nil, ← List.append_assoc]
    cases isMarked with
    | true => exact .unknown whole.length
    | false => exact whole
  refine .ite (fun _ => finish (alike_known function)) fun _ => .ite (fun _ => finish ?_) fun _ =>
    .ite (fun _ => finish ?_) fun _ => finish (alike_known alike_macroItem)
  · exact alike_constItem here false
  · exact alike_typeItem here _

theorem alike_implementationMember :
    Reader.Alike n (implementationMember read) (implementationMember read') (Recognized 1) := by
  let mark : Phrase := .when (fun tokens => Ahead.isWord "default" tokens &&
    !isCall (tokens.drop 1)) (.word "default")
  have front : Phrase.Alike n 0 (attributes read ++ visibility ++ mark)
      (attributes read' ++ visibility ++ mark) :=
    .append (.append (alike_attributes later) alike_visibility) (.when .one)
  refine front.bind fun notes taken spelled m room => ?_
  have here : Later m read read' := later.mono (by omega)
  have noted {x y : Reader (Option (List Token))} :=
    alike_noted (n := m) (x := x) (y := y) spelled.drawn
  refine .ahead _ fun isFunction => .ahead _ fun isConst => .ahead _ fun isType => ?_
  refine .ite (fun _ => noted (alike_functionItem here)) fun _ => .ite (fun _ => noted ?_)
    fun _ => .ite (fun _ => noted ?_) fun _ => noted (alike_known alike_macroItem)
  · exact alike_constItem here true
  · exact alike_typeItem here _

theorem alike_foreignMember :
    Reader.Alike n (foreignMember read) (foreignMember read') (Recognized 1) := by
  have front := (alike_attributes later).append alike_visibility
  refine front.bind fun notes taken spelled m room => ?_
  have here : Later m read read' := later.mono (by omega)
  have noted {x y : Reader (Option (List Token))} :=
    alike_noted (n := m) (x := x) (y := y) spelled.drawn
  refine .ahead _ fun isFunction => .ahead _ fun isStatic => .ahead _ fun isType =>
    .ahead _ fun isSafe => ?_
  refine .ite (fun _ => ?_) fun _ => .ite (fun _ => noted ?_)
    fun _ => .ite (fun _ => noted ?_) fun _ => noted (alike_known alike_macroItem)
  · refine (alike_signature here).bind fun front more spelled' k less => .ahead _ fun _ =>
      .ite (fun _ => ?_) fun _ => ?_
    · refine Reader.Alike.bind (Phrase.Alike.mark rfl) fun closing last spelled'' _ _ => .pure ?_
      have whole := Recognized.known_if_not isSafe (spelled'.append spelled'')
      simpa using Recognized.behind spelled.drawn whole
    · refine Reader.Alike.bind Phrase.Alike.group fun _ last _ _ _ => .pure ?_
      have some := spelled'.length
      refine .unknown ?_
      simp only [List.length_append]
      omega
  · exact alike_staticItem here false
  · exact alike_typeItem here _

/-- A trait's bounds stand behind a colon, or behind an equals sign if there is nothing else. -/
theorem alike_traitItem : Phrase.Alike n 1 (traitItem read) (traitItem read') := by
  have named : Phrase.Alike n 1 (.maybe "unsafe" ++ .maybe "auto" ++ .word "trait" ++ .anyWord)
      (.maybe "unsafe" ++ .maybe "auto" ++ .word "trait" ++ .anyWord) :=
    .append (.append (.append (.maybe _) (.maybe _)) .one) .one
  refine .before (.before named fun m less => alike_parameters (later.below less))
    fun m less => .ifAhead (k := 1) ?_ ?_
  · exact .before (.before (.before (.mark rfl) fun k few => alike_bounds (later.mono (by omega)) _)
      fun k few => alike_conditions (later.mono (by omega))) fun _ _ => .mark rfl
  · refine .append (.append (.when (alike_colonBounds (later.below less) _))
      (alike_conditions (later.below less))) (alike_itemBody (later.below less) fun k few => ?_)
    exact alike_traitMember (later.mono (by omega))

theorem alike_foreignItem : Phrase.Alike n 1 (foreignItem read) (foreignItem read') :=
  .append (.append (.maybe _) alike_binaryInterface) <| alike_itemBody later fun _ less =>
    alike_foreignMember (later.below less)

theorem alike_moduleItem : Phrase.Alike n 1 (moduleItem read) (moduleItem read') := by
  have named : Phrase.Alike n 1 (.maybe "unsafe" ++ .word "mod" ++ .anyWord)
      (.maybe "unsafe" ++ .word "mod" ++ .anyWord) := .append (.append (.maybe _) .one) .one
  refine named.before fun m less => .ifAhead (.mark rfl) (.enclosed (k := 0) fun k few => ?_)
  exact .append (alike_innerAttributes (later.mono (by omega))) (.whenever (later _ k (by omega)))

/-- What is implemented may be put down as it is written. -/
theorem alike_implementationItem :
    Reader.Alike n (implementationItem read) (implementationItem read') (Recognized 1) := by
  have start : Phrase.Alike n 1
      (.maybe "default" ++ .maybe "unsafe" ++ .word "impl" ++
        .when areParameters (parameters read))
      (.maybe "default" ++ .maybe "unsafe" ++ .word "impl" ++
        .when areParameters (parameters read')) :=
    .before (.append (.append (.maybe _) (.maybe _)) .one) fun m less =>
      .when (alike_parameters (later.below less))
  refine start.bind fun front taken spelled m room => .ahead _ fun isConst => ?_
  have some := spelled.length
  have const : Phrase.Alike m 1 (.when (Ahead.isMark "?") (.mark "?") ++ .word "const")
      (.when (Ahead.isMark "?") (.mark "?") ++ .word "const") := .append (.when (.mark rfl)) .one
  refine const.when.bind fun _ dropped _ k less => ?_
  have exclamation : Phrase.Alike k 0 (.when (fun tokens => isCall tokens &&
      !Ahead.isBracket '\x7b' (tokens.drop 1)) (.mark "!")) (.when (fun tokens => isCall tokens &&
      !Ahead.isBracket '\x7b' (tokens.drop 1)) (.mark "!")) := .when (.mark rfl)
  refine exclamation.bind fun sign more spelled' i few => .ahead _ fun startsPath => ?_
  have here : Later i read read' := later.mono (by omega)
  refine (Reader.Alike.withWritten (p := fun taken found => Spelled 1 taken found.1) ?_).bind
    fun pair last holds j fewer => .ahead _ fun isOfTrait => ?_
  · refine .ite (fun _ => ?_) fun _ => ?_
    · refine (later _ i (by omega)).bind fun type taken spelled'' _ _ => .pure ?_
      simpa using spelled''
    · refine (alike_extendedPath here true).bind fun pair taken spelled'' _ _ => .pure ?_
      simpa using spelled''
  · obtain ⟨⟨found, isPath⟩, written⟩ := pair
    obtain ⟨spelled'', rfl⟩ := holds
    have subject : DrawnFrom written (if sign.isEmpty || isOfTrait then found else written) := by
      split
      next => exact spelled''.drawn
      next => exact .refl _
    have type : Phrase.Alike j 1 (.word "for" ++ read (.type true))
        (.word "for" ++ read' (.type true)) := .before .one fun l small => here _ l (by omega)
    refine type.when.bind fun second more' spelled₃ l _ => ?_
    have end' : Later l read read' := here.mono (by omega)
    have body : Phrase.Alike l 1 (conditions read ++ itemBody read (implementationMember read))
        (conditions read' ++ itemBody read' (implementationMember read')) :=
      .append (alike_conditions end') <| alike_itemBody end' fun _ small =>
        alike_implementationMember (end'.below small)
    refine body.bind fun rest last' spelled₄ _ _ => .pure (.known_if_not _ ?_)
    have whole := (spelled.left dropped).append <| spelled'.append <|
      Spelled.behind subject <| spelled₃.append spelled₄
    simpa using whole

theorem alike_bareItem (isPrivate : Bool) :
    Reader.Alike n (bareItem read isPrivate) (bareItem read' isPrivate) (Recognized 1) := by
  refine .peek (fun tokens => tokens) fun tokens => ?_
  refine .ite (fun _ => alike_functionItem later) fun _ =>
    .ite (fun _ => alike_known alike_throughSemicolon) fun _ =>
    .ite (fun _ => alike_known (alike_foreignItem later)) fun _ =>
    .ite (fun _ => alike_staticItem later true) fun _ =>
    .ite (fun _ => alike_constItem later true) fun _ =>
    .ite (fun _ => alike_known (alike_moduleItem later)) fun _ =>
    .ite (fun _ => alike_typeItem later _) fun _ =>
    .ite (fun _ => alike_known (alike_structItem later)) fun _ =>
    .ite (fun _ => alike_known (alike_enumerationItem later)) fun _ =>
    .ite (fun _ => alike_known (alike_traitItem later)) fun _ =>
    .ite (fun _ => ?_) fun _ => .ite (fun _ => ?_) fun _ => alike_known alike_macroItem
  · refine (alike_implementationItem later).bind fun found taken recognized _ _ => .pure ?_
    rw [List.append_nil]
    cases isPrivate with
    | true => exact recognized
    | false => exact .unknown recognized.length
  · have macro' : Phrase.Alike n 1 (.word "macro" ++ .anyWord ++ .group ++
        .when (Ahead.isBracket '\x7b') .group) (.word "macro" ++ .anyWord ++ .group ++
        .when (Ahead.isBracket '\x7b') .group) :=
      .before (.before (.before .one fun _ _ => .one) fun _ _ => .group) fun _ _ => .when .group
    exact macro'.bind fun _ taken spelled _ _ => .pure (.unknown (by simpa using spelled.length))

theorem alike_itemPhrase : Phrase.Alike n 1 (itemPhrase read) (itemPhrase read') := by
  apply Phrase.Alike.orAsWritten
  refine (alike_attributes later).bind fun notes taken spelled m room => .ahead _ fun isPublic => ?_
  refine alike_visibility.bind fun front more spelled' k less => ?_
  have bare := alike_bareItem (later.mono (by omega : k ≤ n)) (!isPublic)
  refine bare.bind fun found last recognized _ _ => .pure ?_
  have whole := Recognized.behind (spelled.drawn.append spelled'.drawn) recognized
  simpa using whole

/-! ## Statements -/

theorem alike_letStatement : Phrase.Alike n 1 (letStatement read) (letStatement read') := by
  refine .before (.before (.before (.before .one (later _))
    fun m less => .when (.append (.mark rfl) (later _ m less)))
    fun m less => .when (.before (.append (.mark rfl) (later _ m less)) fun k few => .when (k := 1) ?_))
    fun _ _ => .mark rfl
  exact .append .one (later _ k (by omega))

end

theorem alike_statement (now : Later (n + 1) read read') :
    Phrase.Alike n 1 (statement read) (statement read') := by
  have later := now.below (Nat.lt_succ_self n)
  refine .ahead _ fun _ => .ahead _ fun _ => .ahead _ fun _ => ?_
  refine .ite (fun _ => now.now _) fun _ => .ite (fun _ => ?_) fun _ =>
    .ite (fun _ => ?_) fun _ => ?_
  · exact Phrase.Alike.append (alike_attributes later) alike_macroItem
  · exact Phrase.Alike.append (alike_attributes later) (alike_letStatement later)
  · exact (now.now .arm).before fun _ _ => .when (.mark rfl)

theorem alike_blockPhrase (later : Later n read read') :
    Phrase.Alike n 1 (blockPhrase read) (blockPhrase read') :=
  .enclosed fun _ less => .append (alike_innerAttributes (later.below less))
    (.whenever (.ifAhead (.mark rfl) (alike_statement (later.mono less))))

end RecordSql.Declare.Grammar
