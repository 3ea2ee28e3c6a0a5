import RecordSql.Proofs.SourceReading
/-! # Joins are written unambiguously

Resolving a source puts the names of its tables and equal fields in their place and joins each
list of conditions from the left. A source that renders writes the pieces of its resolved tree
(`Source.writes_render`), and these can be read back. So two sources with the same text and
the same arguments have the same resolved tree. -/
set_option autoImplicit false
namespace RecordSql

/-! ## Resolution -/

section Resolution

variable (m : Model) (r : Registry)

/-- The conditions of a list as one, joined from the left. -/
def resolveAll? (conditions : List Predicate) : Option (Option Resolved.Condition) :=
  match Predicate.all? conditions with
  | none => some none
  | some p => (p.resolve? m r).map some

/-- The fields of `USING` are fields of the statement's own model. -/
def resolveUsing? : List String → Option (List String)
  | [] => some []
  | field :: rest => do
    let column ← (m.columnOf field).toOption
    let columns ← resolveUsing? rest
    some (column :: columns)

def Source.resolve? : Source → Option Resolved.Source
  | .table t => (r.find? t.entity.identity).map fun model => .table model.table t.aliasName
  | .join kind left right fields conditions => do
    let first ← left.resolve?
    let second ← right.resolve?
    let columns ← resolveUsing? m fields
    let condition ← resolveAll? m r conditions
    some (.join kind first second columns condition)

/-- Without a source, the table of the statement's own model. -/
def resolveSource? : Option Source → Option Resolved.Source
  | none => some (.table m.table none)
  | some s => s.resolve? m r

end Resolution

/-! ## Rendering writes the resolved source -/

open Render

variable {m : Model}

theorem writes_renderAlias {aliasName : Option String} {r after : Registry} {pieces : List Piece}
    (run : (renderAlias aliasName).Yields m r pieces after ()) :
    pieces = Resolved.aliasPieces aliasName ∧ after = r := by
  cases aliasName with
  | none =>
    obtain ⟨rfl, rfl, -⟩ := yields_pure.mp run
    exact ⟨rfl, rfl⟩
  | some name =>
    simp only [renderAlias, yields_bind, yields_write, yields_quoted] at run
    obtain ⟨_, _, _, _, ⟨rfl, rfl⟩, ⟨rfl, rfl⟩, rfl⟩ := run
    exact ⟨rfl, rfl⟩

theorem Table.writes_render (t : Table) :
    t.render.Writes m Resolved.Source.pieces (fun r => (Source.table t).resolve? m r) := by
  intro r pieces after run
  simp only [render, yields_bind, yields_modelOf, yields_quoted] at run
  obtain ⟨_, middle, model, _, ⟨rfl, got⟩, ⟨_, _, _, _, ⟨rfl, rfl⟩, tail, rfl⟩, rfl⟩ := run
  obtain ⟨rfl, rfl⟩ := writes_renderAlias tail
  obtain ⟨grows, inForce⟩ := Registry.extends_get got
  refine ⟨grows, .table model.table t.aliasName, rfl, fun later ext => ?_⟩
  simp only [Source.resolve?, ext _ _ inForce, Option.map_some]

theorem writes_usingTail {fields : List String} {r after : Registry} {pieces : List Piece}
    (run : (commaTail (fun field => do quoted (← ownColumn field)) fields).Yields m r pieces
      after ()) :
    after = r ∧ ∃ columns, pieces = Resolved.tailPieces columns ∧
      resolveUsing? m fields = some columns := by
  induction fields generalizing pieces with
  | nil =>
    obtain ⟨rfl, rfl, -⟩ := yields_pure.mp run
    exact ⟨rfl, [], rfl, rfl⟩
  | cons field rest ih =>
    simp only [commaTail, yields_bind, yields_write, yields_ownColumn, yields_quoted] at run
    obtain ⟨_, _, _, _, ⟨rfl, rfl⟩, ⟨_, _, _, tail, ⟨_, _, column, _, ⟨rfl, rfl, found⟩, ⟨rfl, rfl⟩,
      rfl⟩, others, rfl⟩, rfl⟩ := run
    obtain ⟨rfl, columns, rfl, resolved⟩ := ih others
    refine ⟨rfl, column :: columns, rfl, ?_⟩
    simp only [resolveUsing?, toOption_columnOf found, resolved, Option.bind_eq_bind,
      Option.bind_some]

theorem writes_renderUsing (fields : List String) :
    (renderUsing fields).Writes m Resolved.usingPieces (fun _ => resolveUsing? m fields) := by
  intro r pieces after run
  cases fields with
  | nil =>
    obtain ⟨rfl, rfl, -⟩ := yields_pure.mp run
    exact ⟨Registry.extends_refl _, [], rfl, fun _ _ => rfl⟩
  | cons field rest =>
    simp only [renderUsing, commaList, yields_bind, yields_write, yields_ownColumn,
      yields_quoted] at run
    obtain ⟨_, _, _, _, ⟨rfl, rfl⟩, ⟨_, _, _, _, ⟨_, _, _, _, ⟨_, _, column, _, ⟨rfl, rfl, found⟩,
      ⟨rfl, rfl⟩, rfl⟩, others, rfl⟩, ⟨rfl, rfl⟩, rfl⟩, rfl⟩ := run
    obtain ⟨rfl, columns, rfl, resolved⟩ := writes_usingTail others
    refine ⟨Registry.extends_refl _, column :: columns, ?_, fun _ _ => ?_⟩
    · simp [Resolved.usingPieces]
    · simp only [resolveUsing?, toOption_columnOf found, resolved, Option.bind_eq_bind,
        Option.bind_some]

theorem writes_renderOn {conditions : List Predicate}
    (noRaw : ∀ f, .raw f ∉ conditions.flatMap Predicate.bindings) :
    (renderClause " ON " conditions).Writes m Resolved.onPieces
      (fun r => resolveAll? m r conditions) := by
  intro r pieces after run
  cases conditions with
  | nil =>
    obtain ⟨rfl, rfl, -⟩ := yields_pure.mp run
    exact ⟨Registry.extends_refl _, none, rfl, fun _ _ => rfl⟩
  | cons p rest =>
    simp only [renderClause, renderAll, Predicate.all?, yields_bind, yields_write] at run
    obtain ⟨_, _, _, _, ⟨rfl, rfl⟩, run, rfl⟩ := run
    rw [List.flatMap_cons, ← bindings_foldl_and] at noRaw
    obtain ⟨grows, tree, rfl, resolved⟩ := (rest.foldl .and p).writes_render noRaw _ _ _ run
    refine ⟨grows, some tree, rfl, fun later ext => ?_⟩
    simp only [resolveAll?, Predicate.all?, resolved later ext, Option.map_some]

/-- By induction on the source: what the left source asked for stays in force for the right
one, and both stay in force for the conditions. -/
theorem Source.writes_render {s : Source} (noRaw : ∀ f, .raw f ∉ s.bindings) :
    s.render.Writes m Resolved.Source.pieces (fun r => s.resolve? m r) := by
  induction s with
  | table t => exact t.writes_render
  | join kind left right fields conditions ihLeft ihRight =>
    rw [bindings] at noRaw
    have first := ihLeft fun f member => noRaw f (List.mem_append_left _ member)
    have second := ihRight fun f member =>
      noRaw f (List.mem_append_right _ (List.mem_append_left _ member))
    have third : (renderClause " ON " conditions).Writes m Resolved.onPieces _ :=
      writes_renderOn fun f member =>
        noRaw f (List.mem_append_right _ (List.mem_append_right _ member))
    intro r pieces after run
    simp only [render, yields_bind, yields_write] at run
    obtain ⟨_, _, _, _, ⟨rfl, rfl⟩, ⟨_, _, _, _, runLeft, ⟨_, _, _, _, ⟨rfl, rfl⟩, ⟨_, _, _, _,
      runRight, ⟨_, _, _, _, runUsing, ⟨_, _, _, _, runOn, ⟨rfl, rfl⟩, rfl⟩, rfl⟩, rfl⟩, rfl⟩, rfl⟩,
      rfl⟩ := run
    obtain ⟨growsLeft, leftTree, rfl, resolvedLeft⟩ := first _ _ _ runLeft
    obtain ⟨growsRight, rightTree, rfl, resolvedRight⟩ := second _ _ _ runRight
    obtain ⟨growsUsing, columns, rfl, resolvedUsing⟩ := writes_renderUsing fields _ _ _ runUsing
    obtain ⟨growsOn, condition, rfl, resolvedOn⟩ := third _ _ _ runOn
    have growsClauses := growsOn.trans growsUsing
    refine ⟨growsClauses.trans (growsRight.trans growsLeft),
      .join kind leftTree rightTree columns condition, ?_, fun later ext => ?_⟩
    · simp [Resolved.Source.pieces, Resolved.clausePieces]
    · have left := resolvedLeft later (ext.trans (growsClauses.trans growsRight))
      have right := resolvedRight later (ext.trans growsClauses)
      have names := resolvedUsing later (ext.trans growsOn)
      have joined := resolvedOn later ext
      simp only [resolve?, left, right, names, joined, Option.bind_eq_bind, Option.bind_some]

theorem writes_renderSource {source : Option Source}
    (noRaw : ∀ f, .raw f ∉ source.toList.flatMap Source.bindings) :
    (renderSource source).Writes m Resolved.Source.pieces (fun r => resolveSource? m r source) := by
  cases source with
  | none =>
    intro r pieces after run
    simp only [renderSource, yields_bind, yields_ownModel, yields_quoted] at run
    obtain ⟨_, _, _, _, ⟨rfl, rfl, rfl⟩, ⟨rfl, rfl⟩, rfl⟩ := run
    exact ⟨Registry.extends_refl _, .table _ none, rfl, fun _ _ => rfl⟩
  | some s => exact Source.writes_render (by simpa using noRaw)

/-! ## Sources that are written alike -/

/-- A source that renders, without raw fragments and with names that do not hold the quote
character, can be read back from its text and its arguments. So another such source that is
written alike has the same nesting with the same kinds of joins, tables, aliases, equal fields
and conditions. -/
theorem resolveSource?_of_sqlOf_eq {d : Dialect} {r : Registry} {source : Option Source}
    (renders : (renderSource source m r).result = .ok ())
    (noRaw : ∀ f, .raw f ∉ source.toList.flatMap Source.bindings)
    (clean : ∀ name ∈ namesOf (renderSource source m r).pieces, d.quote ∉ name.toList) :
    let sql := sqlOf d.quote (renderSource source m r).pieces
    let args := argsOf (renderSource source m r).pieces
    ∃ tree, resolveSource? m (renderSource source m r).registry source = some tree ∧
      Resolved.Source.read d.quote sql args = some tree ∧
      ∀ other : Option Source, (renderSource other m r).result = .ok () →
        (∀ f, .raw f ∉ other.toList.flatMap Source.bindings) →
        (∀ name ∈ namesOf (renderSource other m r).pieces, d.quote ∉ name.toList) →
        sqlOf d.quote (renderSource other m r).pieces = sql →
        argsOf (renderSource other m r).pieces = args →
        resolveSource? m (renderSource other m r).registry other = some tree := by
  have known := d.isQuoteChar_quote
  have written (one : Option Source) (renders : (renderSource one m r).result = .ok ())
      (noRaw : ∀ f, .raw f ∉ one.toList.flatMap Source.bindings)
      (clean : ∀ name ∈ namesOf (renderSource one m r).pieces, d.quote ∉ name.toList) :
      ∃ tree, resolveSource? m (renderSource one m r).registry one = some tree ∧
        Resolved.Source.read d.quote (sqlOf d.quote (renderSource one m r).pieces)
          (argsOf (renderSource one m r).pieces) = some tree := by
    have run : (renderSource one).Yields m r (renderSource one m r).pieces
        (renderSource one m r).registry () := by
      rw [Render.Yields, ← renders]
    obtain ⟨-, tree, pieces, resolved⟩ := writes_renderSource noRaw _ _ _ run
    rw [pieces] at clean ⊢
    exact ⟨tree, resolved _ (Registry.extends_refl _), Resolved.Source.read_sqlOf known clean⟩
  obtain ⟨tree, resolved, found⟩ := written source renders noRaw clean
  intro sql args
  refine ⟨tree, resolved, found, ?_⟩
  intro other rendersOther noRawOther cleanOther sameSql sameArgs
  obtain ⟨otherTree, resolvedOther, foundOther⟩ := written other rendersOther noRawOther cleanOther
  rw [sameSql, sameArgs] at foundOther
  rw [resolvedOther, ← foundOther, found]

def Source.bothSides (conditions : List Predicate) : Source :=
  .join .left
    (.join .inner (.table ⟨account, some "a"⟩) (.table ⟨account, none⟩) ["id", "owner"] [])
    (.join .right (.table ⟨account, some "b"⟩) (.table ⟨account, none⟩) [] [])
    [] conditions

theorem resolveSource?_of_sqlOf_eq_joined :
    let m : Model := ⟨"account", [⟨"id", "id", "i64", 0⟩, ⟨"owner", "owner", "i64", 1⟩]⟩
    let p : Predicate := .compare ⟨"owner", none, some ⟨account, some "a"⟩⟩ .eq
      (.column ⟨"id", none, some ⟨account, some "b"⟩⟩)
    let q : Predicate := .compare ⟨"owner", none, none⟩ .gt (.value (.int 1))
    let s := some (.bothSides [p, q, q])
    let t := some (.bothSides [.and p q, q])
    sqlOf '\x60' (renderSource s m .empty).pieces =
        "((`account` AS `a` JOIN `account` USING (`id`,`owner`)) LEFT JOIN " ++
          "(`account` AS `b` RIGHT JOIN `account`) ON " ++
          "((`a`.`owner` = `b`.`id`) AND (`owner` > ?)) AND (`owner` > ?))" ∧
      sqlOf '\x60' (renderSource t m .empty).pieces =
        sqlOf '\x60' (renderSource s m .empty).pieces ∧
      ∃ tree, resolveSource? m (renderSource s m .empty).registry s = some tree ∧
        resolveSource? m (renderSource t m .empty).registry t = some tree := by
  intro m p q s t
  have rendersS : (renderSource s m .empty).result = .ok () := by decide +kernel
  have rendersT : (renderSource t m .empty).result = .ok () := by decide +kernel
  have noRawS : ∀ f, .raw f ∉ s.toList.flatMap Source.bindings := by
    simp [s, p, q, Source.bothSides, Source.bindings, Predicate.bindings, Expr.bindings]
  have noRawT : ∀ f, .raw f ∉ t.toList.flatMap Source.bindings := by
    simp [t, p, q, Source.bothSides, Source.bindings, Predicate.bindings, Expr.bindings]
  have sql : sqlOf '\x60' (renderSource s m .empty).pieces =
      "((`account` AS `a` JOIN `account` USING (`id`,`owner`)) LEFT JOIN " ++
        "(`account` AS `b` RIGHT JOIN `account`) ON " ++
        "((`a`.`owner` = `b`.`id`) AND (`owner` > ?)) AND (`owner` > ?))" := by decide +kernel
  have same : sqlOf '\x60' (renderSource t m .empty).pieces =
      sqlOf '\x60' (renderSource s m .empty).pieces := by
    rw [sql]
    decide +kernel
  obtain ⟨tree, resolved, -, others⟩ :=
    resolveSource?_of_sqlOf_eq (d := .mysql) rendersS noRawS (by decide +kernel)
  exact ⟨sql, same, tree, resolved,
    others t rendersT noRawT (by decide +kernel) same (by decide +kernel)⟩

end RecordSql
