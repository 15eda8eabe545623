import TypedSql.Statement.Numbering
import TypedSql.Proofs.Edit
import TypedSql.Proofs.ParamSet

/-!
# Numbered statements

Putting numbers in place of names keeps the shape of a statement: its expressions are those of the
statement before, each with its names numbered, in the same order. In the text, the place of a name holds
the placeholder with the number of the name.
-/

namespace TypedSql

namespace Renumber

variable (number : String → Option Nat)

theorem map_both {α β : Type} {f : α → β} {a b : List α} {a' b' : List β} (ha : a' = a.map f)
    (hb : b' = b.map f) : a' ++ b' = (a ++ b).map f := by
  rw [ha, hb, List.map_append]

mutual

theorem visit_expr : (e : Expr) → Visit.expr (expr number e) = (Visit.expr e).map (expr number)
  | .column _ | .star _ | .param .. | .literal _ => rfl
  | .named name style => by
    change Visit.expr (expr number (.named name style)) = [expr number (.named name style)]
    rw [expr]
    split <;> rfl
  | .binary left _ right => congrArg (_ :: ·) (map_both (visit_expr left) (visit_expr right))
  | .unary _ e => congrArg (_ :: ·) (visit_expr e)
  | .call _ args => congrArg (_ :: ·) (visit_exprs args)
  | .cast e _ => congrArg (_ :: ·) (visit_expr e)
  | .between e _ low high => congrArg (_ :: ·)
      (map_both (map_both (visit_expr e) (visit_expr low)) (visit_expr high))
  | .inList e items _ => congrArg (_ :: ·) (map_both (visit_expr e) (visit_exprs items))
  | .inQuery e q _ => congrArg (_ :: ·) (map_both (visit_expr e) (visit_query q))
  | .exist q _ => congrArg (_ :: ·) (visit_query q)
  | .subquery q => congrArg (_ :: ·) (visit_query q)
  | .choose operand conditions results otherwise => congrArg (_ :: ·)
      (map_both (map_both (map_both (visit_option operand) (visit_exprs conditions))
        (visit_exprs results)) (visit_option otherwise))
  | .isNull e _ => congrArg (_ :: ·) (visit_expr e)
  | .array items => congrArg (_ :: ·) (visit_exprs items)
  | .other _ params => congrArg (_ :: ·) (visit_exprs params)

theorem visit_exprs : (es : List Expr) →
    Visit.exprs (exprs number es) = (Visit.exprs es).map (expr number)
  | [] => rfl
  | e :: es => map_both (visit_expr e) (visit_exprs es)

theorem visit_option : (e : Option Expr) →
    Visit.option (option number e) = (Visit.option e).map (expr number)
  | none => rfl
  | some e => visit_expr e

theorem visit_query : (q : Query) → Visit.query (query number q) = (Visit.query q).map (expr number)
  | ⟨named, main, orderBy, limit, offset⟩ =>
    map_both (map_both (map_both (map_both (visit_ctes named) (visit_body main))
      (visit_exprs orderBy)) (visit_option limit)) (visit_option offset)

theorem visit_ctes : (cs : List Cte) → Visit.ctes (ctes number cs) = (Visit.ctes cs).map (expr number)
  | [] => rfl
  | c :: cs => map_both (visit_cte c) (visit_ctes cs)

theorem visit_cte : (c : Cte) → Visit.cte (cte number c) = (Visit.cte c).map (expr number)
  | ⟨_, _, q⟩ => visit_query q

theorem visit_body : (b : Body) → Visit.body (body number b) = (Visit.body b).map (expr number)
  | .select s => visit_select s
  | .setOp _ left right => map_both (visit_body left) (visit_body right)
  | .values rs => visit_rows rs
  | .query q => visit_query q

theorem visit_rows : (rs : List (List Expr)) →
    Visit.rows (rows number rs) = (Visit.rows rs).map (expr number)
  | [] => rfl
  | r :: rs => map_both (visit_exprs r) (visit_rows rs)

theorem visit_select : (s : Select) → Visit.select (select number s) = (Visit.select s).map (expr number)
  | ⟨_, items, from_, selection, groupBy, having⟩ =>
    map_both (map_both (map_both (map_both (visit_targets items) (visit_sources from_))
      (visit_option selection)) (visit_exprs groupBy)) (visit_option having)

theorem visit_targets : (ts : List Target) →
    Visit.targets (targets number ts) = (Visit.targets ts).map (expr number)
  | [] => rfl
  | t :: ts => map_both (visit_target t) (visit_targets ts)

theorem visit_target : (t : Target) → Visit.target (target number t) = (Visit.target t).map (expr number)
  | ⟨value, _⟩ => visit_expr value

theorem visit_sources : (items : List FromItem) →
    Visit.sources (sources number items) = (Visit.sources items).map (expr number)
  | [] => rfl
  | item :: items => map_both (visit_source item) (visit_sources items)

theorem visit_source : (item : FromItem) →
    Visit.source (source number item) = (Visit.source item).map (expr number)
  | .range _ => rfl
  | .join _ left right condition =>
    map_both (map_both (visit_source left) (visit_source right)) (visit_option condition)
  | .subquery q _ => visit_query q
  | .other _ => rfl

end

theorem visit_assignments (as : List Assignment) :
    Visit.assignments (as.map (assignment number)) = (Visit.assignments as).map (expr number) := by
  induction as with
  | nil => rfl
  | cons a as ih => exact map_both (visit_expr number a.value) ih

theorem exprs_statement (s : Statement) :
    (statement number s).exprs = s.exprs.map (expr number) := by
  cases s with
  | select q => exact visit_query number q
  | insert i =>
    have hsource : ((i.source.map (query number)).map Visit.query).getD [] =
        ((i.source.map Visit.query).getD []).map (expr number) := by
      cases i.source with
      | none => rfl
      | some q => exact visit_query number q
    exact map_both (map_both (map_both hsource (visit_assignments number i.onConflict))
      (visit_option number i.conflictSelection)) (visit_targets number i.returning)
  | update u =>
    exact map_both (map_both (map_both (visit_assignments number u.assignments)
      (visit_sources number u.sources)) (visit_option number u.selection))
      (visit_targets number u.returning)
  | delete d =>
    exact map_both (map_both (visit_sources number d.sources) (visit_option number d.selection))
      (visit_targets number d.returning)
  | truncate _ => rfl
  | define _ => rfl
  | noOp _ => rfl
  | other _ => rfl

end Renumber

def NamedSite.occurrence (site : NamedSite) : String × NamedStyle :=
  (site.name, site.style)

def NamedSite.edit (site : NamedSite) (n : Nat) : Edit :=
  { location := site.location, old := site.text, new := ("$" ++ toString n).toList }

namespace NamedSite

open Lexer

theorem edit_new (site : NamedSite) (n : Nat) : (site.edit n).new = '$' :: Nat.toDigits 10 n := by
  change ("$" ++ Nat.repr n).toList = _
  rw [String.toList_append, Nat.toList_repr]
  rfl

theorem isTagPart_of_mem_toDigits {n : Nat} : ∀ d ∈ Nat.toDigits 10 n, isTagPart d = true := by
  intro d hd
  have hdigit := Nat.isDigit_of_mem_toDigits (by decide) (by decide) hd
  simp [isTagPart, Text.isAlphanumeric, isNumeric_of_isDigit hdigit]

theorem placeholderNumber?_toDigits (n : Nat) :
    Sites.placeholderNumber? ('$' :: Nat.toDigits 10 n) =
      if n ≤ Sites.maxNumber then some n else none := by
  have hvalue : (Nat.toDigits 10 n).foldl (fun n c => n * 10 + (c.toNat - 48)) 0 = n := by
    have h := Nat.ofDigitChars_toDigits (b := 10) (n := n) (by decide) (by decide)
    simpa [Nat.ofDigitChars, Nat.mul_comm] using h
  have hdigits : ¬ ((Nat.toDigits 10 n).isEmpty || !(Nat.toDigits 10 n).all Char.isDigit) = true := by
    have hall : (Nat.toDigits 10 n).all Char.isDigit = true :=
      List.all_eq_true.mpr fun d hd => Nat.isDigit_of_mem_toDigits (by decide) (by decide) hd
    simp [hall, Nat.toDigits_ne_nil]
  rw [Sites.placeholderNumber?, Sites.digitsValue?, if_neg hdigits]
  dsimp only
  rw [hvalue]

theorem standalone_edit (site : NamedSite) (n : Nat) :
    Standalone (site.edit n).new
      [{ token := .placeholder ('$' :: Nat.toDigits 10 n), text := '$' :: Nat.toDigits 10 n }] := by
  rw [edit_new]
  refine ⟨by simp [Lexeme.cover], fun rest hrest => reads_placeholder isTagPart_of_mem_toDigits hrest⟩

theorem mem_placeholders_edit {site : NamedSite} {n m : Nat} :
    m ∈ (site.edit n).new.placeholders ↔ m = n ∧ n ≤ Sites.maxNumber := by
  rw [Text.placeholders, (standalone_edit site n).lex_eq]
  simp only [Option.getD_some, Lexeme.placeholders, List.mem_filterMap, List.mem_singleton,
    exists_eq_left, Token.placeholder?, placeholderNumber?_toDigits]
  split
  · rename_i hle
    simp [hle, eq_comm]
  · rename_i hle
    simp [hle]

theorem placed_edit {ls : List Lexeme} {site : NamedSite} (h : Lexeme.Spans ls site.location site.text)
    (n : Nat) : (site.edit n).Placed ls := by
  refine ⟨h, fun _ => ⟨'$', ?_, rfl⟩, _, standalone_edit site n⟩
  rw [edit_new]
  rfl

end NamedSite

namespace Numbered

theorem ofSites_params (set : ParamSet) (sites : List NamedSite) :
    (ofSites set sites).1 = (set.addAll (sites.map NamedSite.occurrence)).1 := by
  induction sites generalizing set with
  | nil => rfl
  | cons site sites ih => exact ih (set.add site.name site.style).1

theorem number?_ofSites_of_some {set : ParamSet} {name : String} {n : Nat} {sites : List NamedSite}
    (h : set.number? name = some n) : (ofSites set sites).1.number? name = some n := by
  rw [ofSites_params]
  exact ParamSet.number?_addAll_of_some h _

theorem number?_ofSites_head (set : ParamSet) (site : NamedSite) (sites : List NamedSite) :
    (ofSites set (site :: sites)).1.number? site.name = some (set.add site.name site.style).2 := by
  change (ofSites (set.add site.name site.style).1 sites).1.number? site.name = _
  exact number?_ofSites_of_some (ParamSet.number?_add_self set site.name site.style)

theorem mem_ofSites_edits {set : ParamSet} {sites : List NamedSite} {e : Edit} :
    e ∈ (ofSites set sites).2 ↔
      ∃ site ∈ sites, ∃ n, (ofSites set sites).1.number? site.name = some n ∧ e = site.edit n := by
  induction sites generalizing set with
  | nil => simp [ofSites]
  | cons site sites ih =>
    have hset : (ofSites set (site :: sites)).1 =
        (ofSites (set.add site.name site.style).1 sites).1 := rfl
    have hself := number?_ofSites_head set site sites
    have hedits : (ofSites set (site :: sites)).2 = site.edit (set.add site.name site.style).2 ::
        (ofSites (set.add site.name site.style).1 sites).2 := rfl
    rw [hedits, List.mem_cons, ih, ← hset]
    constructor
    · rintro (rfl | ⟨x, hx, n, hn, rfl⟩)
      · exact ⟨site, by simp, _, hself, rfl⟩
      · exact ⟨x, by simp [hx], n, hn, rfl⟩
    · rintro ⟨x, hx, n, hn, rfl⟩
      rcases List.mem_cons.mp hx with rfl | hx
      · rw [hself] at hn
        cases hn
        exact Or.inl rfl
      · exact Or.inr ⟨x, hx, n, hn, rfl⟩

theorem number?_ofSites_eq_none_iff {sites : List NamedSite} {name : String} :
    (ofSites {} sites).1.number? name = none ↔ ∀ site ∈ sites, site.name ≠ name := by
  have hempty : ({} : ParamSet).number? name = none := rfl
  rw [ofSites_params, ParamSet.number?_addAll_eq_none_iff]
  simp [hempty, NamedSite.occurrence]

theorem exists_of_unplaced? {set : ParamSet} {s : Statement} {name : String}
    (h : unplaced? set s = some name) : ∃ style, .named name style ∈ s.exprs ∧ set.number? name = none := by
  obtain ⟨⟨found, style⟩, hlast, rfl⟩ := Option.map_eq_some_iff.mp h
  obtain ⟨hmem, hnone⟩ := List.mem_filter.mp (List.mem_of_getLast? hlast)
  obtain ⟨e, he, hnamed⟩ := List.mem_filterMap.mp hmem
  refine ⟨style, ?_, Option.isNone_iff_eq_none.mp hnone⟩
  cases e with
  | named =>
    cases hnamed
    exact he
  | _ => cases hnamed

theorem number?_ne_none_of_unplaced? {set : ParamSet} {s : Statement} (h : unplaced? set s = none)
    {name : String} {style : NamedStyle} (hnamed : .named name style ∈ s.exprs) :
    set.number? name ≠ none := by
  intro hnone
  have hnil := List.getLast?_eq_none_iff.mp (Option.map_eq_none_iff.mp h)
  have hnone : (set.number? name).isNone = true := Option.isNone_iff_eq_none.mpr hnone
  refine List.not_mem_nil (a := (name, style)) ?_
  rw [← hnil]
  exact List.mem_filter.mpr ⟨List.mem_filterMap.mpr ⟨_, hnamed, rfl⟩, hnone⟩

theorem exists_of_ofStatement_eq_error {s : Statement} {sites : List NamedSite} {e : Error}
    (h : ofStatement s sites = .error e) : ∃ name style, .named name style ∈ s.exprs ∧
      (∀ site ∈ sites, site.name ≠ name) ∧ e = .internal (.namedWithoutSite name) := by
  unfold ofStatement at h
  dsimp only at h
  split at h
  · rename_i name hname
    cases h
    obtain ⟨style, hnamed, hnone⟩ := exists_of_unplaced? hname
    exact ⟨name, style, hnamed, number?_ofSites_eq_none_iff.mp hnone, rfl⟩
  · cases h

theorem ofStatement_eq_ok {s : Statement} {sites : List NamedSite} {n : Numbered}
    (h : ofStatement s sites = .ok n) : unplaced? (ofSites {} sites).1 s = none ∧
      n = { statement := Renumber.statement (ofSites {} sites).1.number? s
            params := (ofSites {} sites).1
            edits := (ofSites {} sites).2 } := by
  unfold ofStatement at h
  dsimp only at h
  split at h
  · cases h
  · rename_i hplaced
    cases h
    exact ⟨hplaced, rfl⟩

theorem exists_site_of_ofStatement {s : Statement} {sites : List NamedSite} {n : Numbered}
    (h : ofStatement s sites = .ok n) {name : String} {style : NamedStyle}
    (hnamed : .named name style ∈ s.exprs) : ¬ ∀ site ∈ sites, site.name ≠ name := by
  intro hsites
  exact number?_ne_none_of_unplaced? (ofStatement_eq_ok h).1 hnamed (number?_ofSites_eq_none_iff.mpr hsites)

end Numbered

end TypedSql
