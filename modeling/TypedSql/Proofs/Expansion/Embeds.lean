import TypedSql.Proofs.Expansion.Located

/-!
# Expansion of embedded tables alone

An expansion of the embedded tables alone goes through the same steps as an expansion of all wildcards, and
makes the edits for the wildcards that it goes through. So it makes those of the edits for all wildcards
that are for an embedded table.
-/

namespace TypedSql

namespace Expansion

def embeds (stars : List StarRef) (edits : List Edit) : List Edit :=
  ((stars.zip edits).filter fun p => p.1.embed).map Prod.snd

theorem embeds_append {stars stars' : List StarRef} {edits edits' : List Edit}
    (h : List.Forall₂ Edits stars edits) :
    embeds (stars ++ stars') (edits ++ edits') = embeds stars edits ++ embeds stars' edits' := by
  rw [embeds, List.zip_append h.length_eq, List.filter_append, List.map_append]
  rfl

theorem stars_eq_filter (ts : List Target) : stars true ts = (stars false ts).filter (·.embed) := by
  induction ts with
  | nil => rfl
  | cons t ts ih =>
    obtain ⟨value, name⟩ := t
    rw [Expanded.stars_cons, Expanded.stars_cons, List.filter_append, ih]
    congr 1
    cases value.star? with
    | none => rfl
    | some s => cases hs : s.embed <;> simp [Option.filter, hs]

theorem mapM_filter {tables : List SourceTable} {stars : List StarRef} {edits : List Edit}
    (h : stars.mapM (starEdit tables) = .ok edits) :
    (stars.filter (·.embed)).mapM (starEdit tables) = .ok (embeds stars edits) := by
  induction stars generalizing edits with
  | nil => rfl
  | cons star stars ih =>
    rw [List.mapM_cons] at h
    obtain ⟨first, hfirst, h⟩ := bind_eq_ok.mp h
    obtain ⟨rest, hrest, h⟩ := bind_eq_ok.mp h
    obtain rfl := pure_eq_ok_iff.mp h
    cases hstar : star.embed with
    | false =>
      rw [List.filter_cons_of_neg (by simp [hstar]), ih hrest]
      simp [embeds, hstar]
    | true =>
      rw [List.filter_cons_of_pos hstar, List.mapM_cons, hfirst, ih hrest]
      simp [embeds, hstar]

theorem targets_embeds {tables : List SourceTable} {ts : List Target} {edits : List Edit}
    (h : targets false tables ts = .ok edits) :
    targets true tables ts = .ok (embeds (stars false ts) edits) := by
  rw [targets, stars_eq_filter]
  exact mapM_filter h

mutual

theorem query_embeds {scope : Scope} {edits : List Edit} : (q : Query) → query false scope q = .ok edits →
    query true scope q = .ok (embeds (Expanded.query false q) edits)
  | ⟨named, main, orderBy, limit, offset⟩, h => by
    obtain ⟨⟨inner, first⟩, hctes, h⟩ := bind_eq_ok.mp h
    obtain ⟨second, hbody, h⟩ := bind_eq_ok.mp h
    obtain rfl := pure_eq_ok_iff.mp h
    refine bind_eq_ok.mpr ⟨_, ctes_embeds named hctes, bind_eq_ok.mpr ⟨_, body_embeds main hbody, ?_⟩⟩
    rw [Expanded.query, embeds_append (ctes_edits named hctes)]
    rfl

theorem ctes_embeds {scope inner : Scope} {edits : List Edit} : (cs : List Cte) →
    ctes false scope cs = .ok (inner, edits) →
    ctes true scope cs = .ok (inner, embeds (Expanded.ctes false cs) edits)
  | [], h => by
    cases h
    rfl
  | c :: cs, h => by
    obtain ⟨⟨middle, first⟩, hcte, h⟩ := bind_eq_ok.mp h
    obtain ⟨⟨inner, second⟩, hctes, h⟩ := bind_eq_ok.mp h
    cases h
    refine bind_eq_ok.mpr ⟨_, cte_embeds c hcte, bind_eq_ok.mpr ⟨_, ctes_embeds cs hctes, ?_⟩⟩
    rw [Expanded.ctes, embeds_append (cte_edits c hcte)]
    rfl

theorem cte_embeds {scope inner : Scope} {edits : List Edit} : (c : Cte) →
    cte false scope c = .ok (inner, edits) →
    cte true scope c = .ok (inner, embeds (Expanded.cte false c) edits)
  | ⟨name, names, q⟩, h => by
    obtain ⟨edits, hquery, h⟩ := bind_eq_ok.mp h
    obtain ⟨columns, hcolumns, h⟩ := bind_eq_ok.mp h
    cases h
    exact bind_eq_ok.mpr ⟨_, query_embeds q hquery, bind_eq_ok.mpr ⟨columns, hcolumns, rfl⟩⟩

theorem body_embeds {scope : Scope} {edits : List Edit} : (b : Body) → body false scope b = .ok edits →
    body true scope b = .ok (embeds (Expanded.body false b) edits)
  | .select s, h => by
    obtain ⟨tables, htables, h⟩ := bind_eq_ok.mp h
    exact bind_eq_ok.mpr ⟨tables, htables, targets_embeds h⟩
  | .setOp _ left right, h => by
    obtain ⟨first, hleft, h⟩ := bind_eq_ok.mp h
    obtain ⟨second, hright, h⟩ := bind_eq_ok.mp h
    obtain rfl := pure_eq_ok_iff.mp h
    refine bind_eq_ok.mpr ⟨_, body_embeds left hleft, bind_eq_ok.mpr ⟨_, body_embeds right hright, ?_⟩⟩
    rw [Expanded.body, embeds_append (body_edits left hleft)]
    rfl
  | .values _, h => by
    cases h
    rfl
  | .query q, h => query_embeds q h

end

/-- Where all wildcards can be expanded, the embedded tables can, by the same edits. -/
theorem statement_embeds {scope : Scope} {s : Statement} {edits : List Edit}
    (h : statement false scope s = .ok edits) :
    statement true scope s = .ok (embeds (Expanded.statement false s) edits) := by
  cases s with
  | select q => exact query_embeds q h
  | insert i =>
    obtain ⟨first, hsource, h⟩ := bind_eq_ok.mp h
    obtain ⟨table, htable, h⟩ := bind_eq_ok.mp h
    obtain ⟨second, htargets, h⟩ := bind_eq_ok.mp h
    obtain rfl := pure_eq_ok_iff.mp h
    have hfirst : List.Forall₂ Edits ((i.source.map (Expanded.query false)).getD []) first ∧
        source true scope i.source = .ok (embeds ((i.source.map (Expanded.query false)).getD []) first) := by
      cases hi : i.source with
      | none =>
        rw [hi] at hsource
        cases hsource
        exact ⟨.nil, rfl⟩
      | some q =>
        rw [hi] at hsource
        exact ⟨query_edits q hsource, query_embeds q hsource⟩
    refine bind_eq_ok.mpr ⟨_, hfirst.2, bind_eq_ok.mpr ⟨table, htable, ?_⟩⟩
    refine bind_eq_ok.mpr ⟨_, targets_embeds htargets, ?_⟩
    rw [Expanded.statement, embeds_append hfirst.1]
    rfl
  | update u =>
    obtain ⟨tables, htables, h⟩ := bind_eq_ok.mp h
    exact bind_eq_ok.mpr ⟨tables, htables, targets_embeds h⟩
  | delete d =>
    obtain ⟨tables, htables, h⟩ := bind_eq_ok.mp h
    exact bind_eq_ok.mpr ⟨tables, htables, targets_embeds h⟩
  | truncate | define | noOp | other =>
    cases h
    rfl

end Expansion

end TypedSql
