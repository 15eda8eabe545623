import TypedSql.Proofs.Expansion.Embeds
import TypedSql.Proofs.Splice
import TypedSql.Proofs.TypedQuery.Steps

/-!
# Analyses that keep wildcards

If wildcards are not to be expanded, only those of embedded tables are. An analysis that can expand all
wildcards can then be made as well, with the same answer apart from the edits and the text: of the edits by
place, those for other wildcards are left out. A sort keeps the edits that stay in their order, and edits
that fit and keep apart still do if some of them are left out.
-/

namespace TypedSql

namespace Edit

abbrev Sourced := Edit × Option StarRef

def sortSourced (l : List Sourced) : List Sourced :=
  l.mergeSort fun a b => a.1.location ≤ b.1.location

theorem map_fst_sortSourced (l : List Sourced) : (sortSourced l).map Prod.fst = sort (l.map Prod.fst) :=
  List.map_mergeSort fun _ _ _ _ => rfl

theorem filter_sortSourced (p : Sourced → Bool) (l : List Sourced) :
    (sortSourced l).filter p = sortSourced (l.filter p) :=
  SortByKey.filter_mergeSort (fun e : Sourced => e.1.location) p l

theorem sort_sort (edits : List Edit) : sort (sort edits) = sort edits := by
  refine List.mergeSort_of_pairwise ?_
  exact (sort_stablySorted edits).increasing.imp fun h => by simpa using h

theorem exists_apply_of_sublist {text out : Text} {edits edits' : List Edit} (h : apply text edits = .ok out)
    (hsub : (sort edits').Sublist (sort edits)) : ∃ out', apply text edits' = .ok out' := by
  have htrans : IsTrans Edit fun a b => a.stop ≤ b.location :=
    ⟨fun a b c hab hbc => by unfold stop at *; omega⟩
  obtain ⟨hchain, hspliced⟩ := apply_eq_ok.mp h
  have hchain' := (hchain.pairwise.sublist hsub).isChain
  have hfits : ∀ e ∈ sort edits', e.Fits text := fun e he =>
    hspliced.fits (a := []) rfl e (hsub.subset he)
  obtain ⟨out', hout'⟩ := exists_spliced (a := []) hchain' (fun e _ => Nat.zero_le _) hfits
  exact ⟨out', apply_eq_ok.mpr ⟨hchain', hout'⟩⟩

def sourced (params : List Edit) (stars : List StarRef) (edits : List Edit) : List Sourced :=
  params.map (·, none) ++ (stars.zip edits).map fun p => (p.2, some p.1)

def stays (e : Sourced) : Bool :=
  e.2.all StarRef.embed

variable {params edits : List Edit} {stars : List StarRef}

theorem map_fst_sourced (h : stars.length = edits.length) :
    (sourced params stars edits).map Prod.fst = params ++ edits := by
  have hedits : (stars.zip edits).map Prod.snd = edits := List.map_snd_zip (by omega)
  simpa [sourced, Function.comp_def] using hedits

theorem filterMap_snd_sourced (h : stars.length = edits.length) :
    (sourced params stars edits).filterMap Prod.snd = stars := by
  have hstars : (stars.zip edits).map Prod.fst = stars := List.map_fst_zip (by omega)
  simpa [sourced, Function.comp_def] using hstars

theorem edits_of_mem_sourced (h : List.Forall₂ Expansion.Edits stars edits) {e : Edit} {star : StarRef}
    (he : (e, some star) ∈ sourced params stars edits) : Expansion.Edits star e := by
  obtain ⟨-, hzip⟩ := List.forall₂_iff_zip.mp h
  rcases List.mem_append.mp he with he | he
  · obtain ⟨_, -, he⟩ := List.mem_map.mp he
    cases he
  · obtain ⟨p, hp, he⟩ := List.mem_map.mp he
    cases he
    exact hzip hp

theorem filter_isNone_sourced :
    ((sourced params stars edits).filter fun e => e.2.isNone).map Prod.fst = params := by
  simp [sourced, List.filter_map, Function.comp_def]

theorem filter_stays_sourced :
    ((sourced params stars edits).filter stays).map Prod.fst = params ++ Expansion.embeds stars edits := by
  simp [sourced, stays, Expansion.embeds, List.filter_map, Function.comp_def]

end Edit

namespace TypedQuery

/-- An analysis that expands all wildcards can be made without, and answers the same apart from the edits
for wildcards that are no embedded tables, which are left out. -/
theorem ofStatement_unexpanded {catalog : Catalog} {s : SourceStatement} {q : TypedQuery} (settings : Settings)
    (h : ofStatement catalog { settings with expandStars := true } s = .ok q) :
    ∃ q', ofStatement catalog { settings with expandStars := false } s = .ok q' ∧
      q'.kind = q.kind ∧ q'.columns = q.columns ∧ q'.params = q.params ∧ q'.insertInto = q.insertInto ∧
      ∃ edits : List Edit.Sourced, edits.map Prod.fst = q.edits ∧
        (∀ e star, (e, some star) ∈ edits → Expansion.Edits star e) ∧
        (edits.filterMap Prod.snd).Perm (s.statement.expanded { settings with expandStars := true }) ∧
        ((edits.filter fun e => e.2.isNone).map Prod.fst).Perm s.numbered.edits ∧
        q'.edits = (edits.filter fun e => e.2.all StarRef.embed).map Prod.fst := by
  have hsteps := steps_of_ok h
  have hinsert := insertInto_of_ok h
  obtain ⟨edits, hon, hq⟩ := hsteps.edits
  have hoff := Expansion.statement_embeds hon
  have hall := Expansion.statement_edits hon
  let stars := Expanded.statement false s.numbered.statement
  have hstars : stars = s.statement.expanded { settings with expandStars := true } :=
    Expanded.statement_renumber _ _ s.statement
  have hlength : stars.length = edits.length := hall.length_eq
  let sorted := Edit.sortSourced (Edit.sourced s.numbered.edits stars edits)
  have hsorted : sorted.map Prod.fst = q.edits := by
    rw [Edit.map_fst_sortSourced, Edit.map_fst_sourced hlength, hq]
  have hkept : (sorted.filter Edit.stays).map Prod.fst =
      Edit.sort (s.numbered.edits ++ Expansion.embeds stars edits) := by
    rw [Edit.filter_sortSourced, Edit.map_fst_sortSourced, Edit.filter_stays_sourced]
  have hsub : (Edit.sort ((sorted.filter Edit.stays).map Prod.fst)).Sublist (Edit.sort q.edits) := by
    rw [hkept, Edit.sort_sort, ← hkept, hq, Edit.sort_sort, ← hq, ← hsorted]
    exact List.filter_sublist.map _
  obtain ⟨text, htext⟩ := Edit.exists_apply_of_sublist hsteps.text hsub
  refine ⟨{ q with edits := (sorted.filter Edit.stays).map Prod.fst, text }, ?_, rfl, rfl, rfl, rfl, sorted,
    hsorted, ?_, ?_, ?_, rfl⟩
  · exact ofStatement_of_steps { hsteps with edits := ⟨_, hoff, hkept⟩, text := htext } hinsert
  · exact fun e star he => Edit.edits_of_mem_sourced hall (List.mem_mergeSort.mp he)
  · rw [← hstars]
    refine ((List.mergeSort_perm _ _).filterMap _).trans (.of_eq ?_)
    exact Edit.filterMap_snd_sourced hlength
  · refine (((List.mergeSort_perm _ _).filter _).map _).trans (.of_eq ?_)
    exact Edit.filter_isNone_sourced

theorem ofStatement_unexpanded_embed :
    let c := ((Change.createTable (.ofName "t") [{ name := "a", type := .ofName "int" }]).apply (.initial {})).2
    let embed : Edit := ⟨10, "sqlc.embed(t)".toList, "t.a".toList⟩
    let param : Edit := ⟨41, "@x".toList, "$1".toList⟩
    ∃ s q q', Script.parseOne "SELECT *, sqlc.embed(t) FROM t WHERE a = @x".toList = .ok s ∧
      ofStatement c {} s = .ok q ∧ q.edits = [⟨7, ['*'], ['a']⟩, embed, param] ∧
      ofStatement c { expandStars := false } s = .ok q' ∧ q'.edits = [embed, param] ∧
      q'.columns = q.columns ∧ q'.params = q.params := by
  intro c embed param
  let text := "SELECT *, sqlc.embed(t) FROM t WHERE a = @x".toList
  have hread : (Script.parseOne text >>= ofStatement c {}).toOption.map (·.edits) =
      some [⟨7, ['*'], ['a']⟩, embed, param] := by
    unfold ofStatement Edit.apply
    rw [Edit.sort_eq_insertionSort]
    decide +kernel
  have hread' : (Script.parseOne text >>= ofStatement c { expandStars := false }).toOption.map (·.edits) =
      some [embed, param] := by
    unfold ofStatement Edit.apply
    rw [Edit.sort_eq_insertionSort]
    decide +kernel
  obtain ⟨q, hq, hedits⟩ := exists_of_map_toOption hread
  obtain ⟨s, hs, hq⟩ := bind_eq_ok.mp hq
  obtain ⟨q', hq', -, hcolumns, hparams, -, -⟩ := ofStatement_unexpanded {} hq
  have hedits' : q'.edits = [embed, param] := by
    rw [hs, ok_bind] at hread'
    obtain ⟨_, hq'', hkept⟩ := exists_of_map_toOption hread'
    obtain rfl := Except.ok.inj (hq'.symm.trans hq'')
    exact hkept
  exact ⟨s, q, q', hs, hq, hedits, hq', hedits', hcolumns, hparams⟩

end TypedQuery

end TypedSql
