import TypedSql.Proofs.Catalog.Atomic
import TypedSql.Proofs.Expansion.Located
import TypedSql.Proofs.Inference.Lookups
import TypedSql.Proofs.Site.Order
import TypedSql.Proofs.Statement.Check
import TypedSql.Proofs.Statement.Numbering
import TypedSql.Proofs.TypedQuery.Steps
import TypedSql.Proofs.Wildcard

/-!
# Where a tree and its text disagree

An analysis looks for the parameters and the wildcards of the tree among the sites of the text. It fails
with an inconsistency only where a name of the tree stands at no site, where a wildcard that has to be
expanded has no place, or where the word behind the sign of a parameter begins another place that is
edited.
-/

namespace TypedSql

def StarRef.place? (r : StarRef) : Option Place :=
  r.location.map fun location => { location, text := r.text, sigil := false }

namespace SourceStatement

def places (settings : Settings) (s : SourceStatement) : List Place :=
  s.chunk.sites.named.map NamedSite.place ++ (s.statement.expanded settings).filterMap StarRef.place?

/-- What keeps the tree of a statement and the sites of its text from fitting together, with the error
that tells it. -/
inductive Fault (settings : Settings) (s : SourceStatement) : Error → Prop
  | named {name : String} {style : NamedStyle} (hnamed : .named name style ∈ s.statement.exprs)
      (hsites : ∀ site ∈ s.chunk.sites.named, site.name ≠ name) :
      Fault settings s (.internal (.namedWithoutSite name))
  | star {star : StarRef} (hstar : star ∈ s.statement.expanded settings) (hlocation : star.location = none) :
      Fault settings s (.internal (.starWithoutSite star.text))
  | overlap {p q : Place} (hp : p ∈ s.places settings) (hq : q ∈ s.places settings)
      (hsigil : p.sigil = true) (hnext : q.location = p.location + 1) :
      Fault settings s (.invalidEdit (.overlap p.location q.location))

section Places

variable {s : SourceStatement} {ls : List Lexeme}

theorem ReadFrom.places_subperm (h : s.ReadFrom ls) (settings : Settings) :
    (s.places settings).Subperm (Sites.scan ls).places := by
  obtain ⟨rs, left, hclaims, hperm⟩ := Statement.claims_of_read h.read
  -- the wildcards of the tree took sites of the text and left others; those with a place are the ones that took one
  have hlocated : (rs.filter (·.location.isSome)).filterMap StarRef.place? = rs.filterMap StarRef.place? := by
    rw [List.filterMap_filter]
    refine List.filterMap_congr fun r _ => ?_
    cases hr : r.location with
    | none => simp [StarRef.place?, hr]
    | some location => rfl
  have hsites : (s.chunk.sites.stars.map StarSite.ref).filterMap StarRef.place? =
      s.chunk.sites.stars.map StarSite.place := by
    rw [List.filterMap_map, ← List.filterMap_eq_map]
    rfl
  have hclaimed := hclaims.perm.filterMap StarRef.place?
  rw [List.filterMap_append, hlocated, hsites] at hclaimed
  have hexpanded : ((s.statement.expanded settings).filterMap StarRef.place?).Subperm
      (rs.filterMap StarRef.place?) :=
    ((Expanded.statement_sublist _ s.statement).filterMap _).subperm.trans (hperm.filterMap _).subperm
  have hstars := hexpanded.trans ((List.sublist_append_left _ _).subperm.trans hclaimed.symm.subperm)
  rw [places, Sites.places, ← h.sites]
  exact (List.subperm_append_left _).mpr hstars

theorem ReadFrom.spans (h : s.ReadFrom ls) {settings : Settings} {p : Place} (hp : p ∈ s.places settings) :
    Lexeme.Spans ls p.location p.text := by
  rcases List.mem_append.mp ((h.places_subperm settings).subset hp) with hp | hp
  · obtain ⟨site, hsite, rfl⟩ := List.mem_map.mp hp
    exact (Sites.scan_lie ls).named site hsite
  · obtain ⟨site, hsite, rfl⟩ := List.mem_map.mp hp
    exact (Sites.scan_lie ls).stars site hsite

theorem ReadFrom.bytes_pos (h : s.ReadFrom ls) {settings : Settings} {p : Place} (hp : p ∈ s.places settings) :
    0 < p.text.bytes := by
  obtain ⟨a, g, b, rfl, -, hcover, hne, -⟩ := h.spans hp
  obtain ⟨l, g, rfl⟩ := List.exists_cons_of_ne_nil hne
  have hl := Text.bytes_pos ((Lexer.lex_eq_some_iff.mp h.lex).1.text_ne_nil l (by simp))
  rw [← hcover, Lexeme.cover_cons, Text.bytes_append]
  omega

theorem ReadFrom.one_lt_of_sigil (h : s.ReadFrom ls) {settings : Settings} {p : Place}
    (hp : p ∈ s.places settings) (hsigil : p.sigil = true) : 1 < p.text.bytes := by
  rcases List.mem_append.mp ((h.places_subperm settings).subset hp) with hp | hp
  · obtain ⟨site, hsite, rfl⟩ := List.mem_map.mp hp
    exact Sites.one_lt_of_sigil (Lexer.lex_eq_some_iff.mp h.lex).1.text_ne_nil hsite (of_decide_eq_true hsigil)
  · obtain ⟨site, hsite, rfl⟩ := List.mem_map.mp hp
    cases hsigil

theorem ReadFrom.pairwise_places (h : s.ReadFrom ls) (settings : Settings) :
    (s.places settings).Pairwise fun p q => p.Before q ∨ q.Before p := by
  obtain ⟨found, hfound, hbefore⟩ := Sites.scan_places (Lexer.lex_eq_some_iff.mp h.lex).1
  have hsites : (Sites.scan ls).places.Pairwise fun p q => p.Before q ∨ q.Before p :=
    hfound.pairwise (hbefore.imp Or.inl) Or.symm
  obtain ⟨part, hpart, hsub⟩ := h.places_subperm settings
  exact hpart.pairwise (hsites.sublist hsub) Or.symm

end Places

end SourceStatement

def Place.span (p : Place) : Nat × Text :=
  (p.location, p.text)

def Edit.span (e : Edit) : Nat × Text :=
  (e.location, e.old)

theorem Numbered.span_ofSites (set : ParamSet) (sites : List NamedSite) :
    (ofSites set sites).2.map Edit.span = (sites.map NamedSite.place).map Place.span := by
  induction sites generalizing set with
  | nil => rfl
  | cons site sites ih => exact congrArg (site.place.span :: ·) (ih (set.add site.name site.style).1)

theorem Expansion.location_ne_none_of_edits {stars : List StarRef} {edits : List Edit}
    (h : List.Forall₂ Expansion.Edits stars edits) : ∀ star ∈ stars, star.location ≠ none := by
  refine ((List.forall₂_and_left stars edits).mp (h.imp fun star e he => ⟨?_, he⟩)).1
  rw [(Expansion.location_of_edits he).1]
  exact Option.some_ne_none _

theorem Expansion.span_of_edits {stars : List StarRef} {edits : List Edit}
    (h : List.Forall₂ Expansion.Edits stars edits) :
    edits.map Edit.span = (stars.filterMap StarRef.place?).map Place.span := by
  induction h with
  | nil => rfl
  | @cons star e stars edits hstar _ ih =>
    obtain ⟨hlocation, htext⟩ := Expansion.location_of_edits hstar
    have hplace : star.place? = some ⟨e.location, e.old, false⟩ := by
      rw [StarRef.place?, hlocation, htext]
      rfl
    rw [List.filterMap_cons_some hplace, List.map_cons, List.map_cons, ih]
    rfl

namespace SourceStatement

variable {s : SourceStatement} {ls : List Lexeme} {settings : Settings} {edits : List Edit}

def EditedBy (settings : Settings) (s : SourceStatement) (edits : List Edit) : Prop :=
  (edits.map Edit.span).Perm ((s.places settings).map Place.span)

theorem EditedBy.sort (h : s.EditedBy settings edits) : s.EditedBy settings (Edit.sort edits) :=
  ((Edit.sort_stablySorted edits).perm.map Edit.span).trans h

theorem EditedBy.exists_place (h : s.EditedBy settings edits) {e : Edit} (he : e ∈ edits) :
    ∃ p ∈ s.places settings, p.location = e.location ∧ p.text = e.old := by
  obtain ⟨p, hp, heq⟩ := List.mem_map.mp (h.mem_iff.mp (List.mem_map_of_mem he))
  exact ⟨p, hp, Prod.mk.inj heq⟩

theorem EditedBy.exists_edit (h : s.EditedBy settings edits) {p : Place} (hp : p ∈ s.places settings) :
    ∃ e ∈ edits, e.location = p.location ∧ e.old = p.text := by
  obtain ⟨e, he, heq⟩ := List.mem_map.mp (h.mem_iff.mpr (List.mem_map_of_mem hp))
  exact ⟨e, he, Prod.mk.inj heq⟩

theorem EditedBy.fits (h : s.EditedBy settings edits) (hs : s.ReadFrom ls) :
    ∀ e ∈ edits, e.Fits s.chunk.text := by
  intro e he
  obtain ⟨p, hp, hlocation, htext⟩ := h.exists_place he
  obtain ⟨a, g, b, hls, hbytes, hcover, -, -⟩ := hs.spans hp
  refine ⟨Lexeme.cover a, Lexeme.cover b, ?_, hbytes.trans hlocation⟩
  rw [← (Lexer.lex_eq_some_iff.mp hs.lex).2, hls, Lexeme.cover_append, Lexeme.cover_append, hcover, htext]

def Met (settings : Settings) (s : SourceStatement) (x y : Nat × Text) : Prop :=
  ∃ p ∈ s.places settings, ∃ q ∈ s.places settings, p.span = x ∧ q.span = y ∧ (p.Before q ∨ q.Before p)

theorem EditedBy.pairwise_met (h : s.EditedBy settings edits) (hs : s.ReadFrom ls) :
    edits.Pairwise fun a b => s.Met settings a.span b.span := by
  have hplaces : ((s.places settings).map Place.span).Pairwise (s.Met settings) :=
    List.pairwise_map.mpr ((hs.pairwise_places settings).imp_of_mem fun hp hq h =>
      ⟨_, hp, _, hq, rfl, rfl, h⟩)
  refine List.pairwise_map.mp (h.symm.pairwise hplaces ?_)
  rintro x y ⟨p, hp, q, hq, hx, hy, h⟩
  exact ⟨q, hq, p, hp, hy, hx, h.symm⟩

theorem EditedBy.fault_of_overlap (h : s.EditedBy settings edits) (hs : s.ReadFrom ls) {a b : Edit}
    (hab : [a, b].Sublist (Edit.sort edits)) (hlt : b.location < a.stop) :
    s.Fault settings (.invalidEdit (.overlap a.location b.location)) := by
  obtain ⟨p, hp, q, hq, hpa, hqb, hbefore⟩ :=
    List.pairwise_pair.mp ((h.sort.pairwise_met hs).sublist hab)
  have hle := List.pairwise_pair.mp ((Edit.sort_stablySorted edits).increasing.sublist hab)
  obtain ⟨hpl, hpt⟩ := Prod.mk.inj hpa
  obtain ⟨hql, hqt⟩ := Prod.mk.inj hqb
  have hpos := hs.bytes_pos hq
  rw [Edit.stop, ← hpl, ← hql, ← hpt] at hlt
  rw [← hpl, ← hql] at hle ⊢
  -- sorted edits leave only one of the four ways in which the places can lie
  rcases hbefore with (hstop | ⟨hsigil, hnext⟩) | (hstop | ⟨-, hnext⟩)
  · rw [Place.stop] at hstop
    omega
  · exact .overlap hp hq hsigil hnext
  · rw [Place.stop] at hstop
    omega
  · omega

theorem EditedBy.ne_of_apply (h : s.EditedBy settings edits) (hs : s.ReadFrom ls) {text out : Text}
    (happly : Edit.apply text edits = .ok out) {p q : Place} (hp : p ∈ s.places settings)
    (hq : q ∈ s.places settings) (hsigil : p.sigil = true) : q.location ≠ p.location + 1 := by
  intro hnext
  obtain ⟨a, ha, hal, hat⟩ := h.exists_edit hp
  obtain ⟨b, hb, hbl, hbt⟩ := h.exists_edit hq
  have hne : a ≠ b := by
    rintro rfl
    omega
  have hlong := hs.one_lt_of_sigil hp hsigil
  rcases Edit.le_location_of_apply happly ha hb hne with hle | hle
  · rw [Edit.stop, hat] at hle
    omega
  · rw [Edit.stop] at hle
    omega

end SourceStatement

theorem Statement.consistent_queryKind (s : Statement) : Consistent s.queryKind := by
  cases s with
  | select | insert | update | delete | truncate => exact consistent_ok _
  | define | noOp | other => exact consistent_error rfl

namespace TypedQuery

variable {catalog : Catalog} {settings : Settings} {s : SourceStatement} {ls : List Lexeme}

theorem editedBy_of_statement {scope : Scope} {stars : List Edit}
    (h : Expansion.statement (!settings.expandStars) scope s.numbered.statement = .ok stars) :
    s.EditedBy settings (Edit.sort (s.numbered.edits ++ stars)) := by
  have hedits := Expansion.statement_edits h
  rw [SourceStatement.numbered, Expanded.statement_renumber] at hedits
  refine SourceStatement.EditedBy.sort (.of_eq ?_)
  rw [List.map_append, SourceStatement.numbered, Numbered.span_ofSites, Expansion.span_of_edits hedits,
    ← List.map_append]
  rfl

theorem Steps.editedBy {q : TypedQuery} (h : Steps catalog settings s q) : s.EditedBy settings q.edits := by
  obtain ⟨stars, hstars, hedits⟩ := h.edits
  rw [hedits]
  exact editedBy_of_statement hstars

theorem not_fault_of_ofStatement (hs : s.ReadFrom ls) {q : TypedQuery}
    (h : ofStatement catalog settings s = .ok q) {e : Error} : ¬ s.Fault settings e := by
  have hsteps := steps_of_ok h
  intro hfault
  cases hfault with
  | named hnamed hsites => exact Numbered.exists_site_of_ofStatement hsteps.numbered hnamed hsites
  | @star star hstar hlocation =>
    obtain ⟨stars, hstars, -⟩ := hsteps.edits
    have hedits := Expansion.statement_edits hstars
    rw [SourceStatement.numbered, Expanded.statement_renumber] at hedits
    exact Expansion.location_ne_none_of_edits hedits star hstar hlocation
  | overlap hp hq hsigil hnext => exact hsteps.editedBy.ne_of_apply hs hsteps.text hp hq hsigil hnext

theorem fault_of_ofStatement (hs : s.ReadFrom ls) {e : Error} (h : ofStatement catalog settings s = .error e)
    (hinconsistent : e.isInconsistency = true) : s.Fault settings e := by
  have hnot : ∀ {α : Type} {x : Except Error α}, Consistent x → x ≠ .error e := by
    intro α x hx he
    rw [hx e he] at hinconsistent
    cases hinconsistent
  rcases bind_eq_error.mp h with h | ⟨kind, -, h⟩
  · exact absurd h (hnot s.statement.consistent_queryKind)
  rcases bind_eq_error.mp h with h | ⟨⟨⟩, -, h⟩
  · exact absurd h (hnot s.statement.consistent_check)
  rcases bind_eq_error.mp h with h | ⟨numbered, hnumbered, h⟩
  · obtain ⟨name, style, hnamed, hsites, rfl⟩ := Numbered.exists_of_ofStatement_eq_error h
    exact .named hnamed hsites
  obtain rfl := SourceStatement.numbered_of_ok hnumbered
  rcases bind_eq_error.mp h with h | ⟨params, -, h⟩
  · exact absurd h (hnot (Scope.consistent_params _ _ _))
  rcases bind_eq_error.mp h with h | ⟨columns, -, h⟩
  · exact absurd h (hnot (Scope.avoids_statementColumns _ _).consistent)
  rcases bind_eq_error.mp h with h | ⟨stars, hstars, h⟩
  · obtain ⟨star, hstar, hlocation, rfl⟩ := Expansion.misses_statement _ _ e h hinconsistent
    rw [SourceStatement.numbered, Expanded.statement_renumber] at hstar
    exact .star hstar hlocation
  rcases bind_eq_error.mp h with h | ⟨text, -, h⟩
  · have hedited := editedBy_of_statement hstars
    obtain ⟨a, b, hab, hlt, rfl⟩ := Edit.apply_eq_error (hedited.fits hs) h
    exact hedited.fault_of_overlap hs hab hlt
  · cases h

end TypedQuery

namespace Project

/-- The inconsistencies of analyses are the faults of statements: a text that is analysed has none, and an
analysis that fails for one tells it. -/
theorem analyse_faults (p : Project) (t : Text) :
    (∀ q, p.analyse t = .ok q →
      ∃ s, Script.parseOne t = .ok s ∧ ∀ e, ¬ s.Fault p.settings e) ∧
    ∀ e, p.analyse t = .error e → e.error.isInconsistency = true →
      ∃ s, Script.parseOne t = .ok s ∧ s.Fault p.settings e.error := by
  constructor
  · intro q h
    obtain ⟨c, s, hc, hs, hq⟩ := analyse_eq_ok h
    obtain ⟨ls, hls⟩ := Script.readFrom_of_single hc hs
    exact ⟨s, bind_eq_ok.mpr ⟨c, hc, hs⟩, fun e => TypedQuery.not_fault_of_ofStatement hls hq⟩
  · intro e h hinconsistent
    rcases bind_eq_error.mp h with h | ⟨c, hc, h⟩
    · obtain ⟨e, hsingle, rfl⟩ := mapError_eq_error.mp h
      rw [LocatedError.ofText, Script.consistent_single t e hsingle] at hinconsistent
      cases hinconsistent
    have hc := mapError_eq_ok.mp hc
    obtain ⟨e, hchunk, rfl⟩ := mapError_eq_error.mp h
    rcases bind_eq_error.mp hchunk with h | ⟨s, hs, h⟩
    · have hread : Consistent (SourceStatement.ofChunk c) :=
        (Statement.consistent_read c.text c.sites).bind fun _ _ => consistent_ok _
      rw [LocatedError.ofChunk, hread e h] at hinconsistent
      cases hinconsistent
    obtain ⟨ls, hls⟩ := Script.readFrom_of_single hc hs
    exact ⟨s, bind_eq_ok.mpr ⟨c, hc, hs⟩, TypedQuery.fault_of_ofStatement hls h hinconsistent⟩

theorem analyse_faults_sigil :
    (∃ s, Script.parseOne "SELECT (@x)::int".toList = .ok s ∧ ∀ e, ¬ s.Fault {} e) ∧
      ∃ s, Script.parseOne "SELECT @ x".toList = .ok s ∧ s.Fault {} (.internal (.namedWithoutSite "x")) := by
  obtain ⟨q, hq⟩ : ∃ q, (Project.initial {}).analyse "SELECT (@x)::int".toList = .ok q :=
    exists_of_isOk (by decide +kernel)
  have herror : (Project.initial {}).analyse "SELECT @ x".toList =
      .error ⟨0, 1, .internal (.namedWithoutSite "x")⟩ := by
    decide +kernel
  exact ⟨(analyse_faults _ _).1 q hq, (analyse_faults _ _).2 _ herror rfl⟩

/-- The three faults: a sign that is parted from its word, a wildcard behind a parenthesis, and a sign in front
of a call. -/
theorem analyse_inconsistent :
    let t := Table.ofDefs (.ofSchema "public" "t") [{ name := "a", type := .ofName "int" }]
    let p : Project := { settings := {}, catalog := (Catalog.initial {}).mapTables "public" (·.insert "t" t) }
    p.analyse "SELECT @ x".toList = .error ⟨0, 1, .internal (.namedWithoutSite "x")⟩ ∧
      p.analyse "SELECT DISTINCT ON (a) * FROM t".toList = .error ⟨0, 1, .internal (.starWithoutSite ['*'])⟩ ∧
      p.analyse "SELECT @sqlc.arg(sqlc)".toList = .error ⟨0, 1, .invalidEdit (.overlap 7 8)⟩ := by
  refine ⟨by decide +kernel, by decide +kernel, ?_⟩
  unfold analyse TypedQuery.ofChunk TypedQuery.ofStatement Edit.apply
  rw [Edit.sort_eq_insertionSort]
  decide +kernel

end Project

end TypedSql
