import Mathlib.Data.List.Perm.Basic
import TypedSql.Proofs.Lower
import TypedSql.Proofs.Script
import TypedSql.Proofs.Site

/-!
# Which sites wildcards take

The wildcards of a form take the first sites of that form, as many as there are wildcards. So wildcards and
sites belong together one to one exactly if the tree has as many wildcards of each form as the text has
sites. The tree and the text need not agree on that: what looks like a wildcard in the text may be the
argument of a call, and a wildcard may stand where the text does not show one.
-/

namespace TypedSql

def StarSite.form (s : StarSite) : Bool × List String :=
  (s.embed, s.qualifier)

def StarRef.form (r : StarRef) : Bool × List String :=
  (r.embed, r.qualifier)

@[simp] theorem StarSite.form_ref (s : StarSite) : s.ref.form = s.form := rfl

@[simp] theorem StarSite.location_ref (s : StarSite) : s.ref.location = some s.location := rfl

/-- Wildcards and sites belong together one to one: every wildcard stands at a site and carries the data of
the site, no two of them stand at one place, and no site is left. -/
structure Paired (rs : List StarRef) (sites : List StarSite) : Prop where
  perm : rs.Perm (sites.map StarSite.ref)
  nodup : (rs.map StarRef.location).Nodup

def sitesOf (form : Bool × List String) (sites : List StarSite) : List StarSite :=
  sites.filter (·.form = form)

def placedOf (form : Bool × List String) (rs : List StarRef) : List StarRef :=
  rs.filter fun r => r.form = form ∧ r.location.isSome

theorem sitesOf_of_claim? {embed : Bool} {qualifier : List String} {site : StarSite}
    {left rest : List StarSite} (h : Lower.claim? embed qualifier left = some (site, rest))
    (form : Bool × List String) :
    sitesOf form left = if site.form = form then site :: sitesOf form rest else sitesOf form rest := by
  induction left generalizing rest with
  | nil => cases h
  | cons s left ih =>
    rw [Lower.claim?] at h
    split at h
    · cases h
      simp [sitesOf, List.filter_cons]
    · rename_i hs
      obtain ⟨⟨found, others⟩, hfound, ⟨⟩⟩ := Option.map_eq_some_iff.mp h
      obtain ⟨hembed, hqualifier, -⟩ := Lower.claim?_eq_some hfound
      have hform : site.form = (embed, qualifier) := Prod.ext hembed hqualifier
      have hne : s.form ≠ site.form := fun heq => hs (Prod.ext_iff.mp (heq.trans hform))
      have hrest := ih hfound
      simp only [sitesOf, List.filter_cons, decide_eq_true_eq] at hrest ⊢
      rw [hrest]
      by_cases hsite : site.form = form
      · have hskip : s.form ≠ form := fun heq => hne (heq.trans hsite.symm)
        simp only [if_pos hsite, if_neg hskip]
      · simp only [if_neg hsite]

theorem sitesOf_of_claim?_none {embed : Bool} {qualifier : List String} {left : List StarSite}
    (h : Lower.claim? embed qualifier left = none) : sitesOf (embed, qualifier) left = [] := by
  induction left with
  | nil => rfl
  | cons s left ih =>
    rw [Lower.claim?] at h
    split at h
    · cases h
    · rename_i hs
      have hne : s.form ≠ (embed, qualifier) := fun heq => hs (Prod.ext_iff.mp heq)
      have hrest := ih (Option.map_eq_none_iff.mp h)
      simpa [sitesOf, List.filter_cons, hne] using hrest

namespace Claims

variable {left left' : List StarSite} {rs : List StarRef}

theorem map_sitesOf (h : Claims left rs left') (form : Bool × List String) :
    (sitesOf form left).map StarSite.ref =
      placedOf form rs ++ (sitesOf form left').map StarSite.ref := by
  induction h with
  | nil left => rfl
  | @found site left rest left' rs hclaim _ ih =>
    rw [sitesOf_of_claim? hclaim form]
    by_cases hform : site.form = form
    · have hplaced : placedOf form (site.ref :: rs) = site.ref :: placedOf form rs := by
        simp [placedOf, hform]
      rw [if_pos hform, List.map_cons, ih, hplaced, List.cons_append]
    · have hplaced : placedOf form (site.ref :: rs) = placedOf form rs := by
        simp [placedOf, hform]
      rw [if_neg hform, ih, hplaced]
  | @missed r left left' rs hlocation _ _ ih =>
    have hplaced : placedOf form (r :: rs) = placedOf form rs := by
      simp [placedOf, hlocation]
    rw [ih, hplaced]

theorem sitesOf_eq_nil (h : Claims left rs left') {r : StarRef} (hr : r ∈ rs)
    (hlocation : r.location = none) : sitesOf r.form left' = [] := by
  induction h with
  | nil left => cases hr
  | @found site left rest left' rs _ _ ih =>
    rcases List.mem_cons.mp hr with rfl | hr
    · cases hlocation
    · exact ih hr
  | @missed r' left left' rs _ hclaim hrest ih =>
    rcases List.mem_cons.mp hr with rfl | hr
    · -- it found no site of its form, and later claims only take sites away
      have hall := hrest.map_sitesOf r.form
      have hnone : sitesOf r.form left = [] := sitesOf_of_claim?_none hclaim
      rw [hnone] at hall
      exact List.map_eq_nil_iff.mp (List.append_eq_nil_iff.mp hall.symm).2
    · exact ih hr

theorem placedOf_eq (h : Claims left rs left') (form : Bool × List String) :
    placedOf form rs = ((sitesOf form left).take (rs.countP (·.form = form))).map StarSite.ref := by
  rw [List.map_take, h.map_sitesOf form]
  by_cases hall : ∀ r ∈ rs, r.form = form → r.location.isSome
  · have hcount : rs.countP (·.form = form) = (placedOf form rs).length := by
      rw [placedOf, ← List.countP_eq_length_filter]
      refine List.countP_congr fun r hr => ?_
      simpa using hall r hr
    rw [hcount, List.take_left]
  · -- a wildcard without a place means that all sites of the form are taken
    obtain ⟨r, hr, rfl, hlocation⟩ : ∃ r ∈ rs, r.form = form ∧ r.location = none := by
      simpa using hall
    have hle : (placedOf r.form rs).length ≤ rs.countP (·.form = r.form) := by
      rw [placedOf, ← List.countP_eq_length_filter]
      refine List.countP_mono_left fun x _ hx => ?_
      simp only [decide_eq_true_eq] at hx ⊢
      exact hx.1
    rw [h.sitesOf_eq_nil hr hlocation, List.map_nil, List.append_nil, List.take_of_length_le hle]

theorem exists_site (h : Claims left rs left') {r : StarRef} (hr : r ∈ rs) (hlocation : r.location.isSome) :
    ∃ site ∈ left, r = site.ref := by
  have hplaced : r ∈ placedOf r.form rs := List.mem_filter.mpr ⟨hr, by simpa using hlocation⟩
  have hsites : r ∈ (sitesOf r.form left).map StarSite.ref := by
    rw [h.map_sitesOf]
    exact List.mem_append_left _ hplaced
  obtain ⟨site, hsite, rfl⟩ := List.mem_map.mp hsites
  exact ⟨site, List.mem_of_mem_filter hsite, rfl⟩

theorem perm (h : Claims left rs left') :
    (left.map StarSite.ref).Perm (rs.filter (·.location.isSome) ++ left'.map StarSite.ref) := by
  induction h with
  | nil left => exact .refl _
  | @found site left rest left' rs hclaim _ ih =>
    obtain ⟨-, -, hleft⟩ := Lower.claim?_eq_some hclaim
    have hlocated : (site.ref :: rs).filter (·.location.isSome) =
        site.ref :: rs.filter (·.location.isSome) := List.filter_cons_of_pos rfl
    rw [hlocated, List.cons_append]
    exact (hleft.map StarSite.ref).trans (ih.cons site.ref)
  | @missed r left left' rs hlocation _ _ ih =>
    have hskipped : (r :: rs).filter (·.location.isSome) = rs.filter (·.location.isSome) :=
      List.filter_cons_of_neg (by simp [hlocation])
    rw [hskipped]
    exact ih

theorem perm_iff (h : Claims left rs left') :
    rs.Perm (left.map StarSite.ref) ↔ (rs.map StarRef.form).Perm (left.map StarSite.form) := by
  have hforms : ∀ sites : List StarSite,
      (sites.map StarSite.ref).map StarRef.form = sites.map StarSite.form := by
    intro sites
    rw [List.map_map]
    rfl
  constructor
  · intro hperm
    rw [← hforms]
    exact hperm.map StarRef.form
  · intro hperm
    have hsplit := List.filter_append_perm (fun r : StarRef => r.location.isSome) rs
    have htree := hsplit.map StarRef.form
    have htext := h.perm.map StarRef.form
    rw [List.map_append] at htree
    rw [List.map_append, hforms, hforms] at htext
    have hrest := (List.perm_append_left_iff _).mp ((htree.trans hperm).trans htext)
    have hmissing : (rs.filter fun r => !r.location.isSome) = [] := by
      refine List.eq_nil_iff_forall_not_mem.mpr fun r hr => ?_
      obtain ⟨hmem, hlocation⟩ := List.mem_filter.mp hr
      have hnone : r.location = none := by simpa using hlocation
      obtain ⟨site, hsite, hform⟩ := List.mem_map.mp
        (hrest.mem_iff.mp (List.mem_map_of_mem hr))
      have hin : site ∈ sitesOf r.form left' := List.mem_filter.mpr ⟨hsite, by simpa using hform⟩
      rw [h.sitesOf_eq_nil hmem hnone] at hin
      cases hin
    rw [hmissing] at hrest hsplit
    have hleft : left' = [] := List.map_eq_nil_iff.mp hrest.nil_eq.symm
    have hall := h.perm
    rw [hleft, List.map_nil, List.append_nil] at hall
    rw [List.append_nil] at hsplit
    exact hsplit.symm.trans hall.symm

end Claims

theorem Script.read_of_mem_parse {t : Text} {ss : List SourceStatement} (h : Script.parse t = .ok ss)
    {s : SourceStatement} (hs : s ∈ ss) :
    ∃ ls, Lexer.lex s.chunk.text = some ls ∧ s.chunk.sites = Sites.scan ls ∧
      Statement.read s.chunk.text s.chunk.sites = .ok s.statement := by
  obtain ⟨cs, hcs, hmap⟩ := bind_eq_ok.mp h
  obtain ⟨c, hc, hread⟩ := exists_of_mem_mapM hmap hs
  obtain ⟨statement, hstatement, hs⟩ := bind_eq_ok.mp hread
  cases hs
  obtain ⟨ls, hlex, hsites⟩ := lex_of_mem_split hcs hc
  exact ⟨ls, hlex, hsites, hstatement⟩

theorem Sites.nodup_of_pairwise {sites : List StarSite} (h : sites.Pairwise (·.location < ·.location)) :
    ((sites.map StarSite.ref).map StarRef.location).Nodup := by
  rw [List.map_map]
  refine List.pairwise_map.mpr (h.imp fun hlt heq => ?_)
  exact absurd (Option.some.inj heq) (Nat.ne_of_lt hlt)

/-- The wildcards of a form stand at the first sites of that form in the text, one at each, as many as
there are of both. So wildcards and sites are paired exactly if there are as many of each form in the tree
as in the text. -/
theorem Script.wildcards_paired_iff (t : Text) (ss : List SourceStatement) (h : Script.parse t = .ok ss)
    (s : SourceStatement) (hs : s ∈ ss) :
    (∀ form, (placedOf form s.statement.stars).Perm
      (((sitesOf form s.chunk.sites.stars).take (s.statement.stars.countP (·.form = form))).map
        StarSite.ref)) ∧
      s.chunk.sites.stars.Pairwise (·.location < ·.location) ∧
      (Paired s.statement.stars s.chunk.sites.stars ↔
        (s.statement.stars.map StarRef.form).Perm (s.chunk.sites.stars.map StarSite.form)) := by
  obtain ⟨ls, hlex, hsites, hread⟩ := Script.read_of_mem_parse h hs
  obtain ⟨rs, left, hclaims, hperm⟩ := Statement.claims_of_read hread
  have hordered : s.chunk.sites.stars.Pairwise (·.location < ·.location) := by
    rw [hsites]
    exact Sites.scan_stars_pairwise (Lexer.lex_eq_some_iff.mp hlex).1.text_ne_nil
  refine ⟨fun form => ?_, hordered, fun hpaired => ?_, fun hforms => ?_⟩
  · rw [hperm.countP_eq, ← hclaims.placedOf_eq]
    exact hperm.filter _
  · exact (hperm.map _).trans (hclaims.perm_iff.mp (hperm.symm.trans hpaired.perm))
  · have hall := hperm.trans (hclaims.perm_iff.mpr ((hperm.map _).symm.trans hforms))
    exact ⟨hall, ((hall.map _).nodup_iff).mpr (Sites.nodup_of_pairwise hordered)⟩

theorem Script.wildcards_paired_embed :
    ∃ ss, Script.parse "SELECT *, t.*, sqlc.embed(t) FROM t".toList = .ok ss ∧ ss.length = 1 ∧
      ∀ s ∈ ss, Paired s.statement.stars s.chunk.sites.stars := by
  obtain ⟨ss, hss⟩ : ∃ ss, Script.parse "SELECT *, t.*, sqlc.embed(t) FROM t".toList = .ok ss :=
    exists_of_isOk (by decide +kernel)
  have hforms : ∀ s ∈ (Script.parse "SELECT *, t.*, sqlc.embed(t) FROM t".toList).toOption.getD [],
      (s.statement.stars.map StarRef.form).Perm (s.chunk.sites.stars.map StarSite.form) := by
    decide +kernel
  have hlength :
      ((Script.parse "SELECT *, t.*, sqlc.embed(t) FROM t".toList).toOption.getD []).length = 1 := by
    decide +kernel
  rw [hss] at hforms hlength
  refine ⟨ss, hss, hlength, fun s hs => ?_⟩
  exact (Script.wildcards_paired_iff _ ss hss s hs).2.2.mpr (hforms s hs)

def SourceStatement.starPlaces (s : SourceStatement) : List (Option Nat) × List Nat :=
  (s.statement.stars.map StarRef.location, s.chunk.sites.stars.map StarSite.location)

theorem Script.unpaired_of_starPlaces {t : Text} {places : List (List (Option Nat) × List Nat)}
    (h : (List.map SourceStatement.starPlaces <$> Script.parse t) = .ok places)
    (hlength : ∀ p ∈ places, p.1.length ≠ p.2.length) :
    ∃ ss, Script.parse t = .ok ss ∧ ss.map SourceStatement.starPlaces = places ∧
      ∀ s ∈ ss, ¬ Paired s.statement.stars s.chunk.sites.stars := by
  cases hss : Script.parse t with
  | error e =>
    rw [hss] at h
    cases h
  | ok ss =>
    rw [hss] at h
    cases h
    refine ⟨ss, rfl, rfl, fun s hs hpaired => hlength _ (List.mem_map_of_mem hs) ?_⟩
    simpa [SourceStatement.starPlaces] using hpaired.perm.length_eq

/-- A wildcard behind a parenthesis has no place. One behind an argument of its form has the place of the
argument, and its own is left. -/
theorem Script.wildcards_unpaired :
    (∃ ss, Script.parse "SELECT DISTINCT ON (a) * FROM t".toList = .ok ss ∧
      ss.map SourceStatement.starPlaces = [([none], [])] ∧
      ∀ s ∈ ss, ¬ Paired s.statement.stars s.chunk.sites.stars) ∧
    ∃ ss, Script.parse "SELECT count(t.*), t.* FROM t".toList = .ok ss ∧
      ss.map SourceStatement.starPlaces = [([some 13], [13, 19])] ∧
      ∀ s ∈ ss, ¬ Paired s.statement.stars s.chunk.sites.stars :=
  ⟨Script.unpaired_of_starPlaces (by decide +kernel) (by decide),
    Script.unpaired_of_starPlaces (by decide +kernel) (by decide)⟩

end TypedSql
