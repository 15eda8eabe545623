import Mathlib.Data.List.Perm.Basic
import TypedSql.Proofs.Splice

/-!
# The order in which edits are given

Edits at different places may be given in any order. At one place the order counts: of two insertions the
first one stands first, and an edit that takes something away has to come last. So a list of edits has one
meaning in every order exactly if no order can be made, or if edits at one place are insertions of texts
that commute.
-/

namespace TypedSql.Edit

/-- Two edits at one place only insert, and what they insert reads the same in either order. -/
def Commutes (a b : Edit) : Prop :=
  a.location = b.location → a.old = [] ∧ b.old = [] ∧ a.new ++ b.new = b.new ++ a.new

theorem Commutes.symm {a b : Edit} (h : Commutes a b) : Commutes b a := by
  intro hlocation
  obtain ⟨ha, hb, hnew⟩ := h hlocation.symm
  exact ⟨hb, ha, hnew.symm⟩

theorem location_le_stop (e : Edit) : e.location ≤ e.stop :=
  Nat.le_add_right _ _

theorem old_eq_nil {e : Edit} (h : e.stop ≤ e.location) : e.old = [] := by
  by_contra hne
  have hpos := Text.bytes_pos hne
  unfold stop at h
  omega

theorem stop_of_old {e : Edit} (h : e.old = []) : e.stop = e.location := by
  simp [stop, h]

theorem sort_eq_self {edits : List Edit} (h : edits.Pairwise fun a b => a.location ≤ b.location) :
    sort edits = edits :=
  List.mergeSort_of_pairwise (h.imp fun hle => by simpa using hle)

theorem exists_perm_apart {edits : List Edit} (h : edits.Pairwise Compatible) :
    ∃ arranged : List Edit, arranged.Perm edits ∧ arranged.Pairwise fun a b => a.stop ≤ b.location := by
  -- the sum of both ends puts an insertion in front of an edit at its place that takes something away
  let le (a b : Edit) : Bool := decide (a.location + a.stop ≤ b.location + b.stop)
  have hperm : (edits.mergeSort le).Perm edits := List.mergeSort_perm edits le
  have hsorted : (edits.mergeSort le).Pairwise fun a b => le a b = true := by
    refine List.pairwise_mergeSort (fun a b c hab hbc => ?_) (fun a b => ?_) edits
    · simp only [le, decide_eq_true_eq] at hab hbc ⊢
      omega
    · simp only [le, Bool.or_eq_true, decide_eq_true_eq]
      omega
  have hcompatible := (hperm.pairwise_iff Compatible.symm).mpr h
  refine ⟨_, hperm, (hsorted.and hcompatible).imp ?_⟩
  intro a b hab
  have ha := a.location_le_stop
  have hb := b.location_le_stop
  have hle : a.location + a.stop ≤ b.location + b.stop := by simpa [le] using hab.1
  rcases hab.2 with h | h <;> omega

theorem exists_sorted_around (n : Nat) (edits : List Edit) :
    ∃ front back, (front ++ back).Perm edits ∧ ∀ mid : List Edit, (∀ e ∈ mid, e.location = n) →
      sort (front ++ (mid ++ back)) = front ++ (mid ++ back) := by
  let p (e : Edit) : Bool := decide (e.location < n)
  refine ⟨(sort edits).filter p, (sort edits).filter fun e => !p e,
    (List.filter_append_perm p _).trans (sort_stablySorted edits).perm, fun mid hmid => sort_eq_self ?_⟩
  have hsorted := (sort_stablySorted edits).increasing
  have hfront : ∀ e ∈ (sort edits).filter p, e.location < n := fun e he => by
    simpa [p] using (List.mem_filter.mp he).2
  have hback : ∀ e ∈ (sort edits).filter fun e => !p e, n ≤ e.location := fun e he => by
    simpa [p] using (List.mem_filter.mp he).2
  refine List.pairwise_append.mpr ⟨hsorted.filter p, List.pairwise_append.mpr ⟨?_, hsorted.filter _, ?_⟩, ?_⟩
  · exact List.pairwise_of_forall_mem_list fun a ha b hb => by rw [hmid a ha, hmid b hb]
  · intro a ha b hb
    rw [hmid a ha]
    exact hback b hb
  · intro a ha b hb
    have hlt := hfront a ha
    rcases List.mem_append.mp hb with hb | hb
    · rw [hmid b hb]
      omega
    · have hle := hback b hb
      omega

variable {start : Nat} {a b : Edit} {rest rest' : List Edit} {t out out' : Text}

theorem spliced_cons_iff : Spliced start (a :: rest) t out ↔ ∃ gap tail behind,
    t = gap ++ (a.old ++ tail) ∧ out = gap ++ (a.new ++ behind) ∧ start + gap.bytes = a.location ∧
      Spliced a.stop rest tail behind := by
  constructor
  · rintro ⟨⟩
    exact ⟨_, _, _, rfl, rfl, ‹_›, ‹_›⟩
  · rintro ⟨gap, tail, behind, rfl, rfl, hgap, hrest⟩
    exact .cons hgap hrest

theorem Spliced.same_head (h : Spliced start (a :: rest) t out) (h' : Spliced start (a :: rest') t out') :
    ∃ lead tail behind behind', out = lead ++ behind ∧ out' = lead ++ behind' ∧
      Spliced a.stop rest tail behind ∧ Spliced a.stop rest' tail behind' := by
  obtain ⟨gap, tail, behind, rfl, rfl, hgap, hrest⟩ := spliced_cons_iff.mp h
  obtain ⟨gap', tail', behind', heq, rfl, hgap', hrest'⟩ := spliced_cons_iff.mp h'
  obtain ⟨rfl, htail⟩ := Text.append_inj_of_bytes heq (by omega)
  obtain rfl := List.append_cancel_left htail
  refine ⟨gap ++ a.new, tail, behind, behind', ?_, ?_, hrest, hrest'⟩ <;> rw [List.append_assoc]

theorem Spliced.unique {edits : List Edit} (h : Spliced start edits t out) (h' : Spliced start edits t out') :
    out = out' := by
  induction edits generalizing start t out out' with
  | nil =>
    cases h
    cases h'
    rfl
  | cons e rest ih =>
    obtain ⟨lead, tail, behind, behind', rfl, rfl, hrest, hrest'⟩ := h.same_head h'
    rw [ih hrest hrest']

theorem spliced_insertions_iff (hlocation : a.location = b.location) (ha : a.old = []) (hb : b.old = []) :
    Spliced start (a :: b :: rest) t out ↔ ∃ gap tail behind, t = gap ++ tail ∧
      out = gap ++ ((a.new ++ b.new) ++ behind) ∧ start + gap.bytes = a.location ∧
      Spliced a.location rest tail behind := by
  have hstop : a.stop = a.location := stop_of_old ha
  have hstop' : b.stop = a.location := (stop_of_old hb).trans hlocation.symm
  constructor
  · intro h
    obtain ⟨gap, _, _, rfl, rfl, hgap, hnext⟩ := spliced_cons_iff.mp h
    obtain ⟨gap', tail, behind, rfl, rfl, hgap', hrest⟩ := spliced_cons_iff.mp hnext
    have hnil : gap' = [] := by
      by_contra hne
      have hpos := Text.bytes_pos hne
      omega
    subst hnil
    exact ⟨gap, tail, behind, by simp [ha, hb], by simp, hgap, hstop' ▸ hrest⟩
  · rintro ⟨gap, tail, behind, rfl, rfl, hgap, h⟩
    have hinner : Spliced a.stop (b :: rest) tail (b.new ++ behind) := by
      refine spliced_cons_iff.mpr ⟨[], tail, behind, by simp [hb], rfl, ?_, hstop'.symm ▸ h⟩
      rw [hstop, ← hlocation]
      rfl
    exact spliced_cons_iff.mpr ⟨gap, tail, b.new ++ behind, by simp [ha], by simp, hgap, hinner⟩

theorem Spliced.swap (h : Spliced start (a :: b :: rest) t out) (hlocation : a.location = b.location)
    (hcommutes : Commutes a b) : Spliced start (b :: a :: rest) t out := by
  obtain ⟨ha, hb, hnew⟩ := hcommutes hlocation
  obtain ⟨gap, tail, behind, ht, hout, hgap, hrest⟩ := (spliced_insertions_iff hlocation ha hb).mp h
  refine (spliced_insertions_iff hlocation.symm hb ha).mpr ⟨gap, tail, behind, ht, ?_, ?_, ?_⟩
  · rw [hout, hnew]
  · rw [hgap, hlocation]
  · rw [← hlocation]
    exact hrest

theorem Spliced.move {front : List Edit} (h : Spliced start (front ++ a :: rest) t out)
    (hfront : ∀ e ∈ front, e.location = a.location ∧ Commutes e a) :
    Spliced start (a :: (front ++ rest)) t out := by
  induction front generalizing start t out with
  | nil => exact h
  | cons e front ih =>
    obtain ⟨⟨hlocation, hcommutes⟩, hfront⟩ := List.forall_mem_cons.mp hfront
    obtain ⟨gap, tail, behind, ht, hout, hgap, h⟩ := spliced_cons_iff.mp h
    have hmoved : Spliced start (e :: a :: (front ++ rest)) t out :=
      spliced_cons_iff.mpr ⟨gap, tail, behind, ht, hout, hgap, ih h hfront⟩
    exact hmoved.swap hlocation hcommutes

theorem Spliced.eq_of_perm {edits other : List Edit} (hperm : edits.Perm other)
    (hsorted : edits.Pairwise fun a b => a.location ≤ b.location)
    (hsorted' : other.Pairwise fun a b => a.location ≤ b.location) (hcommutes : other.Pairwise Commutes)
    (h : Spliced start edits t out) (h' : Spliced start other t out') : out = out' := by
  induction edits generalizing other start t out out' with
  | nil =>
    obtain rfl := hperm.nil_eq
    exact h.unique h'
  | cons e rest ih =>
    obtain ⟨front, back, rfl⟩ := List.append_of_mem (hperm.mem_iff.mp (List.mem_cons_self))
    obtain ⟨hfirst, hsorted⟩ := List.pairwise_cons.mp hsorted
    have hfront : ∀ x ∈ front, x.location = e.location ∧ Commutes x e := by
      intro x hx
      have hle := (List.pairwise_append.mp hsorted').2.2 x hx e (.head _)
      have hge : e.location ≤ x.location := by
        rcases List.mem_cons.mp (hperm.mem_iff.mpr (List.mem_append_left _ hx)) with rfl | hmem
        · exact Nat.le_refl _
        · exact hfirst x hmem
      exact ⟨Nat.le_antisymm hle hge, (List.pairwise_append.mp hcommutes).2.2 x hx e (.head _)⟩
    obtain ⟨lead, tail, behind, behind', rfl, rfl, hrest, hrest'⟩ := h.same_head (h'.move hfront)
    have hsub : (front ++ back).Sublist (front ++ e :: back) :=
      (List.Sublist.refl front).append (List.sublist_cons_self e back)
    rw [ih (hperm.trans List.perm_middle).cons_inv hsorted (hsorted'.sublist hsub) (hcommutes.sublist hsub)
      hrest hrest']

theorem Spliced.new_comm {front : List Edit} (hlocation : a.location = b.location) (ha : a.old = [])
    (hb : b.old = []) (h : Spliced start (front ++ a :: b :: rest) t out)
    (h' : Spliced start (front ++ b :: a :: rest) t out) : a.new ++ b.new = b.new ++ a.new := by
  induction front generalizing start t out with
  | nil =>
    obtain ⟨gap, tail, behind, rfl, hout, hgap, hrest⟩ := (spliced_insertions_iff hlocation ha hb).mp h
    obtain ⟨gap', tail', behind', heq, hout', hgap', hrest'⟩ :=
      (spliced_insertions_iff hlocation.symm hb ha).mp h'
    obtain ⟨rfl, rfl⟩ := Text.append_inj_of_bytes heq (by omega)
    rw [← hlocation] at hrest'
    rw [hout, hrest.unique hrest'] at hout'
    exact List.append_cancel_right (List.append_cancel_left hout')
  | cons e front ih =>
    obtain ⟨lead, tail, behind, behind', rfl, heq, hrest, hrest'⟩ := h.same_head h'
    obtain rfl := List.append_cancel_left heq
    exact ih hrest hrest'

variable {text : Text} {edits : List Edit}

theorem exists_apply_of_apart (hfits : ∀ e ∈ edits, e.Fits text)
    (hapart : (sort edits).Pairwise fun a b => a.stop ≤ b.location) :
    ∃ out, apply text edits = .ok out ∧ Spliced 0 (sort edits) text out := by
  have hfits : ∀ e ∈ sort edits, e.Fits text := fun e he => hfits e (List.mem_mergeSort.mp he)
  obtain ⟨out, hout⟩ := exists_spliced (a := []) hapart.isChain (fun e _ => Nat.zero_le _) hfits
  exact ⟨out, apply_eq_ok.mpr ⟨hapart.isChain, hout⟩, hout⟩

/-- Some order can be made exactly if the edits fit the text and none begins inside of another one. -/
theorem exists_perm_apply_iff :
    (∃ other out, other.Perm edits ∧ apply text other = .ok out) ↔
      (∀ e ∈ edits, e.Fits text) ∧ edits.Pairwise Compatible := by
  constructor
  · rintro ⟨other, out, hperm, h⟩
    have hfits : ∀ e ∈ sort other, e.Fits text := (apply_eq_ok.mp h).2.fits (a := []) rfl
    refine ⟨fun e he => hfits e (List.mem_mergeSort.mpr (hperm.mem_iff.mpr he)), ?_⟩
    exact (hperm.pairwise_iff Compatible.symm).mp (pairwise_compatible_of_apply h)
  · rintro ⟨hfits, hcompatible⟩
    obtain ⟨arranged, hperm, hapart⟩ := exists_perm_apart hcompatible
    have hsort : sort arranged = arranged :=
      sort_eq_self (hapart.imp fun {a b} h => Nat.le_trans a.location_le_stop h)
    obtain ⟨out, hout, -⟩ := exists_apply_of_apart (fun e he => hfits e (hperm.mem_iff.mp he))
      (hsort.symm ▸ hapart)
    exact ⟨arranged, out, hperm, hout⟩

theorem apply_perm_of_commutes (hfits : ∀ e ∈ edits, e.Fits text) (hcompatible : edits.Pairwise Compatible)
    (hcommutes : edits.Pairwise Commutes) {other : List Edit} (hperm : other.Perm edits) :
    apply text other = apply text edits := by
  have hmade : ∀ l : List Edit, l.Perm edits → ∃ out, apply text l = .ok out ∧ Spliced 0 (sort l) text out := by
    intro l hl
    have hsorted := (sort_stablySorted l).perm.trans hl
    refine exists_apply_of_apart (fun e he => hfits e (hl.mem_iff.mp he)) ?_
    have hall := ((sort_stablySorted l).increasing.and
      ((hsorted.pairwise_iff Compatible.symm).mpr hcompatible)).and
      ((hsorted.pairwise_iff Commutes.symm).mpr hcommutes)
    refine hall.imp fun {a b} h => ?_
    obtain ⟨⟨hle, hcompatible⟩, hcommutes⟩ := h
    have hb := b.location_le_stop
    rcases hcompatible with h | h
    · exact h
    · have hlocation : a.location = b.location := by omega
      rw [stop_of_old (hcommutes hlocation).1, hlocation]
  obtain ⟨out, hout, hspliced⟩ := hmade other hperm
  obtain ⟨out', hout', hspliced'⟩ := hmade edits (.refl _)
  have hsorted := sort_stablySorted edits
  have hsame := hspliced.eq_of_perm (((sort_stablySorted other).perm.trans hperm).trans hsorted.perm.symm)
    (sort_stablySorted other).increasing hsorted.increasing
    ((hsorted.perm.pairwise_iff Commutes.symm).mpr hcommutes) hspliced'
  rw [hout, hout', hsame]

/-- Edits that are made alike in every order commute. -/
theorem commutes_of_apply_perm {out : Text} (h : ∀ other, other.Perm edits → apply text other = .ok out) :
    edits.Pairwise Commutes := by
  refine List.pairwise_iff_forall_sublist.mpr fun {a b} hsub hlocation => ?_
  obtain ⟨others, hothers⟩ := hsub.exists_perm_append
  obtain ⟨front, back, hperm, hsort⟩ := exists_sorted_around a.location others
  have hmade : ∀ mid : List Edit, mid.Perm [a, b] → (front ++ (mid ++ back)).IsChain
      (fun a b => a.stop ≤ b.location) ∧ Spliced 0 (front ++ (mid ++ back)) text out := by
    intro mid hmid
    have hall : (front ++ (mid ++ back)).Perm edits := by
      refine (List.perm_append_comm_assoc front mid back).trans ?_
      exact (hmid.append hperm).trans hothers.symm
    have hplace : ∀ e ∈ mid, e.location = a.location := by
      intro e he
      have hmem : e = a ∨ e = b := by simpa using hmid.mem_iff.mp he
      rcases hmem with rfl | rfl
      · rfl
      · exact hlocation.symm
    have hok := apply_eq_ok.mp (h _ hall)
    rwa [hsort mid hplace] at hok
  obtain ⟨hchain, hspliced⟩ := hmade [a, b] (.refl _)
  obtain ⟨hchain', hspliced'⟩ := hmade [b, a] (.swap a b [])
  have hstop : a.stop ≤ b.location := (List.isChain_cons_cons.mp (List.isChain_append.mp hchain).2.1).1
  have hstop' : b.stop ≤ a.location := (List.isChain_cons_cons.mp (List.isChain_append.mp hchain').2.1).1
  have ha : a.old = [] := old_eq_nil (hlocation ▸ hstop)
  have hb : b.old = [] := old_eq_nil (hlocation ▸ hstop')
  exact ⟨ha, hb, hspliced.new_comm hlocation ha hb hspliced'⟩

/-- The order in which edits are given does not matter exactly if no order can be made, or if edits at one
place are insertions of texts that commute. Some order can be made if all edits fit the text and none begins
inside of another one. -/
theorem apply_perm_iff (text : Text) (edits : List Edit) :
    ((∃ other out, other.Perm edits ∧ apply text other = .ok out) ↔
      (∀ e ∈ edits, e.Fits text) ∧ edits.Pairwise Compatible) ∧
    ((∀ other, other.Perm edits → (apply text other).toOption = (apply text edits).toOption) ↔
      ((∀ e ∈ edits, e.Fits text) ∧ edits.Pairwise Compatible → edits.Pairwise Commutes)) := by
  refine ⟨exists_perm_apply_iff, fun hsame hmade => ?_, fun hcommutes other hperm => ?_⟩
  · obtain ⟨other, out, hperm, hout⟩ := exists_perm_apply_iff.mpr hmade
    have hall : ∀ l : List Edit, l.Perm edits → apply text l = .ok out := by
      intro l hl
      have h := (hsame l hl).trans (hsame other hperm).symm
      rw [hout] at h
      cases hl : apply text l with
      | error e =>
        rw [hl] at h
        cases h
      | ok out' =>
        rw [hl] at h
        exact congrArg Except.ok (Option.some.inj h)
    exact commutes_of_apply_perm hall
  · by_cases hmade : (∀ e ∈ edits, e.Fits text) ∧ edits.Pairwise Compatible
    · rw [apply_perm_of_commutes hmade.1 hmade.2 (hcommutes hmade) hperm]
    · have hfails : ∀ l : List Edit, l.Perm edits → (apply text l).toOption = none := by
        intro l hl
        cases h : apply text l with
        | error e => rfl
        | ok out => exact absurd (exists_perm_apply_iff.mp ⟨l, out, hl, h⟩) hmade
      rw [hfails other hperm, hfails edits (.refl _)]

/-- Two insertions at one place make different texts, and an insertion fails behind a replacement. -/
theorem apply_depends_on_order :
    let insertX : Edit := { location := 0, old := [], new := ['x'] }
    let insertY : Edit := { location := 0, old := [], new := ['y'] }
    let replaceA : Edit := { location := 0, old := ['a'], new := ['z'] }
    (apply ['a'] [insertX, insertY] = .ok ['x', 'y', 'a'] ∧
      apply ['a'] [insertY, insertX] = .ok ['y', 'x', 'a']) ∧
    (apply ['a'] [insertX, replaceA] = .ok ['x', 'z'] ∧
      apply ['a'] [replaceA, insertX] = .error (.invalidEdit (.overlap 0 0))) := by
  intro insertX insertY replaceA
  have hmade : ∀ a b : Edit, a.location = b.location →
      apply ['a'] [a, b] = (checkApart [a, b] >>= fun _ => makeAll ['a'] [a, b]) := by
    intro a b h
    rw [apply, sort_eq_self (List.pairwise_pair.mpr (Nat.le_of_eq h))]
  exact ⟨⟨(hmade insertX insertY rfl).trans rfl, (hmade insertY insertX rfl).trans rfl⟩,
    (hmade insertX replaceA rfl).trans rfl, (hmade replaceA insertX rfl).trans rfl⟩

end TypedSql.Edit
