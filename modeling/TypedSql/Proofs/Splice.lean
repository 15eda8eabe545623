import Mathlib.Data.List.Chain
import TypedSql.Edit
import TypedSql.Proofs.Fallible
import TypedSql.Proofs.SortByKey
import TypedSql.Proofs.Text

/-!
# Edits as splices

Edits are made in place and from the last to the first, in a text whose length changes on the way. What
stands before the edit whose turn it is has not changed yet, so every edit finds its place. All edits
together leave the text between them as it is and put their new texts where the old ones stood.
-/

namespace TypedSql.Edit

def Fits (text : Text) (e : Edit) : Prop :=
  ∃ before behind, text = before ++ (e.old ++ behind) ∧ Text.bytes before = e.location

/-- The same edits by place, those at one place in the order that they had. -/
structure StablySorted (edits sorted : List Edit) : Prop where
  perm : sorted.Perm edits
  increasing : sorted.Pairwise fun a b => a.location ≤ b.location
  stable : ∀ n, sorted.filter (fun e => e.location == n) = edits.filter fun e => e.location == n

/-- What edits make of a text that begins at byte `start`: up to the first edit the text stays, then
comes the new text, and so on with the text behind the edit. -/
inductive Spliced : Nat → List Edit → Text → Text → Prop
  | nil (start : Nat) (tail : Text) : Spliced start [] tail tail
  | cons {start : Nat} {e : Edit} {rest : List Edit} {gap tail out : Text}
      (hgap : start + gap.bytes = e.location) (hrest : Spliced e.stop rest tail out) :
      Spliced start (e :: rest) (gap ++ (e.old ++ tail)) (gap ++ (e.new ++ out))

theorem sort_stablySorted (edits : List Edit) : StablySorted edits (sort edits) := by
  refine ⟨List.mergeSort_perm edits _, SortByKey.pairwise_mergeSort location edits, fun n => ?_⟩
  rw [sort, SortByKey.filter_mergeSort location]
  refine List.mergeSort_of_pairwise (List.pairwise_of_forall_mem_list fun a ha b hb => ?_)
  have ha := (List.mem_filter.mp ha).2
  have hb := (List.mem_filter.mp hb).2
  simp only [beq_iff_eq] at ha hb
  simp only [decide_eq_true_eq]
  omega

theorem sort_eq_insertionSort : sort = List.insertionSort fun a b : Edit => a.location ≤ b.location :=
  funext (SortByKey.mergeSort_eq_insertionSort location)

theorem check_eq_ok {text : Text} {e : Edit} : check text e = .ok () ↔ e.Fits text := by
  have hslice : text.slice? e.location e.stop = some e.old ↔ e.Fits text := by
    rw [Text.slice?_eq_some_iff]
    constructor
    · rintro ⟨a, b, htext, hlocation, -⟩
      exact ⟨a, b, htext, hlocation⟩
    · rintro ⟨a, b, htext, hlocation⟩
      exact ⟨a, b, htext, hlocation, rfl⟩
  rw [← hslice, check]
  cases text.slice? e.location e.stop with
  | none => simp
  | some found =>
    dsimp only
    split <;> simp_all

theorem checkApart_eq_ok {edits : List Edit} :
    checkApart edits = .ok () ↔ edits.IsChain fun a b => a.stop ≤ b.location := by
  fun_induction checkApart edits with
  | case1 a b rest hlt =>
    have hnot : ¬ a.stop ≤ b.location := by omega
    simp [hnot]
  | case2 a b rest hlt ih =>
    have hle : a.stop ≤ b.location := by omega
    rw [ih, List.isChain_cons_cons]
    simp [hle]
  | case3 edits h =>
    cases edits with
    | nil => simp
    | cons a rest =>
      cases rest with
      | nil => simp
      | cons b rest => exact absurd rfl (h a b rest)

theorem between_append (a b c : Text) : between (a ++ (b ++ c)) a.bytes (a.bytes + b.bytes) = b := by
  rw [between, Text.slice?_append]
  rfl

theorem replaceRange_append (a b c new : Text) :
    replaceRange (a ++ (b ++ c)) a.bytes (a.bytes + b.bytes) new = a ++ (new ++ c) := by
  have hbefore : between (a ++ (b ++ c)) 0 a.bytes = a := by
    simpa using between_append [] a (b ++ c)
  have hbehind : between (a ++ (b ++ c)) (a.bytes + b.bytes) (a ++ (b ++ c)).bytes = c := by
    have h := between_append (a ++ b) c []
    rw [List.append_nil, List.append_assoc, ← Text.bytes_append, List.append_assoc] at h
    rw [Text.bytes_append a b] at h
    exact h
  rw [replaceRange, hbefore, hbehind, List.append_assoc]

theorem makeAll_cons_eq_ok {text : Text} {e : Edit} {rest : List Edit} {out : Text} :
    makeAll text (e :: rest) = .ok out ↔
      ∃ mid, makeAll text rest = .ok mid ∧ e.Fits text ∧
        out = replaceRange mid e.location e.stop e.new := by
  rw [makeAll, bind_eq_ok]
  refine exists_congr fun mid => and_congr_right fun _ => ?_
  rw [check_bind_eq_ok, check_eq_ok, pure_eq_ok_iff]

theorem Fits.cut {a b : Text} {e : Edit} (h : e.Fits (a ++ b)) (hle : a.bytes ≤ e.location) :
    ∃ gap tail, b = gap ++ (e.old ++ tail) ∧ a.bytes + gap.bytes = e.location := by
  obtain ⟨before, tail, htext, hlocation⟩ := h
  obtain ⟨gap, rfl, rfl⟩ := Text.append_of_bytes_le htext (hlocation ▸ hle)
  rw [Text.bytes_append] at hlocation
  exact ⟨gap, tail, rfl, hlocation⟩

theorem makeAll_eq_ok {a b out : Text} {edits : List Edit}
    (hchain : edits.IsChain fun a b => a.stop ≤ b.location) (hle : ∀ e ∈ edits.head?, a.bytes ≤ e.location) :
    makeAll (a ++ b) edits = .ok out ↔ ∃ behind, Spliced a.bytes edits b behind ∧ out = a ++ behind := by
  induction edits generalizing a b out with
  | nil =>
    constructor
    · intro h
      exact ⟨b, .nil _ b, pure_eq_ok_iff.mp h⟩
    · rintro ⟨_, ⟨⟩, rfl⟩
      rfl
  | cons e rest ih =>
    obtain ⟨hnext, hchain⟩ := List.isChain_cons.mp hchain
    -- behind the first edit, the rest is made in the text that it leaves
    have hrest : ∀ {gap tail mid : Text}, b = gap ++ (e.old ++ tail) → a.bytes + gap.bytes = e.location →
        (makeAll (a ++ b) rest = .ok mid ↔
          ∃ behind, Spliced e.stop rest tail behind ∧ mid = (a ++ gap) ++ (e.old ++ behind)) := by
      intro gap tail mid hb hgap
      have hstop : (a ++ gap ++ e.old).bytes = e.stop := by
        rw [Text.bytes_append, Text.bytes_append, hgap, stop]
      have h : makeAll (a ++ gap ++ e.old ++ tail) rest = .ok mid ↔ _ :=
        ih hchain fun e' he' => hstop ▸ hnext e' he'
      rw [hstop] at h
      simpa only [hb, List.append_assoc] using h
    rw [makeAll_cons_eq_ok]
    constructor
    · rintro ⟨mid, hmid, hfits, rfl⟩
      obtain ⟨gap, tail, hb, hgap⟩ := hfits.cut (hle e (by simp))
      obtain ⟨behind, hspliced, rfl⟩ := (hrest hb hgap).mp hmid
      refine ⟨gap ++ (e.new ++ behind), hb ▸ .cons hgap hspliced, ?_⟩
      have hlocation : (a ++ gap).bytes = e.location := by rw [Text.bytes_append, hgap]
      rw [stop, ← hlocation, replaceRange_append, List.append_assoc]
    · rintro ⟨_, hspliced, rfl⟩
      cases hspliced with
      | @cons _ _ _ gap tail behind hgap hspliced =>
        have hlocation : (a ++ gap).bytes = e.location := by rw [Text.bytes_append, hgap]
        refine ⟨_, (hrest rfl hgap).mpr ⟨behind, hspliced, rfl⟩, ?_, ?_⟩
        · exact ⟨a ++ gap, tail, by rw [List.append_assoc], hlocation⟩
        · rw [stop, ← hlocation, replaceRange_append, List.append_assoc]

theorem apply_eq_ok {text out : Text} {edits : List Edit} :
    apply text edits = .ok out ↔
      (sort edits).IsChain (fun a b => a.stop ≤ b.location) ∧ Spliced 0 (sort edits) text out := by
  rw [apply, check_bind_eq_ok, checkApart_eq_ok]
  refine and_congr_right fun hchain => ?_
  have h : makeAll ([] ++ text) (sort edits) = .ok out ↔ _ :=
    makeAll_eq_ok hchain fun e _ => Nat.zero_le _
  simpa using h

theorem Spliced.fits {start : Nat} {edits : List Edit} {a tail out : Text}
    (h : Spliced start edits tail out) (hstart : a.bytes = start) : ∀ e ∈ edits, e.Fits (a ++ tail) := by
  induction h generalizing a with
  | nil => nofun
  | @cons start e rest gap tail out hgap hrest ih =>
    have hlocation : (a ++ gap).bytes = e.location := by rw [Text.bytes_append, hstart, hgap]
    intro e' he'
    rcases List.mem_cons.mp he' with rfl | he'
    · exact ⟨a ++ gap, tail, by rw [List.append_assoc], hlocation⟩
    · have hstop : (a ++ gap ++ e.old).bytes = e.stop := by
        rw [Text.bytes_append, hlocation, stop]
      simpa only [List.append_assoc] using ih hstop e' he'

theorem exists_spliced {edits : List Edit} {a b : Text}
    (hchain : edits.IsChain fun a b => a.stop ≤ b.location) (hle : ∀ e ∈ edits.head?, a.bytes ≤ e.location)
    (hfits : ∀ e ∈ edits, e.Fits (a ++ b)) : ∃ out, Spliced a.bytes edits b out := by
  induction edits generalizing a b with
  | nil => exact ⟨b, .nil _ b⟩
  | cons e rest ih =>
    obtain ⟨hnext, hchain⟩ := List.isChain_cons.mp hchain
    obtain ⟨gap, tail, rfl, hgap⟩ := (hfits e (by simp)).cut (hle e (by simp))
    have hstop : (a ++ gap ++ e.old).bytes = e.stop := by
      rw [Text.bytes_append, Text.bytes_append, hgap, stop]
    obtain ⟨out, hout⟩ := ih (a := a ++ gap ++ e.old) (b := tail) hchain
      (fun e' he' => hstop ▸ hnext e' he')
      (fun e' he' => by simpa only [List.append_assoc] using hfits e' (by simp [he']))
    exact ⟨gap ++ (e.new ++ out), .cons hgap (hstop ▸ hout)⟩

/-- Making edits is exact: it succeeds where each edit fits and none begins before the one in front of it
ends, and then the text is spliced with the new texts. -/
theorem apply_splices (text : Text) (edits : List Edit) :
    StablySorted edits (sort edits) ∧
      ((∃ out, apply text edits = .ok out) ↔
        (∀ e ∈ sort edits, e.Fits text) ∧ (sort edits).IsChain fun a b => a.stop ≤ b.location) ∧
      ∀ out, apply text edits = .ok out → Spliced 0 (sort edits) text out := by
  refine ⟨sort_stablySorted edits, ⟨?_, ?_⟩, fun out h => (apply_eq_ok.mp h).2⟩
  · rintro ⟨out, h⟩
    obtain ⟨hchain, hspliced⟩ := apply_eq_ok.mp h
    exact ⟨hspliced.fits (a := []) rfl, hchain⟩
  · rintro ⟨hfits, hchain⟩
    obtain ⟨out, hout⟩ := exists_spliced (a := []) hchain (fun e _ => Nat.zero_le _) hfits
    exact ⟨out, apply_eq_ok.mpr ⟨hchain, hout⟩⟩

theorem checkApart_eq_error {edits : List Edit} {e : Error} (h : checkApart edits = .error e) :
    ∃ a b, [a, b].Sublist edits ∧ b.location < a.stop ∧ e = .invalidEdit (.overlap a.location b.location) := by
  fun_induction checkApart edits with
  | case1 a b rest hlt =>
    cases h
    exact ⟨a, b, (List.nil_sublist rest).cons_cons b |>.cons_cons a, hlt, rfl⟩
  | case2 a b rest hlt ih =>
    obtain ⟨x, y, hsub, hxy⟩ := ih h
    exact ⟨x, y, hsub.cons a, hxy⟩
  | case3 edits => cases h

theorem apply_eq_error {text : Text} {edits : List Edit} {e : Error} (hfits : ∀ e ∈ edits, e.Fits text)
    (h : apply text edits = .error e) :
    ∃ a b, [a, b].Sublist (sort edits) ∧ b.location < a.stop ∧
      e = .invalidEdit (.overlap a.location b.location) := by
  rcases bind_eq_error.mp h with h | ⟨⟨⟩, hapart, -⟩
  · exact checkApart_eq_error h
  · have hfits : ∀ e ∈ sort edits, e.Fits text := fun e he => hfits e (List.mem_mergeSort.mp he)
    obtain ⟨out, hout⟩ := exists_spliced (a := []) (checkApart_eq_ok.mp hapart) (fun e _ => Nat.zero_le _) hfits
    rw [apply_eq_ok.mpr ⟨checkApart_eq_ok.mp hapart, hout⟩] at h
    cases h

/-- Neither of two edits begins inside of what the other one replaces. -/
def Compatible (a b : Edit) : Prop :=
  a.stop ≤ b.location ∨ b.stop ≤ a.location

theorem Compatible.symm {a b : Edit} (h : Compatible a b) : Compatible b a :=
  Or.symm h

theorem pairwise_compatible_of_apply {text out : Text} {edits : List Edit}
    (h : apply text edits = .ok out) : edits.Pairwise Compatible := by
  have htrans : IsTrans Edit fun a b => a.stop ≤ b.location :=
    ⟨fun a b c hab hbc => by unfold stop at *; omega⟩
  have hsorted : (sort edits).Pairwise Compatible := (apply_eq_ok.mp h).1.pairwise.imp Or.inl
  exact ((sort_stablySorted edits).perm.pairwise_iff Compatible.symm).mp hsorted

theorem le_location_of_apply {text out : Text} {edits : List Edit} (h : apply text edits = .ok out) {a b : Edit}
    (ha : a ∈ edits) (hb : b ∈ edits) (hne : a ≠ b) : a.stop ≤ b.location ∨ b.stop ≤ a.location := by
  have hsymm : Std.Symm Compatible := ⟨fun a b h => h.symm⟩
  exact (pairwise_compatible_of_apply h).forall ha hb hne

end TypedSql.Edit
