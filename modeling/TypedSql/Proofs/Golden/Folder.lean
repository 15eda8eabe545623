import TypedSql.Golden.Suite
import TypedSql.Proofs.Fallible

/-!
# Where paths lead to

A written path is walked name by name from a folder. Whatever it is, the place that it leads to is in the folder. A
path that never goes back leads to the names that are written in it, where these are in the folder, and fails otherwise.
-/

namespace TypedSql.Golden.Folder

variable {f : Folder} {here place rest : Path} {name : String} {names : List String}

def Holds (f : Folder) (place : Path) : Prop :=
  f.hasFolder place = true ∨ (f.lookup place).isSome = true

theorem mem_below_iff {content : Content} :
    (rest, content) ∈ f.below place ↔ rest ≠ [] ∧ (place ++ rest, content) ∈ f := by
  simp only [below, List.mem_filterMap, Prod.exists]
  constructor
  · rintro ⟨p, c, hmem, hif⟩
    split at hif
    · rename_i hprefix
      simp only [Bool.and_eq_true, List.isPrefixOf_iff_prefix, decide_eq_true_eq] at hprefix
      obtain ⟨⟨tail, rfl⟩, hlength⟩ := hprefix
      cases hif
      rw [List.drop_left]
      refine ⟨?_, hmem⟩
      rintro rfl
      simp at hlength
    · cases hif
  · rintro ⟨hne, hmem⟩
    refine ⟨_, _, hmem, ?_⟩
    have hlength := List.length_pos_iff.mpr hne
    rw [if_pos (by simpa using hlength), List.drop_left]

theorem hasFolder_iff : f.hasFolder place = true ↔
    place = [] ∨ ∃ rest content, rest ≠ [] ∧ (place ++ rest, content) ∈ f := by
  rw [hasFolder, Bool.or_eq_true, List.isEmpty_iff, Bool.not_eq_true', List.isEmpty_eq_false_iff_exists_mem]
  simp only [Prod.exists, mem_below_iff]

theorem hasFolder_of_append (h : f.hasFolder (place ++ rest) = true) : f.hasFolder place = true := by
  rw [hasFolder_iff] at h ⊢
  rcases h with h | ⟨more, content, hne, hmem⟩
  · exact .inl (List.append_eq_nil_iff.mp h).1
  · rw [List.append_assoc] at hmem
    exact .inr ⟨_, _, List.append_ne_nil_of_right_ne_nil rest hne, hmem⟩

theorem Holds.hasFolder_of_append (h : f.Holds (place ++ rest)) (hne : rest ≠ []) : f.hasFolder place = true := by
  rcases h with h | h
  · exact Folder.hasFolder_of_append h
  · obtain ⟨content, hcontent⟩ := Option.isSome_iff_exists.mp h
    obtain ⟨l₁, l₂, heq, -⟩ := List.lookup_eq_some_iff.mp hcontent
    exact hasFolder_iff.mpr (.inr ⟨rest, content, hne, by rw [heq]; simp⟩)

theorem Holds.of_append (h : f.Holds (place ++ rest)) : f.Holds place := by
  by_cases hne : rest = []
  · rwa [hne, List.append_nil] at h
  · exact .inl (h.hasFolder_of_append hne)

def isStep (name : String) : Bool :=
  !name.isEmpty && name != "."

theorem walk_cons_eq_ok_iff : f.walk here (name :: names) = .ok place ↔
    f.hasFolder here = true ∧
      (isStep name = false ∧ f.walk here names = .ok place ∨
        name = ".." ∧ here ≠ [] ∧ f.walk here.dropLast names = .ok place ∨
        isStep name = true ∧ name ≠ ".." ∧ name.utf8ByteSize ≤ maxNameSize ∧ f.Holds (here ++ [name]) ∧
          f.walk (here ++ [name]) names = .ok place) := by
  have hdots : isStep ".." = true := by decide
  have hpast : isStep name = false ↔ name.isEmpty = true ∨ name = "." := by
    simp [isStep, or_iff_not_imp_left]
  have hfails (e : ReadError) : (throw e : Except ReadError Path) ≠ .ok place := fun h => by cases h
  have hnext : f.Holds (here ++ [name]) ↔
      (f.hasFolder (here ++ [name]) || (f.lookup (here ++ [name])).isSome) = true := Bool.or_eq_true_iff.symm
  rw [walk]
  grind

theorem holds_of_walk (hhere : f.Holds here) (h : f.walk here names = .ok place) : f.Holds place := by
  induction names generalizing here with
  | nil =>
    cases h
    exact hhere
  | cons name names ih =>
    obtain ⟨hfolder, ⟨-, h⟩ | ⟨-, hne, h⟩ | ⟨-, -, -, hnext, h⟩⟩ := walk_cons_eq_ok_iff.mp h
    · exact ih hhere h
    · rw [← List.dropLast_append_getLast hne] at hfolder
      exact ih (.inl (hasFolder_of_append hfolder)) h
    · exact ih hnext h

theorem utf8ByteSize_le_of_past (h : isStep name = false) : name.utf8ByteSize ≤ maxNameSize := by
  simp only [isStep, Bool.and_eq_false_iff, Bool.not_eq_false', String.isEmpty_iff, bne_eq_false_iff_eq] at h
  rcases h with rfl | rfl
  · decide
  · decide

/-- The steps of a written path are in the folder from a place on. Where the path ends in a slash or in a dot, a
folder has to be there. -/
structure LeadsTo (f : Folder) (here : Path) (names : List String) (place : Path) : Prop where
  place_eq : place = here ++ names.filter isStep
  holds : f.Holds place
  sizes : ∀ name ∈ names, name.utf8ByteSize ≤ maxNameSize
  last : ∀ name ∈ names.getLast?, isStep name = false → f.hasFolder place = true

theorem leadsTo_nil (h : f.Holds here) : f.LeadsTo here [] place ↔ place = here := by
  constructor
  · intro hleads
    rw [hleads.place_eq, List.filter_nil, List.append_nil]
  · rintro rfl
    exact ⟨(List.append_nil _).symm, h, by simp, by simp⟩

theorem LeadsTo.hasFolder (h : f.LeadsTo here names place) (hne : names ≠ []) : f.hasFolder here = true := by
  by_cases hfilter : names.filter isStep = []
  · have hpast : isStep (names.getLast hne) = false := by
      simpa using List.filter_eq_nil_iff.mp hfilter _ (List.getLast_mem hne)
    have hfolder := h.last _ (List.getLast?_eq_some_getLast hne) hpast
    rwa [h.place_eq, hfilter, List.append_nil] at hfolder
  · have hholds := h.holds
    rw [h.place_eq] at hholds
    exact hholds.hasFolder_of_append hfilter

theorem forall_getLast?_cons {p : String → Prop} :
    (∀ last ∈ (name :: names).getLast?, p last) ↔ (names = [] → p name) ∧ ∀ last ∈ names.getLast?, p last := by
  cases names with
  | nil => simp
  | cons next names => simp [List.getLast?_cons_cons]

theorem leadsTo_cons_of_past (hpast : isStep name = false) :
    f.LeadsTo here (name :: names) place ↔ f.hasFolder here = true ∧ f.LeadsTo here names place := by
  have hfilter : (name :: names).filter isStep = names.filter isStep := List.filter_cons_of_neg (by simp [hpast])
  constructor
  · intro h
    refine ⟨h.hasFolder (List.cons_ne_nil _ _), ?_, h.holds, ?_, (forall_getLast?_cons.mp h.last).2⟩
    · rw [← hfilter]
      exact h.place_eq
    · exact (List.forall_mem_cons.mp h.sizes).2
  · rintro ⟨hfolder, h⟩
    refine ⟨?_, h.holds, ?_, forall_getLast?_cons.mpr ⟨?_, h.last⟩⟩
    · rw [hfilter]
      exact h.place_eq
    · exact List.forall_mem_cons.mpr ⟨utf8ByteSize_le_of_past hpast, h.sizes⟩
    · rintro rfl -
      rwa [h.place_eq, List.filter_nil, List.append_nil]

theorem leadsTo_cons_of_step (hstep : isStep name = true) :
    f.LeadsTo here (name :: names) place ↔
      name.utf8ByteSize ≤ maxNameSize ∧ f.LeadsTo (here ++ [name]) names place := by
  have hfilter : here ++ (name :: names).filter isStep = here ++ [name] ++ names.filter isStep := by
    rw [List.filter_cons_of_pos hstep, List.append_assoc, List.singleton_append]
  constructor
  · intro h
    obtain ⟨hsize, hsizes⟩ := List.forall_mem_cons.mp h.sizes
    exact ⟨hsize, h.place_eq.trans hfilter, h.holds, hsizes, (forall_getLast?_cons.mp h.last).2⟩
  · rintro ⟨hsize, h⟩
    refine ⟨h.place_eq.trans hfilter.symm, h.holds, List.forall_mem_cons.mpr ⟨hsize, h.sizes⟩,
      forall_getLast?_cons.mpr ⟨fun _ hpast => ?_, h.last⟩⟩
    rw [hstep] at hpast
    cases hpast

theorem LeadsTo.holds_here (h : f.LeadsTo here names place) : f.Holds here := by
  have hholds := h.holds
  rw [h.place_eq] at hholds
  exact hholds.of_append

theorem walk_eq_ok_iff (hback : ".." ∉ names) (hhere : f.Holds here) :
    f.walk here names = .ok place ↔ f.LeadsTo here names place := by
  induction names generalizing here with
  | nil => rw [leadsTo_nil hhere, walk, pure_eq_ok_iff]
  | cons name names ih =>
    obtain ⟨hdots, hback⟩ := not_or.mp (mt List.mem_cons.mpr hback)
    rw [walk_cons_eq_ok_iff]
    cases hstep : isStep name with
    | false =>
      rw [leadsTo_cons_of_past hstep, ih hback hhere]
      simp [Ne.symm hdots]
    | true =>
      rw [leadsTo_cons_of_step hstep]
      constructor
      · rintro ⟨-, ⟨⟨⟩, -⟩ | ⟨h, -⟩ | ⟨-, -, hsize, hnext, h⟩⟩
        · exact absurd h.symm hdots
        · exact ⟨hsize, (ih hback hnext).mp h⟩
      · rintro ⟨hsize, h⟩
        have hfolder := ((leadsTo_cons_of_step hstep).mpr ⟨hsize, h⟩).hasFolder (List.cons_ne_nil _ _)
        exact ⟨hfolder, .inr (.inr ⟨rfl, Ne.symm hdots, hsize, h.holds_here, (ih hback h.holds_here).mpr h⟩)⟩

theorem holds_nil (f : Folder) : f.Holds [] :=
  .inl rfl

structure IsRelative (path : String) : Prop where
  ne_empty : path ≠ ""
  head_ne : path.toList.head? ≠ some '/'
  size_lt : path.utf8ByteSize < pathSizeLimit

theorem resolve_eq_ok {path : String} : f.resolve path = .ok place ↔
    IsRelative path ∧ f.walk [] (path.splitToList (· == '/')) = .ok place := by
  rw [resolve]
  split
  · rename_i hstart
    refine ⟨fun h => (by cases h), fun ⟨hrelative, _⟩ => absurd hstart ?_⟩
    simp [hrelative.ne_empty, hrelative.head_ne]
  · rename_i hstart
    simp only [Bool.or_eq_true, String.isEmpty_iff, beq_iff_eq, not_or] at hstart
    split
    · rename_i hsize
      exact ⟨fun h => (by cases h), fun ⟨hrelative, _⟩ => absurd hrelative.size_lt (Nat.not_lt.mpr hsize)⟩
    · rename_i hsize
      exact ⟨fun h => ⟨⟨hstart.1, hstart.2, Nat.not_le.mp hsize⟩, h⟩, fun h => h.2⟩

theorem holds_of_resolve {path : String} (h : f.resolve path = .ok place) : f.Holds place :=
  holds_of_walk (holds_nil f) (resolve_eq_ok.mp h).2

theorem resolve_eq_ok_iff {path : String} (hback : ".." ∉ path.splitToList (· == '/')) :
    f.resolve path = .ok place ↔ IsRelative path ∧ f.LeadsTo [] (path.splitToList (· == '/')) place := by
  rw [resolve_eq_ok, walk_eq_ok_iff hback (holds_nil f)]

theorem eq_steps_of_resolve {path : String} (hback : ".." ∉ path.splitToList (· == '/'))
    (h : f.resolve path = .ok place) : place = steps path :=
  ((resolve_eq_ok_iff hback).mp h).2.place_eq

theorem source_of_resolve {path : String} (h : f.resolve path = .ok place) :
    (f.hasFolder place = true ∧ f.source path = .folder (f.below place)) ∨
      ∃ content, f.lookup place = some content ∧ f.source path = .file content := by
  unfold source
  rw [h]
  dsimp only
  by_cases hfolder : f.hasFolder place = true
  · exact .inl ⟨hfolder, if_pos hfolder⟩
  · obtain ⟨content, hcontent⟩ := Option.isSome_iff_exists.mp ((holds_of_resolve h).resolve_left hfolder)
    rw [if_neg hfolder, hcontent]
    exact .inr ⟨content, rfl, rfl⟩

end TypedSql.Golden.Folder
