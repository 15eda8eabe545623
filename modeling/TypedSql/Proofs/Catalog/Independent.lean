import TypedSql.Proofs.Catalog.Footprint

/-!
# Creations that do not depend on each other

A statement that creates something has a footprint: the slots of the schema that it creates, or the slot of
the name that it creates in a schema. Creations of different things, none of them the schema of another,
have footprints without a common slot. So they lead to one catalog in every order, and each of them has the
outcome that it has alone.
-/

namespace TypedSql

inductive Creation where
  | schema (name : String)
  | object (schema name : String)
  deriving DecidableEq

namespace Creation

/-- Creations of different things, none of them the schema that the other one goes into. -/
def Independent : Creation → Creation → Prop
  | schema a, schema b => a ≠ b
  | schema a, object s _ => a ≠ s
  | object s _, schema a => s ≠ a
  | object s n, object s' n' => (s, n) ≠ (s', n')

def footprint : Creation → Set Slot
  | schema a => {x | x.schema = a}
  | object s n => {.entry s n}

theorem Independent.symm {x y : Creation} (h : x.Independent y) : y.Independent x := by
  cases x <;> cases y <;> exact Ne.symm h

theorem footprint_apart {x y : Creation} (h : x.Independent y) :
    ∀ slot ∈ x.footprint, slot ∉ y.footprint := by
  intro slot hx hy
  cases x with
  | schema a =>
    cases y with
    | schema b => exact h (Eq.trans (Eq.symm hx) hy)
    | object s n =>
      obtain rfl := hy
      exact h (Eq.symm hx)
  | object s n =>
    obtain rfl := hx
    cases y with
    | schema b => exact h hy
    | object s' n' =>
      injection (hy : Slot.entry s n = Slot.entry s' n') with hs hn
      exact h (by rw [hs, hn])

end Creation

namespace Definition

variable {d : String}

theorem within_replayTable (n : QualifiedName) (ifNotExists : Bool) (columns : List ColumnDef) :
    Change.Within d {.entry (n.schemaOr d) n.name} (replayTable n ifNotExists columns) := by
  refine (Change.within_pure _).ite ((Change.within_createTable n columns).map Outcome.applied) ?_
  rintro c c' rfl h
  have hentry : (c.schemas.get? (n.schemaOr c.defaultSchema)).map (·.entry n.name) = _ := h.same _ rfl
  rw [Catalog.isOk_table, Catalog.isOk_table, Catalog.schemaName, Catalog.schemaName, ← h.defaultSchema, hentry]

theorem within_replaySchema (name : String) (ifNotExists : Bool) :
    Change.Within d {x | x.schema = name} (replaySchema name ifNotExists) := by
  refine (Change.within_pure _).ite ((Change.within_createSchema name).map Outcome.applied) ?_
  intro c c' _ h
  rw [Change.contains_of_coincide h, h.defaultSchema]

theorem within_insertType (n : QualifiedName) (kind : TypeKind) :
    Change.Within d {.entry (n.schemaOr d) n.name}
      (Change.onSchemaOf n (·.insertType { name := n.name, kind }) >>= fun _ => pure Outcome.applied) :=
  (Change.within_onSchemaOf (Schema.insertType_actsOn { name := n.name, kind })).map _

theorem within_replayFunction (n : QualifiedName) (parameters : List Parameter) (returns : Option TypeName)
    (replace : Bool) :
    Change.Within d {.entry (n.schemaOr d) n.name} (replayFunction n parameters returns replace) := by
  let f : Function := { name := n.name, parameters, returns := returns.getD (.ofName "void") }
  refine ((Change.within_onSchema (Schema.addFunction_actsOn f replace)).map Outcome.applied).congr ?_
  rintro c rfl
  unfold replayFunction
  dsimp only
  rw [Change.apply_get_bind, Change.apply_bind_pure, Change.apply_bind_pure, Change.apply_createFunction,
    Catalog.schemaName]

variable {P : Catalog → Prop}

theorem atomic_replayTable (n : QualifiedName) (ifNotExists : Bool) (columns : List ColumnDef) :
    Change.Atomic P (replayTable n ifNotExists columns) := by
  refine Change.atomic_get_bind fun c => ?_
  split
  · exact Change.atomic_pure _
  · exact (Change.atomic_createTable n columns).map _

theorem atomic_replaySchema (name : String) (ifNotExists : Bool) :
    Change.Atomic P (replaySchema name ifNotExists) := by
  refine Change.atomic_get_bind fun c => ?_
  split
  · exact Change.atomic_pure _
  · exact (Change.atomic_createSchema name).map _

theorem atomic_replayFunction (n : QualifiedName) (parameters : List Parameter) (returns : Option TypeName)
    (replace : Bool) : Change.Atomic P (replayFunction n parameters returns replace) :=
  Change.atomic_get_bind fun _ => (Change.atomic_createFunction _ _ replace).map _

end Definition

namespace Statement

variable {d : String} {s t : Statement}

def creation? (d : String) : Statement → Option Creation
  | .define (.createTable n _ _) => some (.object (n.schemaOr d) n.name)
  | .define (.createEnum n _) => some (.object (n.schemaOr d) n.name)
  | .define (.createComposite n) => some (.object (n.schemaOr d) n.name)
  | .define (.createFunction n _ _ _) => some (.object (n.schemaOr d) n.name)
  | .define (.createSchema name _) => some (.schema name)
  | _ => none

def Independent (d : String) (s t : Statement) : Prop :=
  ∃ x ∈ s.creation? d, ∃ y ∈ t.creation? d, x.Independent y

theorem Independent.symm (h : Independent d s t) : Independent d t s := by
  obtain ⟨x, hx, y, hy, hxy⟩ := h
  exact ⟨y, hy, x, hx, hxy.symm⟩

theorem within_replay {x : Creation} (h : s.creation? d = some x) :
    Change.Within d x.footprint s.replay := by
  cases s with
  | define definition =>
    cases definition with
    | createTable n ifNotExists columns =>
      cases h
      exact Definition.within_replayTable n ifNotExists columns
    | createEnum n labels =>
      cases h
      exact Definition.within_insertType n (.enum labels)
    | createComposite n =>
      cases h
      exact Definition.within_insertType n .composite
    | createFunction n parameters returns replace =>
      cases h
      exact Definition.within_replayFunction n parameters returns replace
    | createSchema name ifNotExists =>
      cases h
      exact Definition.within_replaySchema name ifNotExists
    | _ => cases h
  | _ => cases h

theorem atomic_replay (h : (s.creation? d).isSome = true) :
    Change.Atomic (fun _ => True) s.replay := by
  cases s with
  | define definition =>
    cases definition with
    | createTable n ifNotExists columns => exact Definition.atomic_replayTable n ifNotExists columns
    | createEnum n labels => exact (Change.atomic_onSchemaOf n _).map Outcome.applied
    | createComposite n => exact (Change.atomic_onSchemaOf n _).map Outcome.applied
    | createFunction n parameters returns replace =>
      exact Definition.atomic_replayFunction n parameters returns replace
    | createSchema name ifNotExists => exact Definition.atomic_replaySchema name ifNotExists
    | _ => cases h
  | _ => cases h

theorem defaultSchema_replay {x : Creation} (h : s.creation? d = some x) {c : Catalog}
    (hc : c.defaultSchema = d) : (s.replay.apply c).2.defaultSchema = d :=
  ((within_replay h).apart c hc).defaultSchema.trans hc

theorem Independent.comm (h : Independent d s t) {c : Catalog} (hc : c.defaultSchema = d) :
    (s.replay.apply (t.replay.apply c).2).1 = (s.replay.apply c).1 ∧
      (s.replay.apply (t.replay.apply c).2).2 = (t.replay.apply (s.replay.apply c).2).2 := by
  obtain ⟨x, hx, y, hy, hxy⟩ := h
  exact (within_replay hx).comm (within_replay hy) (Creation.footprint_apart hxy) hc

end Statement

namespace Catalog

variable {d : String} {ss ss' : List Statement}

def replayEach (c : Catalog) : List Statement → List (Except Error Outcome) × Catalog
  | [] => ([], c)
  | s :: ss =>
    let rest := replayEach (s.replay.apply c).2 ss
    ((s.replay.apply c).1 :: rest.1, rest.2)

theorem outcomes_replayEach {c : Catalog} (hc : c.defaultSchema = d)
    (hcreate : ∀ s ∈ ss, (s.creation? d).isSome = true) (hind : ss.Pairwise (Statement.Independent d)) :
    (c.replayEach ss).1 = ss.map fun s => (s.replay.apply c).1 := by
  induction ss generalizing c with
  | nil => rfl
  | cons s ss ih =>
    obtain ⟨hs, hss⟩ := List.forall_mem_cons.mp hcreate
    obtain ⟨hfirst, hrest⟩ := List.pairwise_cons.mp hind
    obtain ⟨x, hx⟩ := Option.isSome_iff_exists.mp hs
    rw [replayEach, List.map_cons, ih (Statement.defaultSchema_replay hx hc) hss hrest]
    refine congrArg _ (List.map_congr_left fun t ht => ?_)
    exact ((hfirst t ht).symm.comm hc).1

theorem replayEach_eq_of_perm {c : Catalog} (hc : c.defaultSchema = d)
    (hcreate : ∀ s ∈ ss, (s.creation? d).isSome = true) (hind : ss.Pairwise (Statement.Independent d))
    (hperm : ss.Perm ss') : (c.replayEach ss').2 = (c.replayEach ss).2 := by
  induction hperm generalizing c with
  | nil => rfl
  | cons s hperm ih =>
    obtain ⟨hs, hss⟩ := List.forall_mem_cons.mp hcreate
    obtain ⟨x, hx⟩ := Option.isSome_iff_exists.mp hs
    exact ih (Statement.defaultSchema_replay hx hc) hss (List.pairwise_cons.mp hind).2
  | swap s t ss =>
    have hst : Statement.Independent d t s := (List.pairwise_cons.mp hind).1 s List.mem_cons_self
    rw [replayEach, replayEach, replayEach, replayEach]
    dsimp only
    rw [(hst.comm hc).2]
  | trans hperm _ ih ih' =>
    have hcreate' := fun s hs => hcreate s (hperm.mem_iff.mpr hs)
    have hind' := hperm.pairwise hind fun h => h.symm
    exact (ih' hc hcreate' hind').trans (ih hc hcreate hind)

/-- Independent creations lead to one catalog and have the same outcomes in every order. -/
theorem replayEach_perm (c : Catalog) {ss ss' : List Statement}
    (hcreate : ∀ s ∈ ss, (s.creation? c.defaultSchema).isSome = true)
    (hind : ss.Pairwise (Statement.Independent c.defaultSchema)) (hperm : ss.Perm ss') :
    (c.replayEach ss').2 = (c.replayEach ss).2 ∧
      (c.replayEach ss).1 = (ss.map fun s => (s.replay.apply c).1) ∧
      (c.replayEach ss').1 = (ss'.map fun s => (s.replay.apply c).1) ∧
      ∀ s ∈ ss, ∀ b e, (s.replay.apply b).1 = .error e → (s.replay.apply b).2 = b := by
  refine ⟨replayEach_eq_of_perm rfl hcreate hind hperm, outcomes_replayEach rfl hcreate hind, ?_, ?_⟩
  · exact outcomes_replayEach rfl (fun s hs => hcreate s (hperm.mem_iff.mpr hs))
      (hperm.pairwise hind fun h => h.symm)
  · exact fun s hs b e h => Statement.atomic_replay (hcreate s hs) b trivial e h

theorem replayEach_perm_reverse :
    let c := initial {}
    let ss : List Statement :=
      [.define (.createSchema "s" false), .define (.createTable (.ofName "t") true []),
        .define (.createEnum (.ofName "e") ["x"]), .define (.createFunction (.ofName "f") [] none true),
        .define (.createTable (.ofSchema "missing" "t") false [])]
    (c.replayEach ss.reverse).2 = (c.replayEach ss).2 ∧ (c.replayEach ss).2 ≠ c ∧
      (c.replayEach ss.reverse).1 =
        .error (.schemaNotFound "missing") :: List.replicate 4 (.ok Outcome.applied) := by
  intro c ss
  have hcreate : ∀ s ∈ ss, (s.creation? c.defaultSchema).isSome = true := by
    simp [ss, Statement.creation?]
  have hind : ss.Pairwise (Statement.Independent c.defaultSchema) := by
    simp [ss, c, initial, Statement.Independent, Statement.creation?, Creation.Independent,
      QualifiedName.schemaOr, QualifiedName.ofName, QualifiedName.ofSchema]
  obtain ⟨hsame, -, houtcomes, -⟩ := replayEach_perm c hcreate hind ss.reverse_perm.symm
  refine ⟨hsame, by decide +kernel, houtcomes.trans ?_⟩
  decide +kernel

end Catalog

end TypedSql
