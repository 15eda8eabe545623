import Mathlib.Data.Set.Basic
import TypedSql.Proofs.Catalog.Atomic

/-!
# Footprints of changes

A catalog is made of slots: one for each schema without its contents, and one for each name in a schema. A
change that reads and writes the slots of a footprint alone is not seen by a change with another footprint,
so that two of them do the same in both orders.
-/

namespace TypedSql

structure Entry where
  table : Option Table
  type : Option UserType
  functions : Option (List Function)

namespace Schema

variable {s t : Schema} {name : String}

def entry (s : Schema) (name : String) : Entry :=
  ⟨s.tables.get? name, s.types.get? name, s.functions.get? name⟩

def header (s : Schema) : String × Option String :=
  (s.name, s.comment)

theorem ext_entry (hheader : s.header = t.header) (hentry : ∀ k, s.entry k = t.entry k) : s = t := by
  obtain ⟨name, comment, tables, types, functions⟩ := s
  obtain ⟨name', comment', tables', types', functions'⟩ := t
  obtain ⟨rfl, rfl⟩ := Prod.mk.inj hheader
  have htables : tables = tables' := Dict.ext_get? fun k => congrArg Entry.table (hentry k)
  have htypes : types = types' := Dict.ext_get? fun k => congrArg Entry.type (hentry k)
  have hfunctions : functions = functions' := Dict.ext_get? fun k => congrArg Entry.functions (hentry k)
  rw [htables, htypes, hfunctions]

/-- A change of a schema that reads and writes what is under one name alone. -/
structure ActsOn (name : String) (f : Schema → Except Error Schema) : Prop where
  header : ∀ s s', f s = .ok s' → s'.header = s.header
  apart : ∀ s s', f s = .ok s' → ∀ k, k ≠ name → s'.entry k = s.entry k
  here : ∀ s t, s.entry name = t.entry name → (f s).map (·.entry name) = (f t).map (·.entry name)

theorem contains_of_entry (h : s.entry name = t.entry name) :
    s.tables.contains name = t.tables.contains name ∧ s.types.contains name = t.types.contains name := by
  have htable : s.tables.get? name = t.tables.get? name := congrArg Entry.table h
  have htype : s.types.get? name = t.types.get? name := congrArg Entry.type h
  rw [Dict.contains, Dict.contains, Dict.contains, Dict.contains, htable, htype]
  exact ⟨rfl, rfl⟩

theorem insertTable_actsOn (u : Table) : ActsOn u.rel.name (·.insertTable u) where
  header s s' h := by
    obtain ⟨-, -, rfl⟩ := insertTable_eq_ok.mp h
    rfl
  apart s s' h k hk := by
    obtain ⟨-, -, rfl⟩ := insertTable_eq_ok.mp h
    simp [entry, Dict.get?_insert, hk]
  here s t h := by
    obtain ⟨htables, htypes⟩ := contains_of_entry h
    rw [insertTable, insertTable, checkTableFree, checkTableFree, htables, htypes]
    obtain ⟨-, htype, hfunctions⟩ := Entry.mk.inj h
    split
    · rfl
    · split
      · rfl
      · simp [Except.map, entry, htype, hfunctions]

theorem insertType_actsOn (u : UserType) : ActsOn u.name (·.insertType u) where
  header s s' h := by
    obtain ⟨-, -, rfl⟩ := insertType_eq_ok.mp h
    rfl
  apart s s' h k hk := by
    obtain ⟨-, -, rfl⟩ := insertType_eq_ok.mp h
    simp [entry, Dict.get?_insert, hk]
  here s t h := by
    obtain ⟨htables, htypes⟩ := contains_of_entry h
    rw [insertType, insertType, checkTypeFree, checkTypeFree, htables, htypes]
    obtain ⟨htable, -, hfunctions⟩ := Entry.mk.inj h
    split
    · rfl
    · simp [Except.map, entry, htable, hfunctions]

theorem exists_add_eq (f : Function) (replace : Bool) :
    ∃ g : List Function → Except Error (List Function), ∀ fs : Functions,
      fs.add f replace = (g (fs.overloads f.name)).map (fs.insert f.name) := by
  refine ⟨fun gs => ((gs.findIdx? fun g => g.hasSignature f.types).elim (.ok (gs ++ [f])) fun i =>
    if replace then .ok (gs.set i f) else .error (.functionAlreadyExists f.name)), fun fs => ?_⟩
  simp only [Functions.add]
  cases (fs.overloads f.name).findIdx? fun g => g.hasSignature f.types with
  | none => rfl
  | some i => cases replace <;> rfl

theorem addFunction_actsOn (f : Function) (replace : Bool) :
    ActsOn f.name (·.addFunction f replace) := by
  obtain ⟨g, hg⟩ := exists_add_eq f replace
  have hadd : ∀ s : Schema, s.addFunction f replace =
      (g (s.functions.overloads f.name)).map fun gs =>
        { s with functions := s.functions.insert f.name gs } := by
    intro s
    rw [addFunction, hg]
    cases g (s.functions.overloads f.name) <;> rfl
  have hok : ∀ s s' : Schema, s.addFunction f replace = .ok s' →
      ∃ gs, s' = { s with functions := s.functions.insert f.name gs } := by
    intro s s' h
    rw [hadd] at h
    cases hgs : g (s.functions.overloads f.name) with
    | error e =>
      rw [hgs] at h
      cases h
    | ok gs =>
      rw [hgs] at h
      exact ⟨gs, (Except.ok.inj h).symm⟩
  refine ⟨fun s s' h => ?_, fun s s' h k hk => ?_, fun s t h => ?_⟩
  · obtain ⟨gs, rfl⟩ := hok s s' h
    rfl
  · obtain ⟨gs, rfl⟩ := hok s s' h
    simp [entry, Dict.get?_insert, hk]
  · obtain ⟨htable, htype, hfunctions⟩ := Entry.mk.inj h
    have hsame : s.functions.overloads f.name = t.functions.overloads f.name := by
      rw [Functions.overloads, Functions.overloads, hfunctions]
    simp only [hadd, hsame]
    cases g (t.functions.overloads f.name) with
    | error e => rfl
    | ok gs => simp [Except.map, entry, htable, htype]

end Schema

inductive Slot where
  | header (schema : String)
  | entry (schema name : String)

namespace Slot

def schema : Slot → String
  | header s => s
  | entry s _ => s

def Same (c c' : Catalog) : Slot → Prop
  | header s => (c.schemas.get? s).map Schema.header = (c'.schemas.get? s).map Schema.header
  | entry s n => (c.schemas.get? s).map (·.entry n) = (c'.schemas.get? s).map (·.entry n)

variable {c c' c'' : Catalog} {x : Slot}

theorem same_of_get? (h : c.schemas.get? x.schema = c'.schemas.get? x.schema) : x.Same c c' := by
  cases x with
  | header s => exact congrArg _ h
  | entry s n => exact congrArg _ h

theorem same_insert {schema : String} {s : Schema} (h : x.schema ≠ schema) :
    x.Same { c with schemas := c.schemas.insert schema s } c :=
  same_of_get? (by rw [Dict.get?_insert, if_neg h])

theorem Same.symm (h : x.Same c c') : x.Same c' c := by
  cases x <;> exact Eq.symm h

theorem Same.trans (h : x.Same c c') (h' : x.Same c' c'') : x.Same c c'' := by
  cases x <;> exact Eq.trans h h'

end Slot

namespace Catalog

variable {F G : Set Slot} {c c' c'' : Catalog}

structure Coincide (F : Set Slot) (c c' : Catalog) : Prop where
  frame : { c with schemas := .empty } = { c' with schemas := .empty }
  same : ∀ x ∈ F, x.Same c c'

theorem Coincide.refl (c : Catalog) : Coincide F c c :=
  ⟨rfl, fun _ _ => Slot.same_of_get? rfl⟩

theorem Coincide.symm (h : Coincide F c c') : Coincide F c' c :=
  ⟨h.frame.symm, fun x hx => (h.same x hx).symm⟩

theorem Coincide.trans (h : Coincide F c c') (h' : Coincide F c' c'') : Coincide F c c'' :=
  ⟨h.frame.trans h'.frame, fun x hx => (h.same x hx).trans (h'.same x hx)⟩

theorem Coincide.mono (h : Coincide F c c') (hG : G ⊆ F) : Coincide G c c' :=
  ⟨h.frame, fun x hx => h.same x (hG hx)⟩

theorem Coincide.defaultSchema (h : Coincide F c c') : c.defaultSchema = c'.defaultSchema := by
  injection h.frame

/-- Its slots and what it has apart from its schemas are all there is to a catalog. -/
theorem eq_of_coincide (h : ∀ x, ∃ F : Set Slot, x ∈ F ∧ Coincide F c c') : c = c' := by
  have hsame : ∀ x : Slot, x.Same c c' := by
    intro x
    obtain ⟨F, hx, hF⟩ := h x
    exact hF.same x hx
  have hschemas : c.schemas = c'.schemas := by
    refine Dict.ext_get? fun s => ?_
    have hheader : (c.schemas.get? s).map Schema.header = (c'.schemas.get? s).map Schema.header :=
      hsame (.header s)
    have hentry : ∀ n, (c.schemas.get? s).map (·.entry n) = (c'.schemas.get? s).map (·.entry n) :=
      fun n => hsame (.entry s n)
    cases hs : c.schemas.get? s with
    | none =>
      rw [hs] at hheader
      exact (Option.map_eq_none_iff.mp hheader.symm).symm
    | some u =>
      rw [hs] at hheader hentry
      obtain ⟨u', hu', hheader'⟩ := Option.map_eq_some_iff.mp hheader.symm
      rw [hu'] at hentry ⊢
      exact congrArg some (Schema.ext_entry hheader'.symm fun n => Option.some.inj (hentry n))
  obtain ⟨F, -, hF⟩ := h (.header "")
  have hframe := hF.frame
  obtain ⟨name, comment, default, path, schemas⟩ := c
  obtain ⟨name', comment', default', path', schemas'⟩ := c'
  injection hframe with hname hcomment hdefault hpath
  dsimp only at hname hcomment hdefault hpath hschemas
  rw [hname, hcomment, hdefault, hpath, hschemas]

theorem isOk_table (c : Catalog) (n : QualifiedName) :
    (c.table n).isOk = ((c.schemas.get? (c.schemaName n)).map (·.entry n.name)).any (·.table.isSome) := by
  rw [table, schema]
  cases c.schemas.get? (c.schemaName n) with
  | none => rfl
  | some s =>
    rw [Option.map_some, Option.any_some, Schema.entry]
    change (s.table n.name).isOk = _
    rw [Schema.table]
    cases s.tables.get? n.name <;> rfl

end Catalog

namespace Change

variable {α β : Type} {d : String} {F G : Set Slot} {m : Change α}

/-- In catalogs with a default schema, a change reads and writes some slots alone. -/
structure Within (d : String) (F : Set Slot) (m : Change α) : Prop where
  apart : ∀ c, c.defaultSchema = d → Catalog.Coincide Fᶜ (m.apply c).2 c
  agrees : ∀ c c', c.defaultSchema = d → Catalog.Coincide F c c' →
    (m.apply c).1 = (m.apply c').1 ∧ Catalog.Coincide F (m.apply c).2 (m.apply c').2

theorem within_pure (a : α) : Within d F (pure a : Change α) :=
  ⟨fun c _ => .refl c, fun _ _ _ h => ⟨rfl, h⟩⟩

theorem within_throw (e : Error) : Within d F (throw e : Change α) :=
  ⟨fun c _ => .refl c, fun _ _ _ h => ⟨rfl, h⟩⟩

theorem Within.congr {k : Change α} (hk : Within d F k)
    (h : ∀ c, c.defaultSchema = d → m.apply c = k.apply c) : Within d F m := by
  refine ⟨fun c hc => ?_, fun c c' hc hF => ?_⟩
  · rw [h c hc]
    exact hk.apart c hc
  · rw [h c hc, h c' (hF.defaultSchema ▸ hc)]
    exact hk.agrees c c' hc hF

theorem Within.ite {k : Change α} {p : Catalog → Bool} (hm : Within d F m) (hk : Within d F k)
    (hp : ∀ c c', c.defaultSchema = d → Catalog.Coincide F c c' → p c = p c') :
    Within d F (get >>= fun c => if p c then m else k) := by
  refine ⟨fun c hc => ?_, fun c c' hc hF => ?_⟩
  · rw [apply_get_bind]
    split
    · exact hm.apart c hc
    · exact hk.apart c hc
  · rw [apply_get_bind, apply_get_bind, ← hp c c' hc hF]
    split
    · exact hm.agrees c c' hc hF
    · exact hk.agrees c c' hc hF

theorem apply_bind_pure (m : Change α) (b : β) (c : Catalog) :
    (m >>= fun _ => pure b).apply c = ((m.apply c).1.map fun _ => b, (m.apply c).2) := by
  rw [apply_bind]
  rcases m.apply c with ⟨r | a, c'⟩ <;> rfl

theorem Within.map (hm : Within d F m) (b : β) : Within d F (m >>= fun _ => pure b) := by
  refine ⟨fun c hc => ?_, fun c c' hc hF => ?_⟩
  · rw [apply_bind_pure]
    exact hm.apart c hc
  · obtain ⟨hresult, hcoincide⟩ := hm.agrees c c' hc hF
    rw [apply_bind_pure, apply_bind_pure, hresult]
    exact ⟨rfl, hcoincide⟩

theorem atomic_pure {P : Catalog → Prop} (a : α) : Atomic P (pure a : Change α) :=
  fun _ _ _ _ => rfl

theorem atomic_get_bind {P : Catalog → Prop} {f : Catalog → Change α} (hf : ∀ c, Atomic P (f c)) :
    Atomic P (get >>= f) :=
  fun c hc e h => hf c c hc e h

theorem Atomic.map {P : Catalog → Prop} (hm : Atomic P m) (b : β) :
    Atomic P (m >>= fun _ => pure b) := by
  intro c hc e h
  rw [apply_bind_pure] at h ⊢
  obtain ⟨e', he'⟩ : ∃ e', (m.apply c).1 = .error e' := by
    cases hr : (m.apply c).1 with
    | error e' => exact ⟨e', rfl⟩
    | ok a =>
      rw [hr] at h
      cases h
  exact hm c hc e' he'

/-- Changes within footprints that have nothing in common do the same in both orders. -/
theorem Within.comm {k : Change β} (hm : Within d F m) (hk : Within d G k) (hFG : ∀ x ∈ F, x ∉ G) {c : Catalog}
    (hc : c.defaultSchema = d) :
    (m.apply (k.apply c).2).1 = (m.apply c).1 ∧
      (m.apply (k.apply c).2).2 = (k.apply (m.apply c).2).2 := by
  have hF : F ⊆ Gᶜ := hFG
  have hG : G ⊆ Fᶜ := fun x hx hxF => hFG x hxF hx
  -- neither change sees what the other one does
  have hread : Catalog.Coincide F (k.apply c).2 c := (hk.apart c hc).mono hF
  have hread' : Catalog.Coincide G (m.apply c).2 c := (hm.apart c hc).mono hG
  have hdm : (m.apply c).2.defaultSchema = d := hread'.defaultSchema.trans hc
  have hdk : (k.apply c).2.defaultSchema = d := hread.defaultSchema.trans hc
  obtain ⟨hresult, hinF⟩ := hm.agrees _ _ hdk hread
  obtain ⟨-, hinG⟩ := hk.agrees _ _ hdm hread'
  refine ⟨hresult, Catalog.eq_of_coincide fun x => ?_⟩
  by_cases hxF : x ∈ F
  · exact ⟨F, hxF, hinF.trans ((hk.apart _ hdm).mono hF).symm⟩
  · by_cases hxG : x ∈ G
    · exact ⟨G, hxG, ((hm.apart _ hdk).mono hG).trans hinG.symm⟩
    · refine ⟨Fᶜ ∩ Gᶜ, ⟨hxF, hxG⟩, ?_⟩
      have hleft := ((hm.apart _ hdk).mono Set.inter_subset_left).trans
        ((hk.apart c hc).mono (G := Fᶜ ∩ Gᶜ) Set.inter_subset_right)
      have hright := ((hk.apart _ hdm).mono Set.inter_subset_right).trans
        ((hm.apart c hc).mono (G := Fᶜ ∩ Gᶜ) Set.inter_subset_left)
      exact hleft.trans hright.symm

theorem onSchema_cases {schema name : String} {f : Schema → Except Error Schema} (hf : Schema.ActsOn name f)
    {c c' : Catalog} (h : Catalog.Coincide {.entry schema name} c c') :
    (∃ e, (c.schema schema >>= f) = .error e ∧ (c'.schema schema >>= f) = .error e) ∨
      ∃ s s', (c.schema schema >>= f) = .ok s ∧ (c'.schema schema >>= f) = .ok s' ∧
        s.entry name = s'.entry name := by
  have hentry : (c.schemas.get? schema).map (·.entry name) = (c'.schemas.get? schema).map (·.entry name) :=
    h.same _ rfl
  rw [Catalog.schema, Catalog.schema]
  cases hs : c.schemas.get? schema with
  | none =>
    rw [hs] at hentry
    rw [Option.map_eq_none_iff.mp hentry.symm]
    exact .inl ⟨_, rfl, rfl⟩
  | some s =>
    rw [hs] at hentry
    obtain ⟨s', hs', heq⟩ := Option.map_eq_some_iff.mp hentry.symm
    simp only [hs', pure_eq_ok, ok_bind]
    exact cases_of_map_eq (hf.here s s' heq.symm)

theorem within_onSchema {schema name : String} {f : Schema → Except Error Schema}
    (hf : Schema.ActsOn name f) : Within d {.entry schema name} (onSchema schema f) where
  apart c _ := by
    rw [apply_onSchema]
    cases hres : c.schema schema >>= f with
    | error e => exact .refl c
    | ok s' =>
      obtain ⟨s, hs, hfs⟩ := bind_eq_ok.mp hres
      have hget := Catalog.schema_eq_ok.mp hs
      refine ⟨rfl, fun x hx => ?_⟩
      cases x with
      | header k =>
        by_cases hk : k = schema
        · subst hk
          rw [Slot.Same, Dict.get?_insert_self, hget]
          exact congrArg some (hf.header s s' hfs)
        · exact Slot.same_insert hk
      | entry k n =>
        by_cases hk : k = schema
        · subst hk
          have hn : n ≠ name := by
            rintro rfl
            exact hx rfl
          rw [Slot.Same, Dict.get?_insert_self, hget]
          exact congrArg some (hf.apart s s' hfs n hn)
        · exact Slot.same_insert hk
  agrees c c' _ h := by
    rw [apply_onSchema, apply_onSchema]
    obtain ⟨e, he, he'⟩ | ⟨s, s', hs, hs', hentry⟩ := onSchema_cases hf h
    · rw [he, he']
      exact ⟨rfl, h⟩
    · rw [hs, hs']
      refine ⟨rfl, h.frame, ?_⟩
      rintro _ rfl
      rw [Slot.Same, Dict.get?_insert_self, Dict.get?_insert_self]
      exact congrArg some hentry

theorem contains_of_coincide {name : String} {c c' : Catalog}
    (h : Catalog.Coincide {x | x.schema = name} c c') :
    c.schemas.contains name = c'.schemas.contains name := by
  have hheader : (c.schemas.get? name).map Schema.header = (c'.schemas.get? name).map Schema.header :=
    h.same (.header name) rfl
  rw [Dict.contains, Dict.contains, ← Option.isSome_map (f := Schema.header), hheader, Option.isSome_map]

theorem within_createSchema (name : String) : Within d {x | x.schema = name} (createSchema name) where
  apart c _ := by
    rw [apply_createSchema]
    split
    · exact .refl c
    · exact ⟨rfl, fun x hx => Slot.same_insert hx⟩
  agrees c c' _ h := by
    rw [apply_createSchema, apply_createSchema, ← contains_of_coincide h]
    split
    · exact ⟨rfl, h⟩
    · refine ⟨rfl, h.frame, ?_⟩
      rintro x rfl
      exact Slot.same_of_get? (by rw [Dict.get?_insert_self, Dict.get?_insert_self])

theorem within_onSchemaOf {n : QualifiedName} {f : Schema → Except Error Schema}
    (hf : Schema.ActsOn n.name f) : Within d {.entry (n.schemaOr d) n.name} (onSchemaOf n f) := by
  refine (within_onSchema hf).congr fun c hc => ?_
  rw [apply_onSchemaOf, Catalog.schemaName, hc]

theorem within_createTable (n : QualifiedName) (columns : List ColumnDef) :
    Within d {.entry (n.schemaOr d) n.name} (createTable n columns) := by
  have hqualify : ∀ c : Catalog, c.defaultSchema = d → c.qualify n = { n with schema := n.schemaOr d } := by
    rintro c rfl
    rfl
  cases hrepeated : Table.repeatedColumn?
      (Table.ofDefs { n with schema := n.schemaOr d } columns).columns [] with
  | some name =>
    refine (within_throw (.columnAlreadyExists n.name name)).congr fun c hc => ?_
    rw [apply_createTable, hqualify c hc, hrepeated]
    rfl
  | none =>
    refine (within_onSchema (Schema.insertTable_actsOn
      (Table.ofDefs { n with schema := n.schemaOr d } columns))).congr fun c hc => ?_
    rw [apply_createTable, hqualify c hc, hrepeated, Catalog.schemaName, hc]

end Change

end TypedSql
