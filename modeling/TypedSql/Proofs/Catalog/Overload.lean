import TypedSql.Proofs.Catalog.Call
import TypedSql.Proofs.Catalog.Reachable

/-!
# Functions that are added to a catalog

A call means the first function that accepts it, in the first schema of the search path that has one. A
function that is added comes behind the others of its name. So it takes no call away from a function of its
own schema, nor from one of a schema that the search comes to earlier.
-/

namespace TypedSql

namespace Settings

/-- No schema stands at two places of the path, unless these are the first two. -/
def Unrepeated (path : List String) : Prop :=
  ∀ (name : String) (i k : Nat), i < k → path[i]? = some name → path[k]? = some name → k ≤ 1

theorem Unrepeated.concat {path : List String} (h : Unrepeated path) {schema : String} (hnew : schema ∉ path) :
    Unrepeated (path ++ [schema]) := by
  intro name i k hik hi hk
  have hlt := (List.getElem?_eq_some_iff.mp hk).1
  rw [List.length_append, List.length_singleton] at hlt
  rw [List.getElem?_append_left (by omega)] at hi
  rcases Nat.lt_or_ge k path.length with hold | hlast
  · rw [List.getElem?_append_left hold] at hk
    exact h name i k hik hi hk
  · -- the schema at the end stands nowhere in front of it
    obtain rfl : k = path.length := by omega
    rw [List.getElem?_concat_length] at hk
    cases hk
    exact absurd (List.mem_of_getElem? hi) hnew

theorem functionSearchPath_unrepeated (s : Settings) : Unrepeated s.functionSearchPath := by
  unfold functionSearchPath
  refine List.foldlRecOn (motive := Unrepeated) s.searchPath _ (fun name i k _ _ hk => ?_)
    fun path hpath schema _ => ?_
  · have hlt := (List.getElem?_eq_some_iff.mp hk).1
    exact Nat.lt_succ_iff.mp hlt
  · split
    · exact hpath
    · rename_i hnew
      exact hpath.concat fun hmem => hnew (List.contains_iff_mem.mpr hmem)

theorem not_mem_take_of_getElem? (s : Settings) {found later : String} {k : Nat}
    (hlt : s.functionSearchPath.idxOf found < k) (hk : s.functionSearchPath[k]? = some later) :
    later ∉ s.functionSearchPath.take (s.functionSearchPath.idxOf found) := by
  intro hmem
  obtain ⟨i, hi⟩ := List.getElem?_of_mem hmem
  rw [List.getElem?_take] at hi
  split at hi
  · have := s.functionSearchPath_unrepeated later i k (by omega) hi hk
    omega
  · cases hi

end Settings

namespace Change

variable {P : Catalog → Prop} (hP : ∀ c schemas, P c → P { c with schemas })

include hP

theorem keeps_onSchema_of_schemas (name : String) (f : Schema → Except Error Schema) :
    Keeps P (onSchema name f) := by
  intro c hc
  rw [apply_onSchema]
  split
  · exact hP c _ hc
  · exact hc

theorem keeps_onSchemaOf_of_schemas (n : QualifiedName) (f : Schema → Except Error Schema) :
    Keeps P (onSchemaOf n f) :=
  keeps_get_bind fun _ => keeps_onSchema_of_schemas hP _ f

theorem keeps_relocate_of_schemas (source name target : String) (t : Table) :
    Keeps P (relocate source name target t) :=
  (keeps_onSchema_of_schemas hP source _).bind fun _ => keeps_onSchema_of_schemas hP target _

theorem keeps_createSchema_of_schemas (name : String) : Keeps P (createSchema name) := by
  intro c hc
  rw [apply_createSchema]
  split
  · exact hc
  · exact hP c _ hc

theorem keeps_dropSchema_of_schemas (name : String) : Keeps P (dropSchema name) := by
  intro c hc
  rw [apply_dropSchema]
  split
  · exact hP c _ hc
  · exact hc

theorem keeps_createTable_of_schemas (n : QualifiedName) (columns : List ColumnDef) :
    Keeps P (createTable n columns) := by
  intro c hc
  rw [apply_createTable]
  split
  · exact hc
  · exact keeps_onSchema_of_schemas hP _ _ c hc

theorem keeps_renameTable_of_schemas (n : QualifiedName) (new : String) : Keeps P (renameTable n new) := by
  intro c hc
  rw [apply_renameTable]
  split
  · exact hc
  · split
    · exact hc
    · exact hc
    · exact keeps_relocate_of_schemas hP _ _ _ _ c hc

theorem keeps_moveTable_of_schemas (n : QualifiedName) (target : String) : Keeps P (moveTable n target) := by
  intro c hc
  rw [apply_moveTable]
  split
  · exact hc
  · exact hc
  · exact keeps_relocate_of_schemas hP _ _ _ _ c hc

theorem keeps_setComment_of_schemas (target : CommentTarget QualifiedName) (comment : Option String) :
    Keeps P (setComment target comment) := by
  cases target with
  | schema name => exact keeps_onSchema_of_schemas hP name _
  | table n => exact keeps_onSchemaOf_of_schemas hP n _
  | type n => exact keeps_onSchemaOf_of_schemas hP n _
  | column path =>
    change Keeps P (setColumnComment path comment)
    unfold setColumnComment
    split
    · exact keeps_onSchemaOf_of_schemas hP _ _
    · exact keeps_onSchemaOf_of_schemas hP _ _
    · exact keeps_onSchemaOf_of_schemas hP _ _
    · exact keeps_throw _

end Change

theorem Operation.kept_of_schemas {P : Catalog → Prop} (hP : ∀ c schemas, P c → P { c with schemas }) :
    Operation.Kept P := by
  intro op hop
  cases op with
  | createSchema name => exact Change.keeps_createSchema_of_schemas hP name
  | dropSchema name => exact Change.keeps_dropSchema_of_schemas hP name
  | createTable n columns => exact Change.keeps_createTable_of_schemas hP n columns
  | renameTable n new => exact Change.keeps_renameTable_of_schemas hP n new
  | moveTable n target => exact Change.keeps_moveTable_of_schemas hP n target
  | createFunction schema f replace =>
    exact (Change.keeps_onSchema_of_schemas hP schema _).bind fun _ =>
      Change.keeps_onSchema_of_schemas hP schema _
  | setComment target comment => exact Change.keeps_setComment_of_schemas hP target comment
  | dropTable n => exact Change.keeps_onSchemaOf_of_schemas hP n _
  | addColumn n column => exact Change.keeps_onSchemaOf_of_schemas hP n _
  | dropColumn n column => exact Change.keeps_onSchemaOf_of_schemas hP n _
  | setColumnType n column type => exact Change.keeps_onSchemaOf_of_schemas hP n _
  | setNotNull n column notNull => exact Change.keeps_onSchemaOf_of_schemas hP n _
  | renameColumn n old new => exact Change.keeps_onSchemaOf_of_schemas hP n _
  | createEnum n labels => exact Change.keeps_onSchemaOf_of_schemas hP n _
  | createComposite n => exact Change.keeps_onSchemaOf_of_schemas hP n _
  | dropType n => exact Change.keeps_onSchemaOf_of_schemas hP n _
  | dropFunction s => exact Change.keeps_onSchemaOf_of_schemas hP s.name _
  | replay s => cases hop

namespace Catalog

theorem functionPath_run (settings : Settings) (ops : List Operation) :
    ((initial settings).run ops).functionPath = settings.functionSearchPath :=
  run_of_kept (P := fun c => c.functionPath = settings.functionSearchPath)
    (Operation.kept_of_schemas fun _ _ h => h) rfl ops

/-- The schema that a call finds its function in: the one that it names, or else the first one of the search
path that has a function for it. -/
def home? (c : Catalog) (call : Call) : Option String :=
  if call.schema.isEmpty then c.functionPath.find? fun schema => (c.calleeIn? call schema).isSome
  else some call.schema

section

variable {c : Catalog} {call : Call} {f : Function} {found : String}

theorem home?_eq_some (hcall : call.schema.isEmpty = true) : c.home? call = some found ↔
    (c.calleeIn? call found).isSome = true ∧ ∃ before after, c.functionPath = before ++ found :: after ∧
      ∀ schema ∈ before, c.calleeIn? call schema = none := by
  rw [home?, if_pos hcall, List.find?_eq_some_iff_append]
  simp

theorem resolve_eq_ok_iff_home? :
    c.resolve call = .ok f ↔ ∃ found, c.home? call = some found ∧ c.calleeIn? call found = some f := by
  rw [resolve_eq_ok]
  split
  · rename_i hcall
    rw [List.findSome?_eq_some_iff]
    simp only [home?_eq_some hcall]
    constructor
    · rintro ⟨before, found, after, hpath, hf, hbefore⟩
      exact ⟨found, ⟨by rw [hf]; rfl, before, after, hpath, hbefore⟩, hf⟩
    · rintro ⟨found, ⟨-, before, after, hpath, hbefore⟩, hf⟩
      exact ⟨before, found, after, hpath, hf, hbefore⟩
  · rename_i hcall
    simp [home?, hcall]

end

end Catalog

theorem Functions.add_eq_ok {fs fs' : Functions} {g : Function} (h : fs.add g false = .ok fs') :
    fs' = fs.push g := by
  unfold add at h
  dsimp only at h
  split at h
  · exact pure_eq_ok_iff.mp h
  · cases h

theorem Functions.overloads_push (fs : Functions) (g : Function) (name : String) :
    (fs.push g).overloads name = fs.overloads name ++ if name = g.name then [g] else [] := by
  rw [push, overloads, Dict.get?_insert]
  split
  · rename_i heq
    rw [heq]
    rfl
  · exact (List.append_nil _).symm

namespace Catalog

variable {c : Catalog} {call : Call} {f g : Function} {added : String}

theorem callee?_addFunction {s s' : Schema} (h : s.addFunction g false = .ok s') (hf : callee? s call = some f) :
    callee? s' call = some f := by
  obtain ⟨fs, hadd, hs'⟩ := bind_eq_ok.mp h
  obtain rfl := pure_eq_ok_iff.mp hs'
  obtain rfl := Functions.add_eq_ok hadd
  rw [callee?] at hf ⊢
  dsimp only at hf ⊢
  rw [Functions.overloads_push, List.find?_append, hf]
  rfl

theorem after_createFunction
    (h : ((Operation.createFunction added g false).change.apply c).1 = .ok ()) :
    ∃ s s', c.schemas.get? added = some s ∧ s.addFunction g false = .ok s' ∧
      c.after (.createFunction added g false) = { c with schemas := c.schemas.insert added s' } := by
  have happly := (Change.apply_createFunction added g false c).trans (Change.apply_onSchema added _ c)
  unfold after
  change ((Change.createFunction added g false).apply c).1 = .ok () at h
  change ∃ s s', _ ∧ _ ∧ ((Change.createFunction added g false).apply c).2 = _
  rw [happly] at h ⊢
  split at h
  · rename_i s' hs'
    obtain ⟨s, hs, hadd⟩ := bind_eq_ok.mp hs'
    exact ⟨s, s', schema_eq_ok.mp hs, hadd, rfl⟩
  · cases h

section

variable (h : ((Operation.createFunction added g false).change.apply c).1 = .ok ())

include h

theorem calleeIn?_after_createFunction {schema : String} (hf : c.calleeIn? call schema = some f) :
    (c.after (.createFunction added g false)).calleeIn? call schema = some f := by
  obtain ⟨s, s', hs, hadd, hafter⟩ := after_createFunction h
  rw [hafter, calleeIn?, Dict.get?_insert]
  split
  · rename_i heq
    rw [calleeIn?, heq, hs] at hf
    exact callee?_addFunction hadd hf
  · exact hf

theorem calleeIn?_after_of_ne {schema : String} (hne : schema ≠ added) :
    (c.after (.createFunction added g false)).calleeIn? call schema = c.calleeIn? call schema := by
  obtain ⟨s, s', -, -, hafter⟩ := after_createFunction h
  rw [hafter, calleeIn?, Dict.get?_insert, if_neg hne]
  rfl

theorem functionPath_after_createFunction :
    (c.after (.createFunction added g false)).functionPath = c.functionPath := by
  obtain ⟨s, s', -, -, hafter⟩ := after_createFunction h
  rw [hafter]

end

/-- A function that is added without replacing one takes no call away from another function, unless its
schema is searched before the one in which that function is found. -/
theorem resolve_after_createFunction (settings : Settings) (ops : List Operation) {found : String}
    (hresolve : ((initial settings).run ops).resolve call = .ok f)
    (hhome : ((initial settings).run ops).home? call = some found)
    (hcreate : ((Operation.createFunction added g false).change.apply ((initial settings).run ops)).1 = .ok ())
    (hplace : call.schema ≠ "" ∨ added = found ∨ added ∉ ((initial settings).run ops).functionPath ∨
      ∃ k, ((initial settings).run ops).functionPath.idxOf found < k ∧
        ((initial settings).run ops).functionPath[k]? = some added) :
    (((initial settings).run ops).after (.createFunction added g false)).resolve call = .ok f := by
  have hpath := functionPath_run settings ops
  generalize (initial settings).run ops = c at *
  have hf : c.calleeIn? call found = some f := by
    obtain ⟨found', hhome', hf⟩ := resolve_eq_ok_iff_home?.mp hresolve
    rw [hhome] at hhome'
    cases hhome'
    exact hf
  refine resolve_eq_ok_iff_home?.mpr ⟨found, ?_, calleeIn?_after_createFunction hcreate hf⟩
  by_cases hcall : call.schema.isEmpty = true
  · obtain ⟨-, before, after, hsplit, hbefore⟩ := (home?_eq_some hcall).mp hhome
    rw [home?_eq_some hcall, calleeIn?_after_createFunction hcreate hf,
      functionPath_after_createFunction hcreate]
    refine ⟨rfl, before, after, hsplit, fun schema hschema => ?_⟩
    rw [calleeIn?_after_of_ne hcreate, hbefore schema hschema]
    rintro rfl
    have hfirst : c.functionPath.idxOf found = before.length := by
      have hnew : found ∉ before := fun hmem => by
        rw [hbefore found hmem] at hf
        cases hf
      rw [hsplit, List.idxOf_append_of_notMem hnew, List.idxOf_cons_self, Nat.add_zero]
    rcases hplace with hnamed | rfl | hoff | ⟨k, hlt, hk⟩
    · exact hnamed (String.isEmpty_iff.mp hcall)
    · rw [hbefore _ hschema] at hf
      cases hf
    · exact hoff (by rw [hsplit]; exact List.mem_append_left _ hschema)
    · rw [hpath] at hlt hk hfirst
      refine settings.not_mem_take_of_getElem? hlt hk ?_
      rw [hfirst, ← hpath, hsplit, List.take_left]
      exact hschema
  · rw [home?, if_neg hcall] at hhome ⊢
    exact hhome

theorem resolve_after_createFunction_same :
    let f : Function := { name := "f", returns := .ofName "int", parameters := [{ type := .ofName "int" }] }
    let g : Function := { name := "f", returns := .ofName "text", parameters := [{ type := .ofName "text" }] }
    let c := (initial {}).run [.createFunction "public" f false]
    let call : Call := { schema := "", name := "f", labels := [none], star := false }
    g.accepts call.counted call.names = true ∧ c.resolve call = .ok f ∧ c.home? call = some "public" ∧
      ((Operation.createFunction "public" g false).change.apply c).1 = .ok () ∧
      (c.after (.createFunction "public" g false)).resolve call = .ok f := by
  intro f g c call
  have hresolve : c.resolve call = .ok f := by decide +kernel
  have hhome : c.home? call = some "public" := by decide +kernel
  have hcreate : ((Operation.createFunction "public" g false).change.apply c).1 = .ok () := by decide +kernel
  exact ⟨by decide +kernel, hresolve, hhome, hcreate,
    resolve_after_createFunction {} _ hresolve hhome hcreate (.inr (.inl rfl))⟩

end Catalog

end TypedSql
