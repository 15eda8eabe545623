/-!
# Dictionaries

Values under names. The entries are kept in strictly increasing order of their names, so a name has one
value and a dictionary is determined by what it answers.
-/

namespace TypedSql

namespace Entries

variable {β : Type}

def Sorted (l : List (String × β)) : Prop :=
  l.Pairwise fun a b => a.1 < b.1

def insert (k : String) (v : β) : List (String × β) → List (String × β)
  | [] => [(k, v)]
  | e :: l =>
    if k < e.1 then (k, v) :: e :: l
    else if k = e.1 then (k, v) :: l
    else e :: insert k v l

def erase (k : String) (l : List (String × β)) : List (String × β) :=
  l.filter fun e => e.1 ≠ k

theorem mem_insert {k : String} {v : β} {e : String × β} {l : List (String × β)}
    (h : e ∈ insert k v l) : e = (k, v) ∨ e ∈ l := by
  induction l with
  | nil => exact .inl (by simpa [insert] using h)
  | cons a l ih =>
    simp only [insert] at h
    split at h
    · exact List.mem_cons.mp h
    · split at h
      · exact (List.mem_cons.mp h).imp_right (List.mem_cons_of_mem a)
      · rcases List.mem_cons.mp h with h | h
        · exact .inr (h ▸ List.mem_cons_self)
        · exact (ih h).imp_right (List.mem_cons_of_mem a)

theorem sorted_insert {k : String} {v : β} {l : List (String × β)} (h : Sorted l) :
    Sorted (insert k v l) := by
  induction l with
  | nil => simp [insert, Sorted]
  | cons a l ih =>
    have ⟨ha, hl⟩ := List.pairwise_cons.mp h
    simp only [insert]
    split
    · rename_i hk
      refine List.pairwise_cons.mpr ⟨fun b hb => ?_, h⟩
      rcases List.mem_cons.mp hb with rfl | hb
      · exact hk
      · exact String.lt_trans hk (ha b hb)
    · split
      · rename_i hk
        exact List.pairwise_cons.mpr ⟨fun b hb => hk ▸ ha b hb, hl⟩
      · rename_i h₁ h₂
        refine List.pairwise_cons.mpr ⟨fun b hb => ?_, ih hl⟩
        rcases mem_insert hb with rfl | hb
        · exact String.not_le.mp fun hle => h₂ (String.le_antisymm hle (String.not_lt.mp h₁))
        · exact ha b hb

theorem sorted_erase {k : String} {l : List (String × β)} (h : Sorted l) : Sorted (erase k l) :=
  h.filter _

end Entries

structure Dict (β : Type) where
  entries : List (String × β)
  sorted : Entries.Sorted entries

namespace Dict

variable {β : Type}

instance [DecidableEq β] : DecidableEq (Dict β)
  | ⟨a, _⟩, ⟨b, _⟩ => decidable_of_iff (a = b) ⟨fun h => by subst h; rfl, fun h => by injection h⟩

instance [Repr β] : Repr (Dict β) where
  reprPrec d := reprPrec d.entries

def empty : Dict β :=
  ⟨[], .nil⟩

def get? (d : Dict β) (k : String) : Option β :=
  d.entries.lookup k

def contains (d : Dict β) (k : String) : Bool :=
  (d.get? k).isSome

def insert (d : Dict β) (k : String) (v : β) : Dict β :=
  ⟨Entries.insert k v d.entries, Entries.sorted_insert d.sorted⟩

def erase (d : Dict β) (k : String) : Dict β :=
  ⟨Entries.erase k d.entries, Entries.sorted_erase d.sorted⟩

def keys (d : Dict β) : List String :=
  d.entries.map Prod.fst

def values (d : Dict β) : List β :=
  d.entries.map Prod.snd

end Dict

end TypedSql
