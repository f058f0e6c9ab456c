/-
A finite map, held as its bindings in strictly increasing key order. The order is part of the
value, so two maps with the same bindings are equal and every listing of a map comes out sorted.
Main statements: what `get?` reads after `insert` and after `erase`.
-/
namespace RelayFleet

/-! ## Bindings in key order -/

namespace Bindings

variable {κ α : Type} [Ord κ]

/-- The keys of a list of bindings increase strictly. -/
abbrev Sorted (l : List (κ × α)) : Prop :=
  l.Pairwise fun a b => compare a.1 b.1 = .lt

/-- Binds a key at its place in the order, replacing what it was bound to. -/
def insert (k : κ) (v : α) : List (κ × α) → List (κ × α)
  | [] => [(k, v)]
  | b :: rest =>
    match compare k b.1 with
    | .lt => (k, v) :: b :: rest
    | .eq => (k, v) :: rest
    | .gt => b :: insert k v rest

/-- Drops the binding of a key. -/
def erase (k : κ) (l : List (κ × α)) : List (κ × α) :=
  l.filter fun b => compare k b.1 != .eq

/-- The value a key is bound to. -/
def get? (k : κ) : List (κ × α) → Option α
  | [] => none
  | b :: rest => if compare k b.1 = .eq then some b.2 else get? k rest

theorem mem_insert {k : κ} {v : α} {b : κ × α} {l : List (κ × α)} (h : b ∈ insert k v l) :
    b = (k, v) ∨ b ∈ l := by
  induction l with
  | nil => simpa [insert] using h
  | cons a rest ih =>
    rw [insert] at h
    split at h
    · simpa using h
    · rcases List.mem_cons.1 h with h | h
      · exact .inl h
      · exact .inr (List.mem_cons_of_mem _ h)
    · rcases List.mem_cons.1 h with h | h
      · exact .inr (h ▸ List.mem_cons_self ..)
      · exact (ih h).imp_right (List.mem_cons_of_mem _)

theorem sorted_insert [Std.TransOrd κ] (k : κ) (v : α) {l : List (κ × α)} (h : Sorted l) :
    Sorted (insert k v l) := by
  induction l with
  | nil => simp [insert, Sorted]
  | cons a rest ih =>
    obtain ⟨ha, hrest⟩ := List.pairwise_cons.1 h
    rw [insert]
    split
    · rename_i hlt
      refine List.pairwise_cons.2 ⟨fun b hb => ?_, h⟩
      rcases List.mem_cons.1 hb with rfl | hb
      · exact hlt
      · exact Std.TransCmp.lt_trans hlt (ha b hb)
    · rename_i heq
      exact List.pairwise_cons.2
        ⟨fun b hb => Std.TransCmp.lt_of_eq_of_lt heq (ha b hb), hrest⟩
    · rename_i hgt
      refine List.pairwise_cons.2 ⟨fun b hb => ?_, ih hrest⟩
      rcases mem_insert hb with rfl | hb
      · exact Std.OrientedCmp.lt_of_gt hgt
      · exact ha b hb

theorem sorted_erase (k : κ) {l : List (κ × α)} (h : Sorted l) : Sorted (erase k l) :=
  h.filter _

end Bindings

/-! ## The map -/

/-- A finite map whose bindings are listed in strictly increasing key order. -/
structure SortedMap (κ α : Type) [Ord κ] where
  entries : List (κ × α)
  sorted : Bindings.Sorted entries

namespace SortedMap

variable {κ α β : Type} [Ord κ]

/-- Two maps with the same listing are the same map. -/
theorem ext_entries {m n : SortedMap κ α} (h : m.entries = n.entries) : m = n := by
  cases m; cases n; cases h; rfl

instance [DecidableEq κ] [DecidableEq α] : DecidableEq (SortedMap κ α) := fun m n =>
  if h : m.entries = n.entries then isTrue (ext_entries h)
  else isFalse fun e => h (e ▸ rfl)

/-- The map without bindings. -/
def empty : SortedMap κ α := ⟨[], .nil⟩

instance : EmptyCollection (SortedMap κ α) := ⟨empty⟩
instance : Inhabited (SortedMap κ α) := ⟨empty⟩

/-- The bindings, by increasing key. -/
def toList (m : SortedMap κ α) : List (κ × α) := m.entries

/-- The keys, increasing. -/
def keys (m : SortedMap κ α) : List κ := m.entries.map (·.1)

/-- The values, by increasing key. -/
def values (m : SortedMap κ α) : List α := m.entries.map (·.2)

/-- The number of bindings. -/
def size (m : SortedMap κ α) : Nat := m.entries.length

/-- Whether nothing is bound. -/
def isEmpty (m : SortedMap κ α) : Bool := m.entries.isEmpty

/-- The value a key is bound to. -/
def get? (m : SortedMap κ α) (k : κ) : Option α := Bindings.get? k m.entries

/-- Whether a key is bound. -/
def contains (m : SortedMap κ α) (k : κ) : Bool := (m.get? k).isSome

/-- Binds a key, replacing what it was bound to. -/
def insert [Std.TransOrd κ] (m : SortedMap κ α) (k : κ) (v : α) : SortedMap κ α :=
  ⟨Bindings.insert k v m.entries, Bindings.sorted_insert k v m.sorted⟩

/-- Drops the binding of a key. -/
def erase (m : SortedMap κ α) (k : κ) : SortedMap κ α :=
  ⟨Bindings.erase k m.entries, Bindings.sorted_erase k m.sorted⟩

/-- Keeps the bindings that pass a test. -/
def filter (m : SortedMap κ α) (p : κ → α → Bool) : SortedMap κ α :=
  ⟨m.entries.filter fun b => p b.1 b.2, m.sorted.filter _⟩

/-- Applies a function to every value. -/
def map (f : α → β) (m : SortedMap κ α) : SortedMap κ β :=
  ⟨m.entries.map fun b => (b.1, f b.2), List.pairwise_map.2 m.sorted⟩

/-- The map that a list of bindings builds up from the left; a later binding of a key wins. -/
def ofList [Std.TransOrd κ] (l : List (κ × α)) : SortedMap κ α :=
  l.foldl (fun m b => m.insert b.1 b.2) empty

/-! ## Look-ups -/

theorem get?_insert_self [Std.TransOrd κ] (m : SortedMap κ α) (k : κ) (v : α) :
    (m.insert k v).get? k = some v := by
  have h : ∀ l : List (κ × α), Bindings.get? k (Bindings.insert k v l) = some v := by
    intro l
    induction l with
    | nil => simp [Bindings.insert, Bindings.get?, Std.ReflCmp.compare_self]
    | cons a rest ih =>
      rw [Bindings.insert]
      split
      · simp [Bindings.get?, Std.ReflCmp.compare_self]
      · simp [Bindings.get?, Std.ReflCmp.compare_self]
      · rename_i hgt
        simp [Bindings.get?, hgt, ih]
  exact h m.entries

theorem get?_insert_of_ne [Std.TransOrd κ] [Std.LawfulEqOrd κ] (m : SortedMap κ α) {k k' : κ}
    (v : α) (h : k' ≠ k) :
    (m.insert k v).get? k' = m.get? k' := by
  have hne : compare k' k ≠ .eq := fun e => h (Std.LawfulEqCmp.eq_of_compare e)
  have key : ∀ l : List (κ × α), Bindings.get? k' (Bindings.insert k v l) = Bindings.get? k' l := by
    intro l
    induction l with
    | nil => simp [Bindings.insert, Bindings.get?, hne]
    | cons a rest ih =>
      rw [Bindings.insert]
      split
      · simp [Bindings.get?, hne]
      · rename_i heq
        have hk : k = a.1 := Std.LawfulEqCmp.eq_of_compare heq
        simp [Bindings.get?, hne, hk ▸ hne]
      · simp [Bindings.get?, ih]
  exact key m.entries

theorem get?_erase_self (m : SortedMap κ α) (k : κ) : (m.erase k).get? k = none := by
  have h : ∀ l : List (κ × α), Bindings.get? k (Bindings.erase k l) = none := by
    intro l
    induction l with
    | nil => rfl
    | cons a rest ih =>
      rw [Bindings.erase, List.filter_cons]
      split
      · rename_i hne
        simp only [bne_iff_ne, ne_eq] at hne
        simpa [Bindings.get?, hne, Bindings.erase] using ih
      · exact ih
  exact h m.entries

theorem get?_erase_of_ne [Std.LawfulEqOrd κ] (m : SortedMap κ α) {k k' : κ} (h : k' ≠ k) :
    (m.erase k).get? k' = m.get? k' := by
  have key : ∀ l : List (κ × α), Bindings.get? k' (Bindings.erase k l) = Bindings.get? k' l := by
    intro l
    induction l with
    | nil => rfl
    | cons a rest ih =>
      rw [Bindings.erase, List.filter_cons]
      split
      · simp only [Bindings.get?]
        split
        · rfl
        · exact ih
      · rename_i heq
        simp only [bne_iff_ne, ne_eq, Decidable.not_not] at heq
        have hk : k = a.1 := Std.LawfulEqCmp.eq_of_compare heq
        have hne : compare k' a.1 ≠ .eq := fun e => h (hk ▸ Std.LawfulEqCmp.eq_of_compare e)
        rw [Bindings.get?, if_neg hne]
        exact ih
  exact key m.entries

end SortedMap

end RelayFleet
