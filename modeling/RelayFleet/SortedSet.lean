/-
A finite set, held as its elements in strictly increasing order. Two sets with the same elements
are the same value, and a listing of a set is sorted and free of repetitions.
Main statements: what membership says after `insert` and after `erase`.
-/
namespace RelayFleet

/-! ## Elements in order -/

namespace Elements

variable {α : Type} [Ord α]

/-- The elements increase strictly. -/
abbrev Sorted (l : List α) : Prop := l.Pairwise fun a b => compare a b = .lt

/-- Puts an element at its place in the order, unless it is there. -/
def insert (a : α) : List α → List α
  | [] => [a]
  | b :: rest =>
    match compare a b with
    | .lt => a :: b :: rest
    | .eq => b :: rest
    | .gt => b :: insert a rest

theorem mem_insert [Std.LawfulEqOrd α] {a x : α} {l : List α} : x ∈ insert a l ↔ x = a ∨ x ∈ l := by
  induction l with
  | nil => simp [insert]
  | cons b rest ih =>
    rw [insert]
    split
    · simp
    · rename_i heq
      have : a = b := Std.LawfulEqCmp.eq_of_compare heq
      simp [this]
    · simp [ih, or_left_comm]

theorem mem_of_mem_insert {a x : α} {l : List α} (h : x ∈ insert a l) : x = a ∨ x ∈ l := by
  induction l with
  | nil => simpa [insert] using h
  | cons b rest ih =>
    rw [insert] at h
    split at h
    · simpa using h
    · exact .inr h
    · rcases List.mem_cons.1 h with h | h
      · exact .inr (h ▸ List.mem_cons_self ..)
      · exact (ih h).imp_right (List.mem_cons_of_mem _)

theorem sorted_insert [Std.TransOrd α] (a : α) {l : List α} (h : Sorted l) :
    Sorted (insert a l) := by
  induction l with
  | nil => simp [insert, Sorted]
  | cons b rest ih =>
    obtain ⟨hb, hrest⟩ := List.pairwise_cons.1 h
    rw [insert]
    split
    · rename_i hlt
      refine List.pairwise_cons.2 ⟨fun x hx => ?_, h⟩
      rcases List.mem_cons.1 hx with rfl | hx
      · exact hlt
      · exact Std.TransCmp.lt_trans hlt (hb x hx)
    · exact h
    · rename_i hgt
      refine List.pairwise_cons.2 ⟨fun x hx => ?_, ih hrest⟩
      rcases mem_of_mem_insert hx with rfl | hx
      · exact Std.OrientedCmp.lt_of_gt hgt
      · exact hb x hx

end Elements

/-! ## The set -/

/-- A finite set whose elements are listed in strictly increasing order. -/
structure SortedSet (α : Type) [Ord α] where
  elems : List α
  sorted : Elements.Sorted elems

namespace SortedSet

variable {α : Type} [Ord α]

/-- Two sets with the same listing are the same set. -/
theorem ext_elems {s t : SortedSet α} (h : s.elems = t.elems) : s = t := by
  cases s; cases t; cases h; rfl

instance [DecidableEq α] : DecidableEq (SortedSet α) := fun s t =>
  if h : s.elems = t.elems then isTrue (ext_elems h)
  else isFalse fun e => h (e ▸ rfl)

/-- The set without elements. -/
def empty : SortedSet α := ⟨[], .nil⟩

instance : EmptyCollection (SortedSet α) := ⟨empty⟩
instance : Inhabited (SortedSet α) := ⟨empty⟩
instance : Membership α (SortedSet α) := ⟨fun s a => a ∈ s.elems⟩

/-- The elements, increasing. -/
def toList (s : SortedSet α) : List α := s.elems

/-- Whether the set has no element. -/
def isEmpty (s : SortedSet α) : Bool := s.elems.isEmpty

/-- Whether the set has this element. -/
def contains (s : SortedSet α) (a : α) : Bool := s.elems.any fun b => compare a b == .eq

/-- Adds an element. -/
def insert [Std.TransOrd α] (s : SortedSet α) (a : α) : SortedSet α :=
  ⟨Elements.insert a s.elems, Elements.sorted_insert a s.sorted⟩

/-- Takes an element out. -/
def erase (s : SortedSet α) (a : α) : SortedSet α :=
  ⟨s.elems.filter fun b => compare a b != .eq, s.sorted.filter _⟩

/-- Adds every element of a list. -/
def insertAll [Std.TransOrd α] (s : SortedSet α) (l : List α) : SortedSet α := l.foldl insert s

/-- The set of a list's elements. -/
def ofList [Std.TransOrd α] (l : List α) : SortedSet α := insertAll empty l

/-- The elements of either set. -/
def union [Std.TransOrd α] (s t : SortedSet α) : SortedSet α := s.insertAll t.elems

/-! ## Membership -/

theorem mem_insert [Std.TransOrd α] [Std.LawfulEqOrd α] {s : SortedSet α} {a x : α} :
    x ∈ s.insert a ↔ x = a ∨ x ∈ s :=
  Elements.mem_insert

theorem mem_erase [Std.LawfulEqOrd α] {s : SortedSet α} {a x : α} :
    x ∈ s.erase a ↔ x ∈ s ∧ x ≠ a := by
  show x ∈ s.elems.filter _ ↔ _
  rw [List.mem_filter, bne_iff_ne, ne_eq, Std.LawfulEqCmp.compare_eq_iff_eq, eq_comm]
  rfl

theorem mem_insertAll [Std.TransOrd α] [Std.LawfulEqOrd α] {l : List α} {s : SortedSet α} {x : α} :
    x ∈ s.insertAll l ↔ x ∈ s ∨ x ∈ l := by
  induction l generalizing s with
  | nil => simp [insertAll]
  | cons a rest ih =>
    rw [insertAll, List.foldl_cons, ← insertAll, ih, mem_insert, List.mem_cons, or_assoc,
      or_left_comm]

end SortedSet

end RelayFleet
