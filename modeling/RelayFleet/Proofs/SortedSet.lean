/-
Laws of finite sets: a set is determined by its elements, and the set of a list has the elements of
the list.
-/
import RelayFleet.SortedSet
import RelayFleet.Proofs.SortedMap

namespace RelayFleet.SortedSet

variable {α : Type} [Ord α]

theorem not_mem_empty (a : α) : a ∉ (∅ : SortedSet α) := List.not_mem_nil

theorem isEmpty_eq_false_iff {s : SortedSet α} : s.isEmpty = false ↔ ∃ a, a ∈ s :=
  List.isEmpty_eq_false_iff_exists_mem

variable [Std.TransOrd α]

theorem nodup_toList (s : SortedSet α) : s.toList.Nodup := s.sorted.imp SortedMap.ne_of_lt

/-- Two sets with the same elements are the same set. -/
theorem ext_mem {s t : SortedSet α} (h : ∀ a, a ∈ s ↔ a ∈ t) : s = t := by
  have hperm : s.elems.Perm t.elems :=
    (List.perm_ext_iff_of_nodup s.nodup_toList t.nodup_toList).2 h
  refine ext_elems (hperm.eq_of_pairwise (fun a b _ _ hab hba => ?_) s.sorted t.sorted)
  rw [Std.OrientedCmp.gt_of_lt hab] at hba
  cases hba

theorem mem_ofList [Std.LawfulEqOrd α] {l : List α} {a : α} : a ∈ (ofList l).toList ↔ a ∈ l := by
  have hmem := mem_insertAll (x := a) (s := empty) (l := l)
  refine hmem.trans ⟨fun h => h.resolve_left (not_mem_empty a), .inr⟩

theorem mem_union [Std.LawfulEqOrd α] {s t : SortedSet α} {a : α} :
    a ∈ s.union t ↔ a ∈ s ∨ a ∈ t := mem_insertAll

/-- A set is that of its listing. -/
theorem ofList_toList [Std.LawfulEqOrd α] (s : SortedSet α) : ofList s.toList = s :=
  ext_mem fun _ => mem_ofList

/-- A list without repetitions is listed by its set in another order. -/
theorem perm_ofList [Std.LawfulEqOrd α] {l : List α} (h : l.Nodup) : (ofList l).toList.Perm l :=
  (List.perm_ext_iff_of_nodup (nodup_toList _) h).2 fun _ => mem_ofList

end RelayFleet.SortedSet
