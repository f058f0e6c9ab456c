/-
Laws of reverse indices. An index reflects which keys refer to which (`Reflects`) if it lists just
that and has no empty entries; it goes on to do so when an object refers to other keys than before
(`Reflects.relink`), and there is only one such index (`Reflects.unique`).
-/
import RelayFleet.Store.Index
import RelayFleet.Proofs.SortedSet

namespace RelayFleet.Index

variable {ix : Index} {source target t k : ObjectKey}

/-- Whether an index lists a key among those that refer to another. -/
def Lists (ix : Index) (target source : ObjectKey) : Prop := source ∈ (ix.get? target).getD ∅

/-- Whether every entry of an index has something in it. -/
def Filled (ix : Index) : Prop := ∀ t sources, ix.get? t = some sources → sources.isEmpty = false

/-! ## One reference -/

theorem lists_link :
    (ix.link source target).Lists t k ↔ (t = target ∧ k = source) ∨ ix.Lists t k := by
  unfold Lists link
  rw [SortedMap.get?_insert]
  by_cases ht : t = target
  · subst ht
    rw [if_pos rfl, Option.getD_some, SortedSet.mem_insert]
    simp
  · rw [if_neg ht]
    simp [ht]

theorem filled_link (h : ix.Filled) : (ix.link source target).Filled := by
  intro t sources hget
  rcases SortedMap.get?_insert_cases hget with ⟨-, rfl⟩ | ⟨-, hold⟩
  · exact SortedSet.isEmpty_eq_false_iff.2 ⟨source, SortedSet.mem_insert.2 (.inl rfl)⟩
  · exact h t sources hold

theorem get?_unlink : (ix.unlink source target).get? t =
    if t = target then ((ix.get? t).map (·.erase source)).filter (! ·.isEmpty)
    else ix.get? t := by
  unfold unlink
  split
  · rename_i hnone
    split
    · rename_i ht
      rw [ht, hnone]
      rfl
    · rfl
  · rename_i sources hsome
    show SortedMap.get? (if (sources.erase source).isEmpty then _ else _) t = _
    by_cases hempty : (sources.erase source).isEmpty = true
    · rw [if_pos hempty, SortedMap.get?_erase]
      split
      · rename_i ht
        rw [ht, hsome, Option.map_some, Option.filter_some, hempty]
        rfl
      · rfl
    · rw [if_neg hempty, SortedMap.get?_insert]
      split
      · rename_i ht
        rw [ht, hsome, Option.map_some, Option.filter_some, Bool.eq_false_iff.2 hempty]
        rfl
      · rfl

theorem lists_unlink :
    (ix.unlink source target).Lists t k ↔ ix.Lists t k ∧ ¬ (t = target ∧ k = source) := by
  unfold Lists
  rw [get?_unlink]
  by_cases ht : t = target
  · rw [if_pos ht]
    rcases hget : ix.get? t with - | sources
    · exact ⟨fun h => absurd h (SortedSet.not_mem_empty k),
        fun h => absurd h.1 (SortedSet.not_mem_empty k)⟩
    · have hrest : k ∈ sources.erase source ↔ k ∈ sources ∧ ¬ (t = target ∧ k = source) := by
        rw [SortedSet.mem_erase]
        simp [ht]
      -- an entry that has become empty is taken out, and lists nothing either way
      rw [Option.getD_some, ← hrest, Option.map_some, Option.filter_some]
      split
      · rfl
      · rename_i hempty
        refine ⟨fun h => absurd h (SortedSet.not_mem_empty k), fun h => ?_⟩
        rw [SortedSet.isEmpty_eq_false_iff.2 ⟨k, h⟩] at hempty
        exact absurd rfl hempty
  · rw [if_neg ht]
    simp [ht]

theorem filled_unlink (h : ix.Filled) : (ix.unlink source target).Filled := by
  intro t sources hget
  rw [get?_unlink] at hget
  split at hget
  · simpa using (Option.filter_eq_some_iff.1 hget).2
  · exact h t sources hget

/-! ## All references of an object -/

theorem lists_relink {before after : List ObjectKey} :
    (ix.relink source before after).Lists t k ↔
      (k = source ∧ t ∈ after) ∨ (ix.Lists t k ∧ ¬ (k = source ∧ t ∈ before)) := by
  have hunlink : ∀ (l : List ObjectKey) (ix : Index),
      (l.foldl (unlink source) ix).Lists t k ↔ ix.Lists t k ∧ ¬ (k = source ∧ t ∈ l) := by
    intro l
    induction l with
    | nil => simp
    | cons a rest ih =>
      intro ix
      rw [List.foldl_cons, ih, lists_unlink, List.mem_cons]
      tauto
  have hlink : ∀ (l : List ObjectKey) (ix : Index),
      (l.foldl (link source) ix).Lists t k ↔ (k = source ∧ t ∈ l) ∨ ix.Lists t k := by
    intro l
    induction l with
    | nil => simp
    | cons a rest ih =>
      intro ix
      rw [List.foldl_cons, ih, lists_link, List.mem_cons]
      tauto
  unfold relink
  rw [hlink, hunlink]

theorem filled_relink {before after : List ObjectKey} (h : ix.Filled) :
    (ix.relink source before after).Filled := by
  have hunlink : (before.foldl (unlink source) ix).Filled :=
    List.foldlRecOn before _ h fun _ h _ _ => filled_unlink h
  exact List.foldlRecOn after _ hunlink fun _ h _ _ => filled_link h

/-- Whether an index lists for every key just those that refer to it, and has no empty entries. -/
structure Reflects (ix : Index) (refers : ObjectKey → List ObjectKey) : Prop where
  lists : ∀ t k, ix.Lists t k ↔ t ∈ refers k
  filled : ix.Filled

variable {refers refers' : ObjectKey → List ObjectKey}

theorem Reflects.empty : Reflects ∅ fun _ => [] where
  lists t k := by
    refine ⟨fun h => absurd h (SortedSet.not_mem_empty k), fun h => by cases h⟩
  filled t sources h := by cases h

/-- An index goes on to reflect who refers to whom when one object comes to refer to others. -/
theorem Reflects.relink {after : List ObjectKey} (h : ix.Reflects refers)
    (hself : refers' source = after)
    (hothers : ∀ k, k ≠ source → refers' k = refers k) :
    (ix.relink source (refers source) after).Reflects refers' where
  lists t k := by
    rw [lists_relink, h.lists]
    by_cases hk : k = source
    · subst hk
      rw [hself]
      tauto
    · rw [hothers k hk]
      tauto
  filled := filled_relink h.filled

/-- Only one index reflects who refers to whom. -/
theorem Reflects.unique {ix' : Index} (h : ix.Reflects refers) (h' : ix'.Reflects refers) :
    ix = ix' := by
  have hmem : ∀ t k, k ∈ (ix.get? t).getD ∅ ↔ k ∈ (ix'.get? t).getD ∅ := fun t k =>
    (h.lists t k).trans (h'.lists t k).symm
  refine SortedMap.ext_get? fun t => ?_
  have hentry := hmem t
  -- an entry has some member, so neither index has one where the other has none
  rcases hget : ix.get? t with - | sources <;> rcases hget' : ix'.get? t with - | sources'
  · rfl
  · obtain ⟨k, hk⟩ := SortedSet.isEmpty_eq_false_iff.1 (h'.filled t sources' hget')
    rw [hget, hget'] at hentry
    exact absurd ((hentry k).2 hk) (SortedSet.not_mem_empty k)
  · obtain ⟨k, hk⟩ := SortedSet.isEmpty_eq_false_iff.1 (h.filled t sources hget)
    rw [hget, hget'] at hentry
    exact absurd ((hentry k).1 hk) (SortedSet.not_mem_empty k)
  · rw [hget, hget'] at hentry
    exact congrArg some (SortedSet.ext_mem hentry)

end RelayFleet.Index
