/-
Laws of finite maps: the bindings of a map are what `get?` reads, so two maps that read the same are
the same, and what `filter`, `map` and `ofList` bind is told by `get?`.
-/
import RelayFleet.SortedMap
import Mathlib.Tactic

namespace RelayFleet.SortedMap

variable {κ α β : Type} [Ord κ]

theorem get?_empty (k : κ) : (∅ : SortedMap κ α).get? k = none := rfl

theorem contains_eq_false_iff {m : SortedMap κ α} {k : κ} :
    m.contains k = false ↔ m.get? k = none := by
  rw [contains, Option.isSome_eq_false_iff, Option.isNone_iff_eq_none]

theorem values_map (f : α → β) (m : SortedMap κ α) : (m.map f).values = m.values.map f := by
  simp [values, map, Function.comp_def]

/-- A fold over the values may leave out those that change nothing. -/
theorem foldl_values_filter {m : SortedMap κ α} {p : κ → α → Bool} {f : β → α → β}
    (h : ∀ k v b, p k v = false → f b v = b) (b : β) :
    (m.filter p).values.foldl f b = m.values.foldl f b := by
  have hlist : ∀ (l : List (κ × α)) (b : β),
      ((l.filter fun b => p b.1 b.2).map (·.2)).foldl f b = (l.map (·.2)).foldl f b := by
    intro l
    induction l with
    | nil => exact fun b => rfl
    | cons a rest ih =>
      intro b
      rw [List.filter_cons]
      split
      · exact ih _
      · rename_i hp
        rw [List.map_cons, List.foldl_cons, h a.1 a.2 b (by simpa using hp)]
        exact ih b
  exact hlist m.entries b

/-! ## Keys in order -/

variable [Std.TransOrd κ]

theorem ne_of_lt {a b : κ} (h : compare a b = .lt) : a ≠ b := by
  rintro rfl
  have heq : compare a a = .eq := Std.ReflCmp.compare_self
  rw [heq] at h
  cases h

theorem nodup_keys (m : SortedMap κ α) : m.keys.Nodup :=
  List.pairwise_map.2 (m.sorted.imp ne_of_lt)

theorem ext_bindings {l m : List (κ × α)} (hl : Bindings.Sorted l) (hm : Bindings.Sorted m)
    (h : ∀ b, b ∈ l ↔ b ∈ m) : l = m := by
  have hnodup : ∀ {l : List (κ × α)}, Bindings.Sorted l → l.Nodup :=
    fun hs => hs.imp fun hab e => ne_of_lt hab (congrArg Prod.fst e)
  have hperm : l.Perm m := (List.perm_ext_iff_of_nodup (hnodup hl) (hnodup hm)).2 h
  refine hperm.eq_of_pairwise (fun a b _ _ hab hba => ?_) hl hm
  rw [Std.OrientedCmp.gt_of_lt hab] at hba
  cases hba

/-! ## Bindings -/

variable [Std.LawfulEqOrd κ]

theorem bindings_get? {l : List (κ × α)} (hl : Bindings.Sorted l) (k : κ) (v : α) :
    Bindings.get? k l = some v ↔ (k, v) ∈ l := by
  induction l with
  | nil => simp [Bindings.get?]
  | cons b rest ih =>
    obtain ⟨hb, hrest⟩ := List.pairwise_cons.1 hl
    rw [Bindings.get?, List.mem_cons]
    by_cases hk : compare k b.1 = .eq
    · have hkb : k = b.1 := Std.LawfulEqCmp.eq_of_compare hk
      rw [if_pos hk]
      constructor
      · intro h
        exact .inl (by rw [hkb, ← Option.some.inj h])
      · rintro (h | h)
        · rw [← h]
        · exact absurd hkb.symm (ne_of_lt (hb _ h))
    · rw [if_neg hk, ih hrest]
      constructor
      · exact .inr
      · rintro (h | h)
        · exact absurd (by rw [← h]; exact Std.ReflCmp.compare_self) hk
        · exact h

theorem get?_eq_some_iff {m : SortedMap κ α} {k : κ} {v : α} :
    m.get? k = some v ↔ (k, v) ∈ m.toList :=
  bindings_get? m.sorted k v

theorem mem_keys_iff {m : SortedMap κ α} {k : κ} : k ∈ m.keys ↔ ∃ v, m.get? k = some v := by
  simp only [keys, List.mem_map, get?_eq_some_iff, toList]
  constructor
  · rintro ⟨b, hb, rfl⟩
    exact ⟨b.2, hb⟩
  · rintro ⟨v, hv⟩
    exact ⟨(k, v), hv, rfl⟩

theorem mem_values_iff {m : SortedMap κ α} {v : α} : v ∈ m.values ↔ ∃ k, m.get? k = some v := by
  simp only [values, List.mem_map, get?_eq_some_iff, toList]
  constructor
  · rintro ⟨b, hb, rfl⟩
    exact ⟨b.1, hb⟩
  · rintro ⟨k, hk⟩
    exact ⟨(k, v), hk, rfl⟩

/-! ## Extensionality -/

/-- Two maps that read the same under every key are the same map. -/
theorem ext_get? {m n : SortedMap κ α} (h : ∀ k, m.get? k = n.get? k) : m = n := by
  refine ext_entries (ext_bindings m.sorted n.sorted fun b => ?_)
  have := h b.1
  exact ⟨fun hb => get?_eq_some_iff.1 (this ▸ get?_eq_some_iff.2 hb),
    fun hb => get?_eq_some_iff.1 (this ▸ get?_eq_some_iff.2 hb)⟩

/-! ## Look-ups -/

theorem get?_insert (m : SortedMap κ α) (k k' : κ) (v : α) [DecidableEq κ] :
    (m.insert k v).get? k' = if k' = k then some v else m.get? k' := by
  split
  · rename_i h
    rw [h, get?_insert_self]
  · rename_i h
    exact get?_insert_of_ne m v h

omit [Std.TransOrd κ] in
theorem get?_erase (m : SortedMap κ α) (k k' : κ) [DecidableEq κ] :
    (m.erase k).get? k' = if k' = k then none else m.get? k' := by
  split
  · rename_i h
    rw [h, get?_erase_self]
  · rename_i h
    exact get?_erase_of_ne m h

/-- What a map reads after an insertion is what was inserted, or what it read before. -/
theorem get?_insert_cases {m : SortedMap κ α} {k k' : κ} {v x : α}
    (h : (m.insert k v).get? k' = some x) : k' = k ∧ x = v ∨ k' ≠ k ∧ m.get? k' = some x := by
  by_cases hk : k' = k
  · subst hk
    rw [get?_insert_self] at h
    exact .inl ⟨rfl, (Option.some.inj h).symm⟩
  · rw [get?_insert_of_ne m v hk] at h
    exact .inr ⟨hk, h⟩

omit [Std.TransOrd κ] in
/-- What a map reads after something was erased, it read before. -/
theorem get?_of_get?_erase {m : SortedMap κ α} {k k' : κ} {x : α}
    (h : (m.erase k).get? k' = some x) : k' ≠ k ∧ m.get? k' = some x := by
  by_cases hk : k' = k
  · subst hk
    rw [get?_erase_self] at h
    cases h
  · rw [get?_erase_of_ne m hk] at h
    exact ⟨hk, h⟩

theorem get?_filter (m : SortedMap κ α) (p : κ → α → Bool) (k : κ) :
    (m.filter p).get? k = (m.get? k).filter (p k) := by
  have hmem : ∀ v, (m.filter p).get? k = some v ↔ m.get? k = some v ∧ p k v = true := by
    intro v
    rw [get?_eq_some_iff, get?_eq_some_iff]
    exact List.mem_filter
  refine Option.ext fun v => ?_
  rw [hmem, Option.filter_eq_some_iff]

theorem get?_map (f : α → β) (m : SortedMap κ α) (k : κ) : (m.map f).get? k = (m.get? k).map f := by
  refine Option.ext fun v => ?_
  rw [get?_eq_some_iff, Option.map_eq_some_iff]
  simp only [map, toList, List.mem_map, Prod.mk.injEq, get?_eq_some_iff]
  constructor
  · rintro ⟨b, hb, rfl, rfl⟩
    exact ⟨b.2, hb, rfl⟩
  · rintro ⟨a, ha, rfl⟩
    exact ⟨(k, a), ha, rfl, rfl⟩

/-- The bindings whose values a function keeps, with what it makes of them. -/
def filterMap (f : α → Option β) (m : SortedMap κ α) : SortedMap κ β where
  entries := m.entries.filterMap fun b => (f b.2).map (b.1, ·)
  sorted := by
    refine List.pairwise_filterMap.2 (m.sorted.imp fun hab b hb b' hb' => ?_)
    obtain ⟨v, -, rfl⟩ := Option.map_eq_some_iff.1 hb
    obtain ⟨v', -, rfl⟩ := Option.map_eq_some_iff.1 hb'
    exact hab

theorem get?_filterMap (f : α → Option β) (m : SortedMap κ α) (k : κ) :
    (m.filterMap f).get? k = (m.get? k).bind f := by
  refine Option.ext fun v => ?_
  rw [get?_eq_some_iff, Option.bind_eq_some_iff]
  simp only [filterMap, toList, List.mem_filterMap, Option.map_eq_some_iff, Prod.mk.injEq,
    get?_eq_some_iff]
  constructor
  · rintro ⟨b, hb, v, hv, rfl, rfl⟩
    exact ⟨b.2, hb, hv⟩
  · rintro ⟨a, ha, hv⟩
    exact ⟨(k, a), ha, v, hv, rfl, rfl⟩

/-! ## Maps of lists -/

omit [Ord κ] [Std.TransOrd κ] [Std.LawfulEqOrd κ] in
/-- Bindings of different keys go on to have different keys where the keys go on to be told apart. -/
theorem nodup_keys_filterMap {κ' : Type} {l : List (κ × α)} {f : κ × α → Option (κ' × β)}
    {g : κ → κ'} (h : (l.map (·.1)).Nodup) (hg : Function.Injective g)
    (hf : ∀ b c, f b = some c → c.1 = g b.1) : ((l.filterMap f).map (·.1)).Nodup := by
  refine List.pairwise_map.2 (List.pairwise_filterMap.2 ((List.pairwise_map.1 h).imp ?_))
  intro b b' hne c hc c' hc' he
  rw [hf b c hc, hf b' c' hc'] at he
  exact hne (hg he)

theorem get?_foldl_insert {l : List (κ × α)} {m : SortedMap κ α} {k : κ} {v : α}
    (h : (l.foldl (fun m b => m.insert b.1 b.2) m).get? k = some v) :
    (k, v) ∈ l ∨ m.get? k = some v := by
  induction l generalizing m with
  | nil => exact .inr h
  | cons b rest ih =>
    rcases ih h with h | h
    · exact .inl (List.mem_cons_of_mem _ h)
    · rcases get?_insert_cases h with ⟨rfl, rfl⟩ | ⟨-, hold⟩
      · exact .inl (List.mem_cons_self ..)
      · exact .inr hold

/-- What the map of a list binds is in the list. -/
theorem mem_of_get?_ofList {l : List (κ × α)} {k : κ} {v : α} (h : (ofList l).get? k = some v) :
    (k, v) ∈ l := by
  rcases get?_foldl_insert h with h | h
  · exact h
  · cases h

/-- What the map of a list does not bind. -/
theorem get?_ofList_eq_none {l : List (κ × α)} {k : κ} (h : k ∉ l.map (·.1)) :
    (ofList l).get? k = none := by
  rcases hget : (ofList l).get? k with - | v
  · rfl
  · exact absurd (List.mem_map_of_mem (mem_of_get?_ofList hget)) h

/-- Of two lists, the bindings of the second one win. -/
theorem get?_ofList_append [DecidableEq κ] (l m : List (κ × α)) (k : κ) :
    (ofList (l ++ m)).get? k = ((ofList m).get? k).or ((ofList l).get? k) := by
  induction m using List.reverseRecOn with
  | nil => rw [List.append_nil]; rfl
  | append_singleton m b ih =>
    unfold ofList at ih ⊢
    rw [← List.append_assoc, List.foldl_append, List.foldl_append (l := m)]
    simp only [List.foldl_cons, List.foldl_nil, get?_insert, ih]
    split <;> rfl

/-- The map of a list without repeated keys binds what is in the list. -/
theorem get?_ofList_eq_some_iff [DecidableEq κ] {l : List (κ × α)} (h : (l.map (·.1)).Nodup) {k : κ}
    {v : α} : (ofList l).get? k = some v ↔ (k, v) ∈ l := by
  refine ⟨mem_of_get?_ofList, fun hmem => ?_⟩
  obtain ⟨before, after, rfl⟩ := List.append_of_mem hmem
  rw [List.map_append, List.map_cons, List.nodup_append, List.nodup_cons] at h
  have hbound : (ofList ([(k, v)] ++ after)).get? k = some v := by
    rw [get?_ofList_append, get?_ofList_eq_none h.2.1.1, Option.none_or]
    exact get?_insert_self _ _ _
  rw [get?_ofList_append, ← List.singleton_append, hbound, Option.some_or]

/-- The map of a function's graph over a list. -/
theorem get?_ofList_graph [DecidableEq κ] (f : κ → α) (l : List κ) (k : κ) :
    (ofList (l.map fun k => (k, f k))).get? k = if k ∈ l then some (f k) else none := by
  have hfold : ∀ (l : List κ) (m : SortedMap κ α),
      ((l.map fun k => (k, f k)).foldl (fun m b => m.insert b.1 b.2) m).get? k =
        if k ∈ l then some (f k) else m.get? k := by
    intro l
    induction l with
    | nil => simp
    | cons a rest ih =>
      intro m
      rw [List.map_cons, List.foldl_cons, ih, get?_insert]
      by_cases hk : k = a
      · simp [hk]
      · simp [hk]
  exact hfold l empty

end RelayFleet.SortedMap
