/-
Merge patches of JSON values. A patch that is an object changes the members that it names: null takes
a member away, an object is merged into the member, and anything else, a list too, takes its place as
a whole. The members that it does not name stay as they are. Main statements: `get?_patched` and
`get?_patched_of_not_mem`.
-/
import RelayFleet.Json.Equality
import RelayFleet.Json.Record
import Mathlib.Tactic

namespace RelayFleet.Json

mutual

/-- What a patch makes of a value. -/
def patched : (patch : Json) → (target : Json) → Json
  | .obj ms, target => .obj (patchedMembers ms target.members)
  | patch, _ => patch

/-- What the members of a patch make of members, one after the other. -/
def patchedMembers : (patch : List (String × Json)) → List (String × Json) → List (String × Json)
  | [], members => members
  | (name, patch) :: rest, members =>
    patchedMembers rest <| members.filter (·.1 ≠ name) ++
      if patch = .null then [] else [(name, patched patch (((obj members).get? name).getD .null))]

end

/-! ## Members by name -/

theorem get?_eq (j : Json) (name : String) :
    j.get? name = ((j.members.reverse.find? (·.1 == name)).map (·.2)).filter (· ≠ .null) := by
  unfold get?
  generalize j.members.reverse.find? (·.1 == name) = m
  rcases m with - | ⟨n, v⟩
  · rfl
  · cases v <;> rfl

theorem get?_ne_null {j v : Json} {name : String} (h : j.get? name = some v) : v ≠ .null := by
  rw [get?_eq, Option.filter_eq_some_iff] at h
  exact of_decide_eq_true h.2

theorem get?_without (members : List (String × Json)) (n name : String) :
    (obj (members.filter (·.1 ≠ n))).get? name =
      if name = n then none else (obj members).get? name := by
  rw [get?_eq, get?_eq]
  show (((members.filter _).reverse.find? _).map _).filter _ = _
  rw [← List.filter_reverse, List.find?_filter]
  split
  · rename_i hn
    rw [List.find?_eq_none.2 fun m _ => by simp [hn]]
    rfl
  · rename_i hn
    congr 3
    funext m
    by_cases hm : m.1 = name <;> simp [hm, hn]

theorem get?_concat (members : List (String × Json)) {n : String} {v : Json} (hv : v ≠ .null)
    (name : String) :
    (obj (members ++ [(n, v)])).get? name = if name = n then some v else (obj members).get? name := by
  rw [get?_eq, get?_eq]
  show (((members ++ [(n, v)]).reverse.find? _).map _).filter _ = _
  rw [List.reverse_append, List.reverse_singleton, List.singleton_append, List.find?_cons]
  by_cases hn : n = name
  · rw [if_pos hn.symm, beq_iff_eq.2 hn]
    exact Option.filter_some_pos (decide_eq_true hv)
  · rw [if_neg (Ne.symm hn), beq_eq_false_iff_ne.2 hn]
    rfl

theorem patched_ne_null {patch : Json} (h : patch ≠ .null) (target : Json) :
    patched patch target ≠ .null := by
  cases patch <;> simp_all [patched]

/-! ## What a patch changes -/

variable {ms : List (String × Json)} {name : String} {v : Json}

theorem get?_patchedMember (members : List (String × Json)) (n : String) (patch : Json)
    (name : String) :
    (obj (members.filter (·.1 ≠ n) ++
      if patch = .null then [] else
        [(n, patched patch (((obj members).get? n).getD .null))])).get? name =
      if name = n then
        if patch = .null then none else some (patched patch (((obj members).get? n).getD .null))
      else (obj members).get? name := by
  by_cases hnull : patch = .null
  · rw [if_pos hnull, List.append_nil, get?_without, if_pos hnull]
  · rw [if_neg hnull, get?_concat _ (patched_ne_null hnull _), get?_without, if_neg hnull]
    split <;> rfl

theorem get?_patchedMembers_of_not_mem (h : name ∉ ms.map (·.1)) (members : List (String × Json)) :
    (obj (patchedMembers ms members)).get? name = (obj members).get? name := by
  induction ms generalizing members with
  | nil => rw [patchedMembers]
  | cons m rest ih =>
    obtain ⟨n, patch⟩ := m
    rw [List.map_cons, List.mem_cons, not_or] at h
    rw [patchedMembers, ih h.2, get?_patchedMember, if_neg h.1]

/-- What a patch does not name stays as it is. -/
theorem get?_patched_of_not_mem (h : name ∉ ms.map (·.1)) (target : Json) :
    (patched (.obj ms) target).get? name = target.get? name := by
  rw [patched]
  exact get?_patchedMembers_of_not_mem h _

/-- What a patch names is patched by what it says of it. -/
theorem get?_patched (hnodup : (ms.map (·.1)).Nodup) (h : (name, v) ∈ ms) (target : Json) :
    (patched (.obj ms) target).get? name =
      if v = .null then none else some (patched v ((target.get? name).getD .null)) := by
  rw [patched]
  show _ = if v = .null then none else
    some (patched v (((obj target.members).get? name).getD .null))
  generalize target.members = members
  induction ms generalizing members with
  | nil => cases h
  | cons m rest ih =>
    obtain ⟨n, patch⟩ := m
    obtain ⟨hn, hrest⟩ := List.nodup_cons.1 hnodup
    rw [patchedMembers]
    rcases List.mem_cons.1 h with he | hmem
    · cases he
      rw [get?_patchedMembers_of_not_mem hn, get?_patchedMember, if_pos rfl]
    · have hne : name ≠ n := by
        rintro rfl
        exact hn (List.mem_map.2 ⟨_, hmem, rfl⟩)
      rw [ih hrest hmem, get?_patchedMember, if_neg hne]

end RelayFleet.Json
