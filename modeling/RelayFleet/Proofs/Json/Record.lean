/-
Records are read as they were written: lists item by item, numbers within their bounds, and the
members of an object by their names, with nothing for what was left out.
-/
import RelayFleet.Json.Record
import Mathlib.Data.List.Basic

namespace RelayFleet.Json

/-! ## Plain values -/

theorem intIn?_int {low high n : Int} (hlow : low ≤ n) (hhigh : n ≤ high) :
    (int n).intIn? low high = some n :=
  if_pos ⟨hlow, hhigh⟩

theorem natUpTo?_nat {high n : Nat} (h : n ≤ high) : (nat n).natUpTo? high = some n := by
  rw [natUpTo?, nat, intIn?_int (Int.natCast_nonneg n) (Int.ofNat_le.2 h), Option.map_some,
    Int.toNat_natCast]

theorem word16?_nat (n : UInt16) : (nat n.toNat).word16? = some n := by
  have hbound : n.toNat ≤ 0xFFFF := Nat.le_of_lt_succ n.toNat_lt
  rw [word16?, natUpTo?_nat hbound, Option.map_some, UInt16.ofNat_toNat]

theorem word64?_nat (n : UInt64) : (nat n.toNat).word64? = some n.toNat :=
  natUpTo?_nat (Nat.le_of_lt_succ n.toNat_lt)

theorem int32?_int (n : Int32) : (int n.toInt).int32? = some n := by
  have hlow := n.le_toInt
  have hhigh := n.toInt_lt
  rw [int32?, intIn?_int (by omega) (by omega), Option.map_some, Int32.ofInt_toInt]

theorem int64?_int (n : Int64) : (int n.toInt).int64? = some n := by
  have hlow := n.le_toInt
  have hhigh := n.toInt_lt
  rw [int64?, intIn?_int (by omega) (by omega), Option.map_some, Int64.ofInt_toInt]

theorem mapM_map_some {α β : Type} {f : α → β} {g : β → Option α} {l : List α}
    (h : ∀ a ∈ l, g (f a) = some a) : (l.map f).mapM g = some l := by
  induction l with
  | nil => rfl
  | cons a l ih =>
    obtain ⟨ha, hl⟩ := List.forall_mem_cons.1 h
    rw [List.map_cons, List.mapM_cons, ha, ih hl]
    rfl

theorem list?_map {α : Type} {item? : Json → Option α} {f : α → Json} {l : List α}
    (h : ∀ a ∈ l, item? (f a) = some a) : list? item? (.arr (l.map f)) = some l :=
  mapM_map_some h

/-! ## Members -/

theorem filter_fst_eq {α : Type} {l : List (String × α)} {m : String × α}
    (hnodup : (l.map (·.1)).Nodup) (h : m ∈ l) : l.filter (·.1 == m.1) = [m] := by
  induction l with
  | nil => cases h
  | cons x l ih =>
    obtain ⟨hx, hl⟩ := List.nodup_cons.1 hnodup
    rw [List.filter_cons]
    rcases List.mem_cons.1 h with rfl | hm
    · have hnil : l.filter (·.1 == m.1) = [] := by
        refine List.filter_eq_nil_iff.2 fun y hy hname => hx ?_
        exact List.mem_map.2 ⟨y, hy, beq_iff_eq.1 hname⟩
      rw [if_pos (beq_self_eq_true _), hnil]
    · have hne : ¬ (x.1 == m.1) = true := by
        intro hname
        exact hx (List.mem_map.2 ⟨m, hm, (beq_iff_eq.1 hname).symm⟩)
      rw [if_neg hne, ih hl hm]

/-- A member is found by its name, unless it was left out. -/
theorem onlyMember?_filterMap {fields : List (String × Option Json)}
    (hnodup : (fields.map (·.1)).Nodup) {m : String × Option Json} (h : m ∈ fields) :
    onlyMember? (fields.filterMap fun x => x.2.map (x.1, ·)) m.1 = some m.2 := by
  have hone : (fields.filterMap fun x => x.2.map (x.1, ·)).filter (·.1 == m.1) =
      (m.2.map (m.1, ·)).toList := by
    have hfields : (fun x : String × Option Json => (x.2.map (x.1, ·)).filter (·.1 == m.1)) =
        fun x => if (x.1 == m.1) = true then x.2.map (x.1, ·) else none := by
      funext ⟨name, value⟩
      cases value with
      | none => exact (ite_self _).symm
      | some j => exact Option.filter_some
    rw [List.filter_filterMap, hfields, ← List.filterMap_filter, filter_fst_eq hnodup h]
    rcases m with ⟨name, - | j⟩ <;> rfl
  rw [onlyMember?, hone]
  cases m.2 <;> rfl

/-- A record is read by the names of its members, in their order. -/
theorem strict?_present {fields : List (String × Option Json)} {names : List String}
    (hnames : fields.map (·.1) = names) (hnodup : names.Nodup) :
    (present fields).strict? names = some (fields.map (·.2)) := by
  subst hnames
  have hall : ∀ l : List (String × Option Json), (∀ m ∈ l, m ∈ fields) →
      (l.map (·.1)).mapM (onlyMember? (fields.filterMap fun x => x.2.map (x.1, ·))) =
        some (l.map (·.2)) := by
    intro l hl
    induction l with
    | nil => rfl
    | cons m l ih =>
      obtain ⟨hm, hrest⟩ := List.forall_mem_cons.1 hl
      rw [List.map_cons, List.mapM_cons, onlyMember?_filterMap hnodup hm, ih hrest]
      rfl
  exact hall fields fun _ hm => hm

theorem strict?_obj {ms : List (String × Json)} {names : List String}
    (hnames : ms.map (·.1) = names) (hnodup : names.Nodup) :
    (obj ms).strict? names = some (ms.map fun m => some m.2) := by
  have hpresent : obj ms = present (ms.map fun m => (m.1, some m.2)) := by
    rw [present, List.filterMap_map]
    exact congrArg obj List.filterMap_some.symm
  have hsame : (ms.map fun m => (m.1, some m.2)).map (·.1) = names := by
    rw [List.map_map, ← hnames]
    rfl
  rw [hpresent, strict?_present hsame hnodup, List.map_map]
  rfl

/-- A member that may be absent is read as it was written. -/
theorem optional_map {α : Type} {value? : Json → Option α} {f : α → Json} {o : Option α}
    (hnull : ∀ a, f a ≠ .null) (h : ∀ a ∈ o, value? (f a) = some a) :
    optional value? (o.map f) = some o := by
  cases o with
  | none => rfl
  | some a =>
    rw [Option.map_some]
    unfold optional
    split
    · rename_i hnone
      cases hnone
    · rename_i hsome
      exact absurd (Option.some.inj hsome) (hnull a)
    · rename_i hsome
      rw [← Option.some.inj hsome, h a rfl]
      rfl

/-- A text that may be absent is read as it was written. -/
theorem optional_text (o : Option String) : optional text? (o.map .str) = some o :=
  optional_map (by rintro _ ⟨⟩) fun _ _ => rfl

end RelayFleet.Json
