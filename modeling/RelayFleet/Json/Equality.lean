/-
Equality of JSON values is decided member by member. Main statement: `same_iff`.
-/
import RelayFleet.Json.Basic

namespace RelayFleet.Json

mutual

/-- Whether two values are the same. -/
def same : Json → Json → Bool
  | .null, .null => true
  | .bool a, .bool b => a == b
  | .int a, .int b => a == b
  | .real a, .real b => a == b
  | .str a, .str b => a == b
  | .arr a, .arr b => sameItems a b
  | .obj a, .obj b => sameMembers a b
  | .unreadable, .unreadable => true
  | _, _ => false

/-- Whether two lists hold the same values. -/
def sameItems : List Json → List Json → Bool
  | [], [] => true
  | a :: l, b :: r => same a b && sameItems l r
  | _, _ => false

/-- Whether two lists hold the same members. -/
def sameMembers : List (String × Json) → List (String × Json) → Bool
  | [], [] => true
  | (n, a) :: l, (m, b) :: r => n == m && same a b && sameMembers l r
  | _, _ => false

end

mutual

theorem same_iff : ∀ a b : Json, same a b = true ↔ a = b
  | .arr a, .arr b => by simp [same, sameItems_iff a b]
  | .obj a, .obj b => by simp [same, sameMembers_iff a b]
  | .null, b => by cases b <;> simp [same]
  | .bool a, b => by cases b <;> simp [same]
  | .int a, b => by cases b <;> simp [same]
  | .real a, b => by cases b <;> simp [same]
  | .str a, b => by cases b <;> simp [same]
  | .unreadable, b => by cases b <;> simp [same]
  | .arr a, .null | .arr a, .bool _ | .arr a, .int _ | .arr a, .real _ | .arr a, .str _
  | .arr a, .obj _ | .arr a, .unreadable => by simp [same]
  | .obj a, .null | .obj a, .bool _ | .obj a, .int _ | .obj a, .real _ | .obj a, .str _
  | .obj a, .arr _ | .obj a, .unreadable => by simp [same]

theorem sameItems_iff : ∀ a b : List Json, sameItems a b = true ↔ a = b
  | [], b => by cases b <;> simp [sameItems]
  | a :: l, [] => by simp [sameItems]
  | a :: l, b :: r => by simp [sameItems, same_iff a b, sameItems_iff l r]

theorem sameMembers_iff : ∀ a b : List (String × Json), sameMembers a b = true ↔ a = b
  | [], b => by cases b <;> simp [sameMembers]
  | a :: l, [] => by simp [sameMembers]
  | (n, a) :: l, (m, b) :: r => by
    simp [sameMembers, same_iff a b, sameMembers_iff l r, and_assoc]

end

instance : DecidableEq Json := fun a b => decidable_of_iff _ (same_iff a b)

end RelayFleet.Json
