/-
How long an attempt is repeated. In any surroundings attempts are made up to the first one that
succeeds or fails for good, or up to the last one there is, and what that one comes to is the result
(`run_repeating`). So with the outcomes of all attempts laid down beforehand, transient faults and
conflicts are retried up to the same kind of call, the first one that settles the matter or the last
one of the budget, and no call is made after it (`ends_in_time`).
-/
import RelayFleet.Proofs.Retry

namespace RelayFleet.Retry

open Program

/-- Whether what an attempt came to leaves nothing to be tried again. -/
def Final {α : Type} (again : Fault → Bool) (result : Except Fault α) : Prop :=
  ∀ f, result = .error f → again f = false

theorem not_final_iff {α : Type} {again : Fault → Bool} {result : Except Fault α} :
    ¬ Final again result ↔ ∃ f, result = .error f ∧ again f = true := by
  unfold Final
  push Not
  simp only [Bool.not_eq_false]

/-! ## Attempts in their surroundings -/

section

variable {ι : Type} {ρ : ι → Type} {α σ : Type}

theorem exchanges_bind {β : Type} (h : Handler ι ρ σ) (p : Program ι ρ α) (f : α → Program ι ρ β)
    (s : σ) : (p >>= f).exchanges h s =
      p.exchanges h s ++ (f (p.run h s).1).exchanges h (p.run h s).2 := by
  induction p generalizing s with
  | done a => rfl
  | ask i next ih => exact congrArg (List.cons _) (ih (h i s).1 (h i s).2)

variable (h : Handler ι ρ σ) {attempt : Program ι ρ (Except Fault α)} {again : Fault → Bool}
  {left : Nat} {wait : Nat → Program ι ρ Unit} {s : σ}

/-- An attempt that settles the matter is the last one. -/
theorem run_repeating_of_final (hfinal : Final again (attempt.run h s).1) :
    (repeating again wait left attempt).run h s = attempt.run h s ∧
      (repeating again wait left attempt).exchanges h s = attempt.exchanges h s := by
  cases left with
  | zero => exact ⟨rfl, rfl⟩
  | succ left =>
    rw [repeating, run_bind, exchanges_bind]
    rcases hresult : attempt.run h s with ⟨a | f, t⟩
    · dsimp only
      rw [hresult] at hfinal
      rw [if_neg (Bool.eq_false_iff.1 (hfinal a rfl))]
      exact ⟨rfl, List.append_nil _⟩
    · exact ⟨rfl, List.append_nil _⟩

/-- After an attempt that leaves something to be tried again there is a pause, and what is left of
the attempts. -/
theorem run_repeating_of_not_final (hagain : ¬ Final again (attempt.run h s).1) :
    (repeating again wait (left + 1) attempt).run h s =
        (repeating again (fun i => wait (i + 1)) left attempt).run h
          ((wait 0).run h (attempt.run h s).2).2 ∧
      (repeating again wait (left + 1) attempt).exchanges h s =
        attempt.exchanges h s ++ ((wait 0).exchanges h (attempt.run h s).2 ++
          (repeating again (fun i => wait (i + 1)) left attempt).exchanges h
            ((wait 0).run h (attempt.run h s).2).2) := by
  obtain ⟨f, hf, hagain⟩ := not_final_iff.1 hagain
  rw [repeating, run_bind, exchanges_bind, hf]
  dsimp only
  rw [if_pos hagain, run_bind, exchanges_bind]
  exact ⟨rfl, rfl⟩

variable (attempt)

/-- The surroundings after a number of attempts, each with the pause behind it. -/
def later : (wait : Nat → Program ι ρ Unit) → σ → Nat → σ
  | _, s, 0 => s
  | wait, s, n + 1 => later (fun i => wait (i + 1)) ((wait 0).run h (attempt.run h s).2).2 n

/-- What is exchanged in a number of attempts, each with the pause behind it. -/
def exchanged : (wait : Nat → Program ι ρ Unit) → σ → Nat → List (Exchange ι ρ)
  | _, _, 0 => []
  | wait, s, n + 1 =>
    attempt.exchanges h s ++ ((wait 0).exchanges h (attempt.run h s).2 ++
      exchanged (fun i => wait (i + 1)) ((wait 0).run h (attempt.run h s).2).2 n)

/-- The first attempt that settles the matter is the last one that is made, unless there are none
left before; its result is the result of all. -/
theorem run_repeating (again : Fault → Bool) (left : Nat) (wait : Nat → Program ι ρ Unit) (s : σ) :
    ∃ n, IsLeast {m | Final again (attempt.run h (later h attempt wait s m)).1 ∨ m = left} n ∧
      (repeating again wait left attempt).run h s = attempt.run h (later h attempt wait s n) ∧
      (repeating again wait left attempt).exchanges h s =
        exchanged h attempt wait s n ++ attempt.exchanges h (later h attempt wait s n) := by
  induction left generalizing wait s with
  | zero => exact ⟨0, ⟨.inr rfl, fun m _ => Nat.zero_le m⟩, rfl, rfl⟩
  | succ left ih =>
    by_cases hfinal : Final again (attempt.run h s).1
    · obtain ⟨hrun, hexchanges⟩ := run_repeating_of_final h hfinal
      exact ⟨0, ⟨.inl hfinal, fun m _ => Nat.zero_le m⟩, hrun, hexchanges⟩
    · obtain ⟨hrun, hexchanges⟩ := run_repeating_of_not_final h hfinal
      obtain ⟨n, ⟨hn, hleast⟩, hrest, hlog⟩ :=
        ih (fun i => wait (i + 1)) ((wait 0).run h (attempt.run h s).2).2
      refine ⟨n + 1, ⟨hn.imp_right (congrArg (· + 1)), fun m hm => ?_⟩, hrun.trans hrest, ?_⟩
      · cases m with
        | zero => exact absurd hm (by rintro (h | h); exacts [hfinal h, by cases h])
        | succ m => exact Nat.succ_le_succ (hleast (hm.imp_right Nat.succ_injective.eq_iff.1))
      · rw [hexchanges, hlog]
        simp only [exchanged, later, List.append_assoc]

end

/-! ## Outcomes laid down beforehand -/

/-- What goes on while an attempt is repeated: it is made, or there is a pause after a number of
failures. -/
inductive Turn where
  | call
  | pause (failures : Nat)
deriving DecidableEq

/-- What comes back: the outcome of a call, and nothing from a pause. -/
abbrev Turn.Answer (α : Type) : Turn → Type
  | call => Except Fault α
  | pause _ => Unit

/-- The attempt that is one call. -/
def calling (α : Type) : Program Turn (Turn.Answer α) (Except Fault α) := call Turn.call

/-- The pause after a number of failures. -/
def pausing (α : Type) (failures : Nat) : Program Turn (Turn.Answer α) Unit :=
  call (Turn.pause failures)

/-- Surroundings that count the calls and answer each with its place in a sequence of outcomes, the
first call with the first one. -/
def inTurn {α : Type} (outcome : Nat → Except Fault α) : Handler Turn (Turn.Answer α) Nat
  | .call, made => (outcome (made + 1), made + 1)
  | .pause _, made => ((), made)

/-- Whether a call is the last one of a budget: the first one that settles the matter, or the last
one there is. One call is made in any case. -/
def LastCall {α : Type} (again : Fault → Bool) (attempts : Nat) (outcome : Nat → Except Fault α)
    (k : Nat) : Prop :=
  IsLeast {j | 1 ≤ j ∧ (Final again (outcome j) ∨ j = max attempts 1)} k

section

variable {α : Type} (outcome : Nat → Except Fault α)

/-- A call with its outcome. -/
def called (k : Nat) : Exchange Turn (Turn.Answer α) := ⟨.call, outcome k⟩

/-- So many calls in turn, with what is exchanged between each and the next one. -/
def callsWith (between : Nat → List (Exchange Turn (Turn.Answer α))) (k : Nat) :
    List (Exchange Turn (Turn.Answer α)) :=
  (List.range (k - 1)).flatMap (fun i => called outcome (i + 1) :: between i) ++ [called outcome k]

/-- Whether pauses make no call, and exchange this. -/
def Idle (wait : Nat → Program Turn (Turn.Answer α) Unit)
    (between : Nat → List (Exchange Turn (Turn.Answer α))) : Prop :=
  ∀ i made, ((wait i).run (inTurn outcome) made).2 = made ∧
    (wait i).exchanges (inTurn outcome) made = between i

variable {outcome} {wait : Nat → Program Turn (Turn.Answer α) Unit}
  {between : Nat → List (Exchange Turn (Turn.Answer α))}

theorem Idle.tail (hidle : Idle outcome wait between) :
    Idle outcome (fun i => wait (i + 1)) fun i => between (i + 1) := fun i => hidle (i + 1)

theorem later_inTurn (hidle : Idle outcome wait between) (made n : Nat) :
    later (inTurn outcome) (calling α) wait made n = made + n := by
  induction n generalizing wait between made with
  | zero => rfl
  | succ n ih =>
    rw [later, (hidle 0 _).1, ih hidle.tail]
    exact Nat.add_right_comm made 1 n

theorem exchanged_inTurn (hidle : Idle outcome wait between) (made n : Nat) :
    exchanged (inTurn outcome) (calling α) wait made n =
      (List.range n).flatMap fun i => called outcome (made + i + 1) :: between i := by
  induction n generalizing wait between made with
  | zero => rfl
  | succ n ih =>
    rw [exchanged, (hidle 0 _).1, (hidle 0 _).2, ih hidle.tail, List.range_succ_eq_map,
      List.flatMap_cons, List.flatMap_map]
    refine congrArg (called outcome (made + 1) :: ·) (congrArg (between 0 ++ ·) ?_)
    refine List.flatMap_congr fun i _ => ?_
    show called outcome (made + 1 + i + 1) :: _ = called outcome (made + (i + 1) + 1) :: _
    rw [Nat.add_right_comm made 1 i, ← Nat.add_assoc made i 1]

/-- Of outcomes laid down beforehand, the last call takes the one of its place. -/
theorem ends_repeating (hidle : Idle outcome wait between) (again : Fault → Bool) (attempts : Nat) :
    ∃ k, LastCall again attempts outcome k ∧
      (repeating again wait (attempts - 1) (calling α)).run (inTurn outcome) 0 = (outcome k, k) ∧
      (repeating again wait (attempts - 1) (calling α)).exchanges (inTurn outcome) 0 =
        callsWith outcome between k := by
  obtain ⟨n, ⟨hn, hleast⟩, hrun, hlog⟩ :=
    run_repeating (inTurn outcome) (calling α) again (attempts - 1) wait 0
  have hcall : ∀ m, (calling α).run (inTurn outcome)
      (later (inTurn outcome) (calling α) wait 0 m) = (outcome (m + 1), m + 1) := fun m => by
    rw [later_inTurn hidle, Nat.zero_add]
    rfl
  refine ⟨n + 1, ⟨⟨n.succ_pos, ?_⟩, fun j ⟨hpos, hj⟩ => ?_⟩, hrun.trans (hcall n), ?_⟩
  · rcases hn with hfinal | rfl
    · rw [hcall] at hfinal
      exact .inl hfinal
    · exact .inr (by omega)
  · obtain ⟨m, rfl⟩ := Nat.exists_eq_succ_of_ne_zero (Nat.pos_iff_ne_zero.1 hpos)
    refine Nat.succ_le_succ (hleast (hj.imp (fun hfinal => ?_) fun hm => by omega))
    rw [hcall]
    exact hfinal
  · rw [hlog, exchanged_inTurn hidle, later_inTurn hidle]
    simp only [Nat.zero_add]
    rfl

/-- Whatever the calls come to, both ways of repeating them end with the first call that settles the
matter or with the last one of the budget, and with what that one comes to. A success settles it,
and so does a fault that no other attempt may help, where the transient ones are retried, and any
fault but a conflict, where the conflicts are. There is one pause after every transient fault that
is retried, and none after a conflict. -/
theorem ends_in_time (attempts : Nat) (outcome : Nat → Except Fault α) :
    (∃ k, LastCall Fault.isRetryable attempts outcome k ∧
      (transient attempts (pausing α) (calling α)).run (inTurn outcome) 0 = (outcome k, k) ∧
      (transient attempts (pausing α) (calling α)).exchanges (inTurn outcome) 0 =
        callsWith outcome (fun i => [⟨.pause i, ()⟩]) k) ∧
    ∃ k, LastCall Fault.isConflict attempts outcome k ∧
      (onConflict attempts (calling α)).run (inTurn outcome) 0 = (outcome k, k) ∧
      (onConflict attempts (calling α)).exchanges (inTurn outcome) 0 =
        callsWith outcome (fun _ => []) k :=
  ⟨ends_repeating (fun _ _ => ⟨rfl, rfl⟩) _ _, ends_repeating (fun _ _ => ⟨rfl, rfl⟩) _ _⟩

-- the third call succeeds, and a fourth one is not made
example : (onConflict 5 (calling Nat)).run
    (inTurn fun k => if k < 3 then .error (.conflict "Gateway/a/g" "stale") else .ok k) 0 =
      (.ok 3, 3) := rfl

end

end RelayFleet.Retry
