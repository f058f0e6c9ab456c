/-
Executions of attempts that are repeated: all attempts before the last one failed, and what is asked
is asked by an attempt or between two of them.
-/
import RelayFleet.Retry
import RelayFleet.Proofs.Program

namespace RelayFleet.Retry

open Program

variable {ι : Type} {ρ : ι → Type} {α : Type}

/-- Whatever goes on before the last attempt is done by attempts that failed and by pauses. -/
theorem runs_repeating {again : Fault → Bool} {attempt : Program ι ρ (Except Fault α)}
    {P : Exchange ι ρ → Prop} (ha : ∀ log f, Runs attempt log (.error f) → ∀ e ∈ log, P e) :
    ∀ {left : Nat} {wait : Nat → Program ι ρ Unit},
      (∀ n log u, Runs (wait n) log u → ∀ e ∈ log, P e) →
      ∀ {log : List (Exchange ι ρ)} {result : Except Fault α},
        Runs (repeating again wait left attempt) log result →
          ∃ before last, log = before ++ last ∧ Runs attempt last result ∧ ∀ e ∈ before, P e
  | 0, _, _, log, _, h => ⟨[], log, rfl, h, by simp⟩
  | left + 1, wait, hw, log, result, h => by
    obtain ⟨r, l₁, l₂, rfl, h₁, h₂⟩ := runs_bind_iff.1 h
    cases r with
    | ok a =>
      obtain ⟨rfl, rfl⟩ := runs_pure_iff.1 h₂
      exact ⟨[], l₁, by simp, h₁, by simp⟩
    | error f =>
      simp only at h₂
      split at h₂
      · obtain ⟨u, l₃, l₄, rfl, h₃, h₄⟩ := runs_bind_iff.1 h₂
        obtain ⟨before, last, rfl, hlast, hbefore⟩ :=
          runs_repeating ha (fun n => hw (n + 1)) h₄
        refine ⟨l₁ ++ (l₃ ++ before), last, by simp, hlast, fun e he => ?_⟩
        rcases List.mem_append.1 he with he | he
        · exact ha _ _ h₁ e he
        · rcases List.mem_append.1 he with he | he
          · exact hw 0 _ _ h₃ e he
          · exact hbefore e he
      · obtain ⟨rfl, rfl⟩ := runs_pure_iff.1 h₂
        exact ⟨[], l₁, by simp, h₁, by simp⟩

/-- The first attempt is the only one if it succeeds. -/
theorem runs_repeating_first {again : Fault → Bool} {wait : Nat → Program ι ρ Unit} {left : Nat}
    {attempt : Program ι ρ (Except Fault α)} {log : List (Exchange ι ρ)} {result : Except Fault α}
    (h : Runs (repeating again wait left attempt) log result) :
    ∃ first rest r, log = first ++ rest ∧ Runs attempt first r ∧
      ∀ a, r = .ok a → rest = [] ∧ result = .ok a := by
  cases left with
  | zero => exact ⟨log, [], result, (List.append_nil _).symm, h, fun a ha => ⟨rfl, ha⟩⟩
  | succ left =>
    obtain ⟨r, first, rest, rfl, hfirst, hrest⟩ := runs_bind_iff.1 h
    refine ⟨first, rest, r, rfl, hfirst, ?_⟩
    rintro a rfl
    exact runs_pure_iff.1 hrest

/-- Attempts that are repeated without a pause: some failed so that another was made, no more than
were left, and one was the last. -/
theorem runs_repeating_at_once {again : Fault → Bool} {attempt : Program ι ρ (Except Fault α)}
    {left : Nat} {log : List (Exchange ι ρ)} {result : Except Fault α}
    (h : Runs (repeating again (fun _ => pure ()) left attempt) log result) :
    ∃ (failed : List (List (Exchange ι ρ))) (last : List (Exchange ι ρ)),
      log = failed.flatten ++ last ∧ failed.length ≤ left ∧
      (∀ part ∈ failed, ∃ f, again f = true ∧ Runs attempt part (.error f)) ∧
      Runs attempt last result := by
  induction left generalizing log with
  | zero => exact ⟨[], log, rfl, le_rfl, by simp, h⟩
  | succ left ih =>
    obtain ⟨r, l₁, l₂, rfl, h₁, h₂⟩ := runs_bind_iff.1 h
    cases r with
    | ok a =>
      obtain ⟨rfl, rfl⟩ := runs_pure_iff.1 h₂
      exact ⟨[], l₁, by simp, by simp, by simp, h₁⟩
    | error f =>
      simp only at h₂
      split at h₂
      · rename_i hagain
        rw [pure_bind] at h₂
        obtain ⟨failed, last, rfl, hlength, hfailed, hlast⟩ := ih h₂
        refine ⟨l₁ :: failed, last, by simp, Nat.succ_le_succ hlength, fun part hpart => ?_, hlast⟩
        rcases List.mem_cons.1 hpart with rfl | hpart
        · exact ⟨f, hagain, h₁⟩
        · exact hfailed part hpart
      · obtain ⟨rfl, rfl⟩ := runs_pure_iff.1 h₂
        exact ⟨[], l₁, by simp, by simp, by simp, h₁⟩

theorem runs_repeating_of_ok {again : Fault → Bool} {wait : Nat → Program ι ρ Unit}
    {attempt : Program ι ρ (Except Fault α)} {log : List (Exchange ι ρ)} {a : α}
    (h : Runs attempt log (.ok a)) (left : Nat) :
    Runs (repeating again wait left attempt) log (.ok a) := by
  cases left with
  | zero => exact h
  | succ left => exact runs_bind_iff.2 ⟨_, log, [], (List.append_nil _).symm, h, runs_done _⟩

theorem asks_repeating_of_first {again : Fault → Bool} {wait : Nat → Program ι ρ Unit}
    {attempt : Program ι ρ (Except Fault α)} {log : List (Exchange ι ρ)} {i : ι}
    (h : Asks attempt log i) (left : Nat) : Asks (repeating again wait left attempt) log i := by
  cases left with
  | zero => exact h
  | succ left => exact asks_bind_iff.2 (.inl h)

/-- What is asked is asked by an attempt or by a pause. -/
theorem asks_repeating {again : Fault → Bool} {attempt : Program ι ρ (Except Fault α)} {i : ι} :
    ∀ {left : Nat} {wait : Nat → Program ι ρ Unit} {log : List (Exchange ι ρ)},
      Asks (repeating again wait left attempt) log i →
        ∃ before last, log = before ++ last ∧ (Asks attempt last i ∨ ∃ n, Asks (wait n) last i)
  | 0, _, log, h => ⟨[], log, rfl, .inl h⟩
  | left + 1, wait, log, h => by
    rcases asks_bind_iff.1 h with h | ⟨r, l₁, l₂, rfl, -, h⟩
    · exact ⟨[], log, rfl, .inl h⟩
    · cases r with
      | ok a => exact absurd h (not_asks_pure _)
      | error f =>
        simp only at h
        split at h
        · rcases asks_bind_iff.1 h with h | ⟨u, l₃, l₄, rfl, -, h⟩
          · exact ⟨l₁, l₂, rfl, .inr ⟨0, h⟩⟩
          · obtain ⟨before, last, rfl, hlast⟩ := asks_repeating h
            refine ⟨l₁ ++ (l₃ ++ before), last, by simp, hlast.imp_right ?_⟩
            rintro ⟨n, h⟩
            exact ⟨n + 1, h⟩
        · exact absurd h (not_asks_pure _)

end RelayFleet.Retry
