/-
Programs that ask their surroundings. A program is done, or it makes a call and goes on according to
the answer. What a call does is left open, so one program can be run against a recorder, against a
cluster, or step by step among other programs, and what it asks can be stated without saying who
answers. Main statements: programs form a lawful monad, and running one is a monad morphism.
-/
namespace RelayFleet

/-- A program that makes calls `ι`, is answered with `ρ`, and ends with a value of `α`. -/
inductive Program (ι : Type) (ρ : ι → Type) (α : Type) where
  | done (value : α)
  | ask (call : ι) (next : ρ call → Program ι ρ α)

namespace Program

variable {ι : Type} {ρ : ι → Type} {α β σ : Type}

/-- Goes on with the value of a program. -/
def bind : Program ι ρ α → (α → Program ι ρ β) → Program ι ρ β
  | done a, f => f a
  | ask i next, f => ask i fun r => (next r).bind f

instance : Monad (Program ι ρ) where
  pure := done
  bind := bind

/-- The program that makes one call. -/
def call (i : ι) : Program ι ρ (ρ i) := ask i done

theorem bind_done (p : Program ι ρ α) : p.bind done = p := by
  induction p with
  | done a => rfl
  | ask i next ih => exact congrArg (ask i) (funext ih)

theorem bind_assoc {γ : Type} (p : Program ι ρ α) (f : α → Program ι ρ β) (g : β → Program ι ρ γ) :
    (p.bind f).bind g = p.bind fun a => (f a).bind g := by
  induction p with
  | done a => rfl
  | ask i next ih => exact congrArg (ask i) (funext ih)

instance : LawfulMonad (Program ι ρ) :=
  LawfulMonad.mk' _ bind_done (fun _ _ => rfl) bind_assoc

/-! ## Running -/

/-- How calls are answered by surroundings with a state. -/
abbrev Handler (ι : Type) (ρ : ι → Type) (σ : Type) := (i : ι) → σ → ρ i × σ

/-- Runs a program to its end. -/
def run (h : Handler ι ρ σ) : Program ι ρ α → σ → α × σ
  | done a, s => (a, s)
  | ask i next, s => run h (next (h i s).1) (h i s).2

theorem run_bind (h : Handler ι ρ σ) (p : Program ι ρ α) (f : α → Program ι ρ β) (s : σ) :
    (p >>= f).run h s = (f (p.run h s).1).run h (p.run h s).2 := by
  induction p generalizing s with
  | done a => rfl
  | ask i next ih => exact ih (h i s).1 (h i s).2

/-- The calls of a program run to its end, in order. -/
def trace (h : Handler ι ρ σ) : Program ι ρ α → σ → List ι
  | done _, _ => []
  | ask i next, s => i :: trace h (next (h i s).1) (h i s).2

end Program

end RelayFleet
