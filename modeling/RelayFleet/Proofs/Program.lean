/-
Executions of programs whose calls may be answered in any way. `Reaches p log q` says that `p`, its
calls answered as `log` tells, goes on as `q`; `Runs p log a` that it ends with `a`. An execution of
a sequence is an execution of its parts one after the other (`runs_bind_iff`), one that was
interrupted stands in one of them (`reaches_bind`), what it asks is asked by one of them
(`asks_bind_iff`), and every execution can be brought to an end (`exists_runs`).
-/
import RelayFleet.Program
import Mathlib.Tactic

namespace RelayFleet.Program

variable {ι : Type} {ρ : ι → Type} {α β γ : Type}

/-- A call with its answer. -/
abbrev Exchange (ι : Type) (ρ : ι → Type) := (i : ι) × ρ i

/-- The program goes on as another one after these exchanges. -/
inductive Reaches : Program ι ρ α → List (Exchange ι ρ) → Program ι ρ α → Prop
  | here (p : Program ι ρ α) : Reaches p [] p
  | ask {i : ι} {next : ρ i → Program ι ρ α} {r : ρ i} {log : List (Exchange ι ρ)}
      {q : Program ι ρ α} : Reaches (next r) log q → Reaches (.ask i next) (⟨i, r⟩ :: log) q

/-- The program ends with a value after these exchanges. -/
def Runs (p : Program ι ρ α) (log : List (Exchange ι ρ)) (a : α) : Prop := Reaches p log (.done a)

/-! ## One call at a time -/

theorem runs_done (a : α) : Runs (.done a : Program ι ρ α) [] a := .here _

theorem reaches_done_iff {a : α} {log : List (Exchange ι ρ)} {q : Program ι ρ α} :
    Reaches (.done a) log q ↔ log = [] ∧ q = .done a := by
  constructor
  · intro h
    cases h
    exact ⟨rfl, rfl⟩
  · rintro ⟨rfl, rfl⟩
    exact .here _

theorem runs_done_iff {a b : α} {log : List (Exchange ι ρ)} :
    Runs (.done a) log b ↔ log = [] ∧ b = a := by
  unfold Runs
  rw [reaches_done_iff, done.injEq]

theorem runs_pure_iff {a b : α} {log : List (Exchange ι ρ)} :
    Runs (pure a : Program ι ρ α) log b ↔ log = [] ∧ b = a := runs_done_iff

theorem runs_ask_iff {i : ι} {next : ρ i → Program ι ρ α} {log : List (Exchange ι ρ)} {a : α} :
    Runs (.ask i next) log a ↔ ∃ r rest, log = ⟨i, r⟩ :: rest ∧ Runs (next r) rest a := by
  constructor
  · intro h
    cases h with
    | ask h => exact ⟨_, _, rfl, h⟩
  · rintro ⟨r, rest, rfl, h⟩
    exact .ask h

theorem runs_call_iff {i : ι} {log : List (Exchange ι ρ)} {r : ρ i} :
    Runs (.ask i .done) log r ↔ log = [⟨i, r⟩] := by
  rw [runs_ask_iff]
  constructor
  · rintro ⟨r', rest, rfl, h⟩
    obtain ⟨rfl, rfl⟩ := runs_done_iff.1 h
    rfl
  · rintro rfl
    exact ⟨r, [], rfl, runs_done r⟩

theorem Reaches.trans {p q r : Program ι ρ α} {l₁ l₂ : List (Exchange ι ρ)} (h₁ : Reaches p l₁ q)
    (h₂ : Reaches q l₂ r) : Reaches p (l₁ ++ l₂) r := by
  induction h₁ with
  | here => exact h₂
  | ask _ ih => exact .ask (ih h₂)

/-- An execution goes on by one call. -/
theorem Reaches.snoc {p : Program ι ρ α} {log : List (Exchange ι ρ)} {i : ι}
    {next : ρ i → Program ι ρ α} (h : Reaches p log (.ask i next)) (r : ρ i) :
    Reaches p (log ++ [⟨i, r⟩]) (next r) :=
  h.trans (.ask (.here _))

/-! ## Sequences -/

theorem reaches_bind_left {p q : Program ι ρ α} {log : List (Exchange ι ρ)} (h : Reaches p log q)
    (f : α → Program ι ρ β) : Reaches (p >>= f) log (q >>= f) := by
  induction h with
  | here => exact .here _
  | ask _ ih => exact .ask ih

/-- An interrupted sequence stands in its first part, or in its second after a run of the first. -/
theorem reaches_bind {p : Program ι ρ α} {f : α → Program ι ρ β} {log : List (Exchange ι ρ)}
    {q : Program ι ρ β} (h : Reaches (p >>= f) log q) :
    (∃ p', Reaches p log p' ∧ q = p' >>= f) ∨
      ∃ a l₁ l₂, log = l₁ ++ l₂ ∧ Runs p l₁ a ∧ Reaches (f a) l₂ q := by
  induction p generalizing log with
  | done a => exact .inr ⟨a, [], log, rfl, runs_done a, h⟩
  | ask i next ih =>
    cases h with
    | here => exact .inl ⟨_, .here _, rfl⟩
    | @ask _ _ r log _ h =>
      rcases ih r h with ⟨p', hp, hq⟩ | ⟨a, l₁, l₂, rfl, hp, hf⟩
      · exact .inl ⟨p', .ask hp, hq⟩
      · exact .inr ⟨a, ⟨i, r⟩ :: l₁, l₂, rfl, .ask hp, hf⟩

theorem runs_bind_iff {p : Program ι ρ α} {f : α → Program ι ρ β} {log : List (Exchange ι ρ)}
    {b : β} :
    Runs (p >>= f) log b ↔ ∃ a l₁ l₂, log = l₁ ++ l₂ ∧ Runs p l₁ a ∧ Runs (f a) l₂ b := by
  constructor
  · intro h
    rcases reaches_bind h with ⟨p', hp, hq⟩ | h
    · cases p' with
      | done a =>
        have hfa : f a = done b := hq.symm
        exact ⟨a, log, [], (List.append_nil _).symm, hp, by rw [hfa]; exact runs_done b⟩
      | ask i next => cases hq
    · exact h
  · rintro ⟨a, l₁, l₂, rfl, hp, hf⟩
    exact (reaches_bind_left hp f).trans hf

theorem runs_map_iff {p : Program ι ρ α} {f : α → β} {log : List (Exchange ι ρ)} {b : β} :
    Runs (f <$> p) log b ↔ ∃ a, Runs p log a ∧ b = f a := by
  rw [map_eq_pure_bind, runs_bind_iff]
  constructor
  · rintro ⟨a, l₁, l₂, rfl, hp, hf⟩
    obtain ⟨rfl, rfl⟩ := runs_pure_iff.1 hf
    exact ⟨a, by simpa using hp, rfl⟩
  · rintro ⟨a, hp, rfl⟩
    exact ⟨a, log, [], (List.append_nil _).symm, hp, runs_done _⟩

theorem runs_foldlM_nil_iff {f : β → α → Program ι ρ β} {b b' : β} {log : List (Exchange ι ρ)} :
    Runs (([] : List α).foldlM f b) log b' ↔ log = [] ∧ b' = b := by
  rw [List.foldlM_nil]
  exact runs_pure_iff

theorem runs_foldlM_cons_iff {f : β → α → Program ι ρ β} {a : α} {l : List α} {b b' : β}
    {log : List (Exchange ι ρ)} :
    Runs ((a :: l).foldlM f b) log b' ↔
      ∃ c l₁ l₂, log = l₁ ++ l₂ ∧ Runs (f b a) l₁ c ∧ Runs (l.foldlM f c) l₂ b' := by
  rw [List.foldlM_cons]
  exact runs_bind_iff

/-- A fold whose steps do nothing does nothing. -/
theorem foldlM_eq_pure {f : β → α → Program ι ρ β} {l : List α} {b : β}
    (h : ∀ a ∈ l, f b a = pure b) : l.foldlM f b = pure b := by
  induction l with
  | nil => rfl
  | cons a rest ih =>
    rw [List.foldlM_cons, h a (List.mem_cons_self ..), pure_bind]
    exact ih fun x hx => h x (List.mem_cons_of_mem _ hx)

/-- What every step of a fold preserves, the fold preserves. -/
theorem runs_foldlM_invariant {I : β → Prop} {f : β → α → Program ι ρ β} {l : List α}
    (hf : ∀ b, I b → ∀ a ∈ l, ∀ log c, Runs (f b a) log c → I c) {b b' : β}
    {log : List (Exchange ι ρ)} (hb : I b) (h : Runs (l.foldlM f b) log b') : I b' := by
  induction l generalizing b log with
  | nil =>
    rw [(runs_foldlM_nil_iff.1 h).2]
    exact hb
  | cons a rest ih =>
    obtain ⟨c, l₁, l₂, rfl, h₁, h₂⟩ := runs_foldlM_cons_iff.1 h
    exact ih (fun b hb x hx => hf b hb x (List.mem_cons_of_mem _ hx))
      (hf b hb a (List.mem_cons_self ..) l₁ c h₁) h₂

/-! ## All exchanges of an execution -/

theorem runs_done_forall {P : Exchange ι ρ → Prop} {a b : α} {log : List (Exchange ι ρ)}
    (h : Runs (.done a) log b) : ∀ e ∈ log, P e := by
  rw [(runs_done_iff.1 h).1]
  simp

/-- The calls of a sequence satisfy what the calls of its parts do. -/
theorem runs_bind_forall {P : Exchange ι ρ → Prop} {p : Program ι ρ α} {f : α → Program ι ρ β}
    (hp : ∀ log a, Runs p log a → ∀ e ∈ log, P e)
    (hf : ∀ a log b, Runs (f a) log b → ∀ e ∈ log, P e) {log : List (Exchange ι ρ)} {b : β}
    (h : Runs (p >>= f) log b) : ∀ e ∈ log, P e := by
  obtain ⟨a, l₁, l₂, rfl, h₁, h₂⟩ := runs_bind_iff.1 h
  intro e he
  rcases List.mem_append.1 he with he | he
  · exact hp l₁ a h₁ e he
  · exact hf a l₂ b h₂ e he

theorem runs_map_forall {P : Exchange ι ρ → Prop} {p : Program ι ρ α} {f : α → β}
    (hp : ∀ log a, Runs p log a → ∀ e ∈ log, P e) {log : List (Exchange ι ρ)} {b : β}
    (h : Runs (f <$> p) log b) : ∀ e ∈ log, P e := by
  obtain ⟨a, hrun, -⟩ := runs_map_iff.1 h
  exact hp log a hrun

theorem runs_foldlM_forall {P : Exchange ι ρ → Prop} {f : β → α → Program ι ρ β} {l : List α}
    (hf : ∀ b, ∀ a ∈ l, ∀ log c, Runs (f b a) log c → ∀ e ∈ log, P e) {b c : β}
    {log : List (Exchange ι ρ)} (h : Runs (l.foldlM f b) log c) : ∀ e ∈ log, P e := by
  induction l generalizing b log with
  | nil =>
    rw [(runs_foldlM_nil_iff.1 h).1]
    simp
  | cons a rest ih =>
    obtain ⟨c', l₁, l₂, rfl, h₁, h₂⟩ := runs_foldlM_cons_iff.1 h
    intro e he
    rcases List.mem_append.1 he with he | he
    · exact hf b a (List.mem_cons_self ..) l₁ c' h₁ e he
    · exact ih (fun b x hx => hf b x (List.mem_cons_of_mem _ hx)) h₂ e he

theorem runs_forM_forall {P : Exchange ι ρ → Prop} {f : α → Program ι ρ PUnit} {l : List α}
    (hf : ∀ a ∈ l, ∀ log u, Runs (f a) log u → ∀ e ∈ log, P e) {u : PUnit}
    {log : List (Exchange ι ρ)} (h : Runs (l.forM f) log u) : ∀ e ∈ log, P e := by
  induction l generalizing log with
  | nil => exact runs_done_forall h
  | cons a rest ih =>
    have h : Runs (f a >>= fun _ => rest.forM f) log u := h
    exact runs_bind_forall (hf a (List.mem_cons_self ..))
      (fun _ _ _ h => by
        exact ih (fun x hx => hf x (List.mem_cons_of_mem _ hx)) h) h

/-! ## Folds over keys -/

/-- A fold over different keys, of which every step changes the entry of its own key only, makes of
each entry what the step of its key does. -/
theorem runs_foldlM_keyed {σ κ ν : Type} {f : σ → β → Program ι ρ σ} (key : β → κ)
    (view : κ → σ → List (Exchange ι ρ) → ν) (P : β → ν → ν → List (Exchange ι ρ) → Prop)
    {l : List β} (hnodup : (l.map key).Nodup)
    (hframe : ∀ b ∈ l, ∀ s log s', Runs (f s b) log s' → ∀ before k, k ≠ key b →
      view k s' (before ++ log) = view k s before)
    (hstep : ∀ b ∈ l, ∀ s log s', Runs (f s b) log s' → ∀ before,
      P b (view (key b) s before) (view (key b) s' (before ++ log)) log)
    {s s' : σ} {log : List (Exchange ι ρ)} (h : Runs (l.foldlM f s) log s')
    (before : List (Exchange ι ρ)) :
    (∀ k, k ∉ l.map key → view k s' (before ++ log) = view k s before) ∧
      ∀ b ∈ l, ∃ part, (∀ e ∈ part, e ∈ log) ∧
        P b (view (key b) s before) (view (key b) s' (before ++ log)) part := by
  induction l generalizing s log before with
  | nil =>
    obtain ⟨rfl, rfl⟩ := runs_foldlM_nil_iff.1 h
    simp
  | cons a rest ih =>
    obtain ⟨c, l₁, l₂, rfl, h₁, h₂⟩ := runs_foldlM_cons_iff.1 h
    rw [List.map_cons, List.nodup_cons] at hnodup
    have hmem : ∀ b ∈ rest, b ∈ a :: rest := fun b hb => List.mem_cons_of_mem _ hb
    have ha : a ∈ a :: rest := List.mem_cons_self ..
    obtain ⟨hothers, hkeys⟩ := ih hnodup.2 (fun b hb => hframe b (hmem b hb))
      (fun b hb => hstep b (hmem b hb)) h₂ (before ++ l₁)
    rw [List.append_assoc] at hothers hkeys
    refine ⟨fun k hk => ?_, fun b hb => ?_⟩
    · rw [List.map_cons, List.mem_cons, not_or] at hk
      rw [hothers k hk.2]
      exact hframe a ha _ _ _ h₁ before k hk.1
    · rcases List.mem_cons.1 hb with rfl | hb
      · refine ⟨l₁, fun e he => List.mem_append_left l₂ he, ?_⟩
        rw [hothers _ hnodup.1]
        exact hstep b ha _ _ _ h₁ before
      · obtain ⟨part, hpart, hP⟩ := hkeys b hb
        have hne : key b ≠ key a := fun e => hnodup.1 (e ▸ List.mem_map_of_mem hb)
        rw [hframe a ha _ _ _ h₁ before _ hne] at hP
        exact ⟨part, fun e he => List.mem_append_right l₁ (hpart e he), hP⟩

/-! ## What is asked -/

/-- Whether a program has come to a call after these exchanges. -/
def Asks (p : Program ι ρ α) (log : List (Exchange ι ρ)) (i : ι) : Prop :=
  ∃ next, Reaches p log (.ask i next)

variable {i j : ι} {log : List (Exchange ι ρ)}

theorem not_asks_done (a : α) : ¬ Asks (.done a : Program ι ρ α) log i := by
  rintro ⟨next, h⟩
  cases (reaches_done_iff.1 h).2

theorem not_asks_pure (a : α) : ¬ Asks (pure a : Program ι ρ α) log i := not_asks_done a

/-- A program that has come to a call has not come to its end. -/
theorem Asks.not_runs {p : Program ι ρ α} (h : Asks p log i) (a : α) : ¬ Runs p log a := by
  obtain ⟨next, h⟩ := h
  generalize hq : Program.ask i next = q at h
  intro hrun
  induction h with
  | here =>
    subst hq
    cases hrun
  | ask _ ih =>
    cases hrun with
    | ask hrun => exact ih hq hrun

theorem asks_ask_iff {next : ρ i → Program ι ρ α} : Asks (.ask i next) log j ↔
    (log = [] ∧ j = i) ∨ ∃ r rest, log = ⟨i, r⟩ :: rest ∧ Asks (next r) rest j := by
  constructor
  · rintro ⟨next', h⟩
    cases h with
    | here => exact .inl ⟨rfl, rfl⟩
    | ask h => exact .inr ⟨_, _, rfl, _, h⟩
  · rintro (⟨rfl, rfl⟩ | ⟨r, rest, rfl, next', h⟩)
    · exact ⟨next, .here _⟩
    · exact ⟨next', .ask h⟩

theorem asks_call_iff : Asks (.ask i .done : Program ι ρ (ρ i)) log j ↔ log = [] ∧ j = i := by
  rw [asks_ask_iff, or_iff_left]
  rintro ⟨r, rest, -, h⟩
  exact not_asks_done r h

/-- A sequence asks what its first part asks, or after a run of that what its second part asks. -/
theorem asks_bind_iff {p : Program ι ρ α} {f : α → Program ι ρ β} : Asks (p >>= f) log i ↔
    Asks p log i ∨ ∃ a l₁ l₂, log = l₁ ++ l₂ ∧ Runs p l₁ a ∧ Asks (f a) l₂ i := by
  constructor
  · rintro ⟨next, h⟩
    rcases reaches_bind h with ⟨p', hp, hq⟩ | ⟨a, l₁, l₂, rfl, hp, hf⟩
    · cases p' with
      | done a =>
        have hfa : f a = .ask i next := hq.symm
        exact .inr ⟨a, log, [], (List.append_nil _).symm, hp, next, hfa ▸ .here _⟩
      | ask i' next' =>
        cases hq
        exact .inl ⟨next', hp⟩
    · exact .inr ⟨a, l₁, l₂, rfl, hp, next, hf⟩
  · rintro (⟨next, h⟩ | ⟨a, l₁, l₂, rfl, hp, next, hf⟩)
    · exact ⟨_, reaches_bind_left h f⟩
    · exact ⟨next, (reaches_bind_left hp f).trans hf⟩

theorem asks_map_iff {p : Program ι ρ α} {f : α → β} : Asks (f <$> p) log i ↔ Asks p log i := by
  rw [map_eq_pure_bind, asks_bind_iff, or_iff_left]
  rintro ⟨a, l₁, l₂, -, -, h⟩
  exact not_asks_pure _ h

/-- What a fold asks is asked by the step of one item, after those of the items before. -/
theorem asks_foldlM {f : β → α → Program ι ρ β} {l : List α} {b : β} (h : Asks (l.foldlM f b) log i) :
    ∃ before a after c l₁ l₂, l = before ++ a :: after ∧ log = l₁ ++ l₂ ∧
      Runs (before.foldlM f b) l₁ c ∧ Asks (f c a) l₂ i := by
  induction l generalizing b log with
  | nil => exact absurd h (not_asks_pure b)
  | cons a rest ih =>
    rw [List.foldlM_cons, asks_bind_iff] at h
    rcases h with h | ⟨c, l₁, l₂, rfl, hrun, h⟩
    · exact ⟨[], a, rest, b, [], log, rfl, rfl, runs_foldlM_nil_iff.2 ⟨rfl, rfl⟩, h⟩
    · obtain ⟨before, a', after, c', l₃, l₄, rfl, rfl, hruns, h⟩ := ih h
      exact ⟨a :: before, a', after, c', l₁ ++ l₃, l₄, rfl, (List.append_assoc ..).symm,
        runs_foldlM_cons_iff.2 ⟨c, l₁, l₃, rfl, hrun, hruns⟩, h⟩

/-- What a run asked, it had come to. -/
theorem Runs.asks {p : Program ι ρ α} {l₁ l₂ : List (Exchange ι ρ)} {r : ρ i} {a : α}
    (h : Runs p (l₁ ++ ⟨i, r⟩ :: l₂) a) : Asks p l₁ i := by
  induction l₁ generalizing p with
  | nil =>
    cases h with
    | ask _ => exact asks_ask_iff.2 (.inl ⟨rfl, rfl⟩)
  | cons e rest ih =>
    cases h with
    | ask h => exact asks_ask_iff.2 (.inr ⟨_, rest, rfl, ih h⟩)

/-- Two runs of a program are the same, or they differ first in how one call is answered. -/
theorem Runs.eq_or_differ {p : Program ι ρ α} {l₁ l₂ : List (Exchange ι ρ)} {a₁ a₂ : α}
    (h₁ : Runs p l₁ a₁) (h₂ : Runs p l₂ a₂) : (l₁ = l₂ ∧ a₁ = a₂) ∨
      ∃ same i r₁ r₂ rest₁ rest₂, l₁ = same ++ ⟨i, r₁⟩ :: rest₁ ∧ l₂ = same ++ ⟨i, r₂⟩ :: rest₂ ∧
        r₁ ≠ r₂ := by
  induction p generalizing l₁ l₂ with
  | done a =>
    obtain ⟨rfl, rfl⟩ := runs_done_iff.1 h₁
    obtain ⟨rfl, rfl⟩ := runs_done_iff.1 h₂
    exact .inl ⟨rfl, rfl⟩
  | ask i next ih =>
    obtain ⟨r₁, rest₁, rfl, hrest₁⟩ := runs_ask_iff.1 h₁
    obtain ⟨r₂, rest₂, rfl, hrest₂⟩ := runs_ask_iff.1 h₂
    by_cases hr : r₁ = r₂
    · subst hr
      rcases ih r₁ hrest₁ hrest₂ with ⟨rfl, rfl⟩ | ⟨same, j, r₁', r₂', t₁, t₂, rfl, rfl, hne⟩
      · exact .inl ⟨rfl, rfl⟩
      · exact .inr ⟨⟨i, r₁⟩ :: same, j, r₁', r₂', t₁, t₂, rfl, rfl, hne⟩
    · exact .inr ⟨[], i, r₁, r₂, rest₁, rest₂, rfl, rfl, hr⟩

/-! ## Ends -/

/-- A program ends however its calls are answered. -/
theorem exists_runs (answer : (i : ι) → ρ i) (p : Program ι ρ α) :
    ∃ log a, Runs p log a ∧ ∀ e ∈ log, e.2 = answer e.1 := by
  induction p with
  | done a => exact ⟨[], a, runs_done a, by simp⟩
  | ask i next ih =>
    obtain ⟨log, a, h, hlog⟩ := ih (answer i)
    refine ⟨⟨i, answer i⟩ :: log, a, .ask h, fun e he => ?_⟩
    rcases List.mem_cons.1 he with rfl | he
    · rfl
    · exact hlog e he

/-- Every execution is the beginning of one that comes to an end. -/
theorem Reaches.extends (answer : (i : ι) → ρ i) {p q : Program ι ρ α}
    {log : List (Exchange ι ρ)} (h : Reaches p log q) : ∃ rest a, Runs p (log ++ rest) a := by
  obtain ⟨rest, a, hrun, -⟩ := exists_runs answer q
  exact ⟨rest, a, h.trans hrun⟩

/-- A program that has come to a call goes on to its end, whatever the answer is. -/
theorem Asks.extends (answer : (i : ι) → ρ i) {p : Program ι ρ α} {log : List (Exchange ι ρ)} {i : ι}
    (h : Asks p log i) (r : ρ i) : ∃ rest a, Runs p (log ++ ⟨i, r⟩ :: rest) a := by
  obtain ⟨next, h⟩ := h
  obtain ⟨rest, a, hrun⟩ := (h.snoc r).extends answer
  exact ⟨rest, a, by rwa [List.append_assoc] at hrun⟩

/-- What holds of all exchanges of all runs holds of those before a call, and of the call itself,
whatever the answer is. -/
theorem Asks.forall (answer : (i : ι) → ρ i) {P : Exchange ι ρ → Prop} {p : Program ι ρ α}
    {log : List (Exchange ι ρ)} {i : ι} (h : Asks p log i)
    (hp : ∀ log a, Runs p log a → ∀ e ∈ log, P e) (r : ρ i) : (∀ e ∈ log, P e) ∧ P ⟨i, r⟩ := by
  obtain ⟨rest, a, hrun⟩ := h.extends answer r
  have hall := hp _ _ hrun
  exact ⟨fun e he => hall e (List.mem_append_left _ he),
    hall _ (List.mem_append_right _ (List.mem_cons_self ..))⟩

/-- The exchanges of a program run to its end. -/
def exchanges {σ : Type} (h : Handler ι ρ σ) : Program ι ρ α → σ → List (Exchange ι ρ)
  | done _, _ => []
  | ask i next, s => ⟨i, (h i s).1⟩ :: exchanges h (next (h i s).1) (h i s).2

theorem runs_run {σ : Type} (h : Handler ι ρ σ) (p : Program ι ρ α) (s : σ) :
    Runs p (p.exchanges h s) (p.run h s).1 := by
  induction p generalizing s with
  | done a => exact runs_done a
  | ask i next ih => exact .ask (ih _ _)

/-- Surroundings that always answer alike. -/
theorem exchanges_run_const {σ : Type} (answer : (i : ι) → ρ i) (p : Program ι ρ α) (s : σ) :
    ∀ e ∈ p.exchanges (fun i s => (answer i, s)) s, e.2 = answer e.1 := by
  induction p with
  | done a => simp [exchanges]
  | ask i next ih =>
    intro e he
    rcases List.mem_cons.1 he with rfl | he
    · rfl
    · exact ih (answer i) e he

end RelayFleet.Program
