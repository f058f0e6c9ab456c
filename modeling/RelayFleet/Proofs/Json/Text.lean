/-
The text of a JSON value is read back as the value (`parse?_render`): the tokens of a value lead the
reader to it, from whatever the value stands inside of, and the text of the tokens leads the scan to
them.
-/
import RelayFleet.Json.Text
import RelayFleet.Proofs.Json.Token

namespace RelayFleet.Json

/-! ## Reading tokens -/

namespace Parse

/-- Whether a value may come next. -/
def Awaits (p : Parse) : Prop := p.expected = .value ∨ p.expected = .valueOrClose

/-- The token that begins a value. -/
theorem foldlM_value {p : Parse} (h : p.Awaits) {t : Token} (ht : t ≠ .closeArray)
    (rest : List Token) :
    (t :: rest).foldlM step? p = (p.value? t).bind fun q => rest.foldlM step? q := by
  have hstep : p.step? t = p.value? t := by
    unfold step?
    rcases h with h | h
    · rw [h]
    · rw [h]
      exact if_neg ht
  rw [List.foldlM_cons, hstep, Option.bind_eq_bind]

end Parse

mutual

/-- A value goes where one is awaited. -/
theorem foldlM_tokens : ∀ (j : Json) (rest : List Token) (p : Parse), p.Awaits →
    (j.tokens rest).foldlM Parse.step? p =
      (p.deliver? j).bind fun q => rest.foldlM Parse.step? q
  | .null, rest, p, h => by rw [tokens, Parse.foldlM_value h (by rintro ⟨⟩)]; rfl
  | .bool b, rest, p, h => by rw [tokens, Parse.foldlM_value h (by rintro ⟨⟩)]; rfl
  | .int n, rest, p, h => by rw [tokens, Parse.foldlM_value h (by rintro ⟨⟩)]; rfl
  | .real s, rest, p, h => by rw [tokens, Parse.foldlM_value h (by rintro ⟨⟩)]; rfl
  | .str s, rest, p, h => by rw [tokens, Parse.foldlM_value h (by rintro ⟨⟩)]; rfl
  | .unreadable, rest, p, h => by rw [tokens, Parse.foldlM_value h (by rintro ⟨⟩)]; rfl
  | .arr [], rest, p, h => by rw [tokens, Parse.foldlM_value h (by rintro ⟨⟩)]; rfl
  | .obj [], rest, p, h => by rw [tokens, Parse.foldlM_value h (by rintro ⟨⟩)]; rfl
  | .arr (j :: items), rest, p, h => by
    rw [tokens, Parse.foldlM_value h (by rintro ⟨⟩)]
    show (j.tokens (itemTokens items rest)).foldlM Parse.step?
      { p with opened := .array [] :: p.opened, expected := .valueOrClose } = _
    rw [foldlM_tokens j _ _ (.inr rfl)]
    exact foldlM_itemTokens items rest [j] p.opened
  | .obj ((name, j) :: ms), rest, p, h => by
    rw [tokens, Parse.foldlM_value h (by rintro ⟨⟩)]
    show (j.tokens (memberTokens ms rest)).foldlM Parse.step?
      { p with opened := .member [] true name :: p.opened, expected := .value } = _
    rw [foldlM_tokens j _ _ (.inl rfl)]
    exact foldlM_memberTokens ms rest [(name, j)] p.opened

theorem foldlM_itemTokens : ∀ (items : List Json) (rest : List Token) (read : List Json)
    (outer : List Opened),
    (itemTokens items rest).foldlM Parse.step?
        { opened := .array read :: outer, expected := .end } =
      (Parse.deliver? { opened := outer } (.arr (read.reverse ++ items))).bind
        fun q => rest.foldlM Parse.step? q
  | [], rest, read, outer => by
    rw [itemTokens, List.foldlM_cons, List.append_nil]
    rfl
  | j :: items, rest, read, outer => by
    rw [itemTokens, List.foldlM_cons]
    show (j.tokens (itemTokens items rest)).foldlM Parse.step?
      { opened := .array read :: outer, expected := .value } = _
    rw [foldlM_tokens j _ _ (.inl rfl)]
    refine (foldlM_itemTokens items rest (j :: read) outer).trans ?_
    rw [List.reverse_cons, List.append_assoc]
    rfl

theorem foldlM_memberTokens : ∀ (ms : List (String × Json)) (rest : List Token)
    (read : List (String × Json)) (outer : List Opened),
    (memberTokens ms rest).foldlM Parse.step?
        { opened := .object read true :: outer, expected := .end } =
      (Parse.deliver? { opened := outer } (.obj (read.reverse ++ ms))).bind
        fun q => rest.foldlM Parse.step? q
  | [], rest, read, outer => by
    rw [memberTokens, List.foldlM_cons, List.append_nil]
    rfl
  | (name, j) :: ms, rest, read, outer => by
    rw [memberTokens, List.foldlM_cons]
    show (j.tokens (memberTokens ms rest)).foldlM Parse.step?
      { opened := .member read true name :: outer, expected := .value } = _
    rw [foldlM_tokens j _ _ (.inl rfl)]
    refine (foldlM_memberTokens ms rest ((name, j) :: read) outer).trans ?_
    rw [List.reverse_cons, List.append_assoc]
    rfl

end

/-- Tokens are read as the value that they were written for. -/
theorem ofTokens?_tokens (j : Json) : ofTokens? (j.tokens []) = some j := by
  rw [ofTokens?, foldlM_tokens j [] {} (.inl rfl)]
  rfl

/-! ## Text -/

/-- Whether a value is what its own text reads as: every number that is no integer is spelled as a
number, and nothing in it is unreadable. -/
inductive Readable : Json → Prop
  | null : Readable .null
  | bool (b : Bool) : Readable (.bool b)
  | int (n : Int) : Readable (.int n)
  | real {s : String} (h : Token.number? s.toList = some (.real s)) : Readable (.real s)
  | str (s : String) : Readable (.str s)
  | arr {items : List Json} (h : ∀ j ∈ items, Readable j) : Readable (.arr items)
  | obj {ms : List (String × Json)} (h : ∀ m ∈ ms, Readable m.2) : Readable (.obj ms)

namespace Readable

theorem nat (n : Nat) : Readable (.nat n) := .int n

theorem list {α : Type} {f : α → Json} {l : List α} (h : ∀ a, Readable (f a)) :
    Readable (.arr (l.map f)) :=
  .arr (List.forall_mem_map.2 fun a _ => h a)

/-- A member that is there. -/
theorem member {j : Json} (h : Readable j) : ∀ k ∈ some j, Readable k := by
  rintro _ ⟨⟩
  exact h

/-- A member that may have been left out. -/
theorem optional {α : Type} {f : α → Json} (h : ∀ a, Readable (f a)) (o : Option α) :
    ∀ j ∈ o.map f, Readable j := by
  intro j hj
  obtain ⟨a, -, rfl⟩ := Option.map_eq_some_iff.1 hj
  exact h a

/-- An object is readable member by member. -/
theorem members {ms : List (String × Json)} (h : ms.Forall fun m => Readable m.2) :
    Readable (.obj ms) :=
  .obj (List.forall_iff_forall_mem.1 h)

theorem present {fields : List (String × Option Json)}
    (h : fields.Forall fun m => ∀ j ∈ m.2, Readable j) : Readable (.present fields) := by
  refine .obj fun m hm => ?_
  obtain ⟨x, hx, hvalue⟩ := List.mem_filterMap.1 hm
  obtain ⟨j, hj, rfl⟩ := Option.map_eq_some_iff.1 hvalue
  exact List.forall_iff_forall_mem.1 h x hx j hj

end Readable

open Token (Spellable)

/-- Whether tokens show where the one before them ends. -/
def Ends (ts : List Token) : Prop := ∀ t ∈ ts.head?, t.isEnd = true

theorem spellable_cons {t : Token} {ts : List Token} (h : Spellable ts) (ht : t.Readable)
    (hword : t.isWord = false) : Spellable (t :: ts) :=
  h.cons ht fun hw => absurd (hword.symm.trans hw) Bool.false_ne_true

theorem ends_itemTokens (items : List Json) (rest : List Token) : Ends (itemTokens items rest) := by
  cases items <;> rintro _ ⟨⟩ <;> rfl

theorem ends_memberTokens (ms : List (String × Json)) (rest : List Token) :
    Ends (memberTokens ms rest) := by
  rcases ms with - | ⟨⟨name, j⟩, ms⟩ <;> rintro _ ⟨⟩ <;> rfl

mutual

theorem spellable_tokens : ∀ (j : Json) (rest : List Token), j.Readable → Spellable rest →
    Ends rest → Spellable (j.tokens rest)
  | .null, rest, _, hrest, hends => by
    rw [tokens]
    exact hrest.cons trivial fun _ => hends
  | .bool b, rest, _, hrest, hends => by
    rw [tokens]
    exact hrest.cons trivial fun _ => hends
  | .int n, rest, _, hrest, hends => by
    rw [tokens]
    exact hrest.cons trivial fun _ => hends
  | .real s, rest, .real h, hrest, hends => by
    rw [tokens]
    exact hrest.cons h fun _ => hends
  | .str s, rest, _, hrest, _ => by
    rw [tokens]
    exact spellable_cons hrest rfl rfl
  | .arr [], rest, _, hrest, _ => by
    rw [tokens]
    exact spellable_cons (spellable_cons hrest trivial rfl) trivial rfl
  | .arr (j :: items), rest, .arr h, hrest, _ => by
    obtain ⟨hj, hitems⟩ := List.forall_mem_cons.1 h
    rw [tokens]
    exact spellable_cons (spellable_tokens j _ hj (spellable_itemTokens items rest hitems hrest)
      (ends_itemTokens items rest)) trivial rfl
  | .obj [], rest, _, hrest, _ => by
    rw [tokens]
    exact spellable_cons (spellable_cons hrest trivial rfl) trivial rfl
  | .obj ((name, j) :: ms), rest, .obj h, hrest, _ => by
    obtain ⟨hj, hms⟩ := List.forall_mem_cons.1 h
    rw [tokens]
    have hvalue := spellable_tokens j _ hj (spellable_memberTokens ms rest hms hrest)
      (ends_memberTokens ms rest)
    exact spellable_cons (spellable_cons (spellable_cons hvalue trivial rfl) rfl rfl) trivial rfl

theorem spellable_itemTokens : ∀ (items : List Json) (rest : List Token),
    (∀ j ∈ items, j.Readable) → Spellable rest → Spellable (itemTokens items rest)
  | [], rest, _, hrest => by
    rw [itemTokens]
    exact spellable_cons hrest trivial rfl
  | j :: items, rest, h, hrest => by
    obtain ⟨hj, hitems⟩ := List.forall_mem_cons.1 h
    rw [itemTokens]
    exact spellable_cons (spellable_tokens j _ hj (spellable_itemTokens items rest hitems hrest)
      (ends_itemTokens items rest)) trivial rfl

theorem spellable_memberTokens : ∀ (ms : List (String × Json)) (rest : List Token),
    (∀ m ∈ ms, m.2.Readable) → Spellable rest → Spellable (memberTokens ms rest)
  | [], rest, _, hrest => by
    rw [memberTokens]
    exact spellable_cons hrest trivial rfl
  | (name, j) :: ms, rest, h, hrest => by
    obtain ⟨hj, hms⟩ := List.forall_mem_cons.1 h
    rw [memberTokens]
    have hvalue := spellable_tokens j _ hj (spellable_memberTokens ms rest hms hrest)
      (ends_memberTokens ms rest)
    exact spellable_cons (spellable_cons (spellable_cons hvalue trivial rfl) rfl rfl) trivial rfl

end

/-- The text of a readable value is read as the value. -/
theorem parse?_render {j : Json} (h : j.Readable) : parse? j.render = some j := by
  have hspellable := spellable_tokens j [] h .nil (by rintro _ ⟨⟩)
  rw [parse?, render, String.toList_ofList, Token.scan_spell hspellable, Option.bind_some,
    ofTokens?_tokens]

end RelayFleet.Json
