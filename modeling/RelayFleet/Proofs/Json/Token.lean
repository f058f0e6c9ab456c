/-
The tokens of JSON text are read as they were written (`scan_spell`): strings with every character
escaped or not, numbers up to the character that ends them. A number or a literal has to be followed
by a token that ends it, as it is inside a value.
-/
import RelayFleet.Json.Token
import Mathlib.Data.List.TakeWhile
import RelayFleet.Proofs.Text.Decimal

namespace RelayFleet.Json.Token

/-! ## Numbers -/

/-- Whether digits write a number: there is one, and a zero does not begin a longer run. -/
structure Digits (cs : List Char) : Prop where
  ne_nil : cs ≠ []
  isDigit : ∀ c ∈ cs, c.isDigit = true
  zero : cs.head? = some '0' → cs = ['0']

theorem digits_toDigits (n : Nat) : Digits (Nat.toDigits 10 n) where
  ne_nil := Nat.toDigits_ne_nil
  isDigit _ hc := Nat.isDigit_of_mem_toDigits (by omega) (by omega) hc
  zero := by
    -- all digits but the last are those of a smaller number, which is not zero
    induction n using Nat.strong_induction_on with
    | _ n ih =>
      rcases Nat.lt_or_ge n 10 with hsmall | hlarge
      · rw [Nat.toDigits_of_lt_base hsmall]
        intro h
        rw [Option.some.inj h]
      · rw [Nat.toDigits_of_base_le (by omega) hlarge,
          List.head?_append_of_ne_nil _ Nat.toDigits_ne_nil]
        intro h
        have hzero := ih (n / 10) (by omega) h
        have hvalue := Ascii.natOfDigits_toDigits (n / 10)
        rw [hzero] at hvalue
        have : Ascii.natOfDigits ['0'] = 0 := rfl
        omega

namespace Digits

variable {cs : List Char}

theorem span (h : Digits cs) : spanDigits cs = (cs, []) := by
  rw [spanDigits, List.span_eq_takeWhile_dropWhile, List.takeWhile_eq_self_iff.2 h.isDigit,
    List.dropWhile_eq_nil_iff.2 h.isDigit]

theorem not_flawed (h : Digits cs) : ¬ (cs = [] ∨ cs.head? = some '0' ∧ cs ≠ ['0']) := by
  rintro (hnil | ⟨hhead, hlonger⟩)
  · exact h.ne_nil hnil
  · exact hlonger (h.zero hhead)

theorem number? (h : Digits cs) : number? cs = some (.int (Ascii.natOfDigits cs)) := by
  unfold Token.number?
  split
  rename_i heq
  split at heq
  · exact absurd (h.isDigit '-' (List.mem_cons_self ..)) (by decide)
  · cases heq
    rw [h.span]
    simp only [if_neg h.not_flawed, if_true, Bool.false_eq_true, if_false]

theorem number?_minus (h : Digits cs) (hpos : Ascii.natOfDigits cs ≠ 0) :
    Token.number? ('-' :: cs) = some (.int (-(Ascii.natOfDigits cs : Int))) := by
  unfold Token.number?
  simp only [h.span, if_neg h.not_flawed, if_true, if_neg hpos]

end Digits

theorem toList_negSucc (n : Nat) :
    (toString (Int.negSucc n)).toList = '-' :: Nat.toDigits 10 (n + 1) := by
  show ("-" ++ toString (n + 1)).toList = _
  rw [String.toList_append, Decimal.toList_toString]
  rfl

theorem number?_toString (n : Int) : number? (toString n).toList = some (.int n) := by
  cases n with
  | ofNat n =>
    show number? (toString n).toList = _
    rw [Decimal.toList_toString, (digits_toDigits n).number?, Ascii.natOfDigits_toDigits]
    rfl
  | negSucc n =>
    have hvalue := Ascii.natOfDigits_toDigits (n + 1)
    rw [toList_negSucc, (digits_toDigits (n + 1)).number?_minus (by omega), hvalue]
    rfl

theorem inNumber_of_isDigit {c : Char} (h : c.isDigit = true) : Scan.inNumber c = true := by
  simp only [Scan.inNumber, h, Bool.true_or]

/-- Whether characters make up a number as far as the scan can tell. -/
structure Numeric (cs : List Char) : Prop where
  starts : ∃ c rest, cs = c :: rest ∧ (c = '-' ∨ c.isDigit = true)
  goes_on : ∀ c ∈ cs, Scan.inNumber c = true

theorem Numeric.minus {cs : List Char} (h : ∀ c ∈ cs, Scan.inNumber c = true) :
    Numeric ('-' :: cs) where
  starts := ⟨'-', cs, rfl, .inl rfl⟩
  goes_on := List.forall_mem_cons.2 ⟨rfl, h⟩

theorem Digits.numeric {cs : List Char} (h : Digits cs) : Numeric cs := by
  obtain ⟨c, rest, rfl⟩ := List.exists_cons_of_ne_nil h.ne_nil
  exact ⟨⟨c, rest, rfl, .inr (h.isDigit c (List.mem_cons_self ..))⟩,
    fun x hx => inNumber_of_isDigit (h.isDigit x hx)⟩

theorem numeric_toString (n : Int) : Numeric (toString n).toList := by
  cases n with
  | ofNat n =>
    show Numeric (toString n).toList
    rw [Decimal.toList_toString]
    exact (digits_toDigits n).numeric
  | negSucc n =>
    rw [toList_negSucc]
    exact .minus (digits_toDigits (n + 1)).numeric.goes_on

theorem inNumber_of_span {cs ds rest : List Char} (h : spanDigits cs = (ds, rest))
    (hrest : ∀ c ∈ rest, Scan.inNumber c = true) : ∀ c ∈ cs, Scan.inNumber c = true := by
  rw [spanDigits, List.span_eq_takeWhile_dropWhile] at h
  obtain ⟨rfl, rfl⟩ := Prod.mk.inj h
  intro c hc
  rw [← List.takeWhile_append_dropWhile (p := Char.isDigit) (l := cs)] at hc
  rcases List.mem_append.1 hc with hc | hc
  · exact inNumber_of_isDigit (List.mem_takeWhile_imp hc)
  · exact hrest c hc

theorem inNumber_of_digits {cs rest : List Char}
    (h : (match spanDigits cs with
      | ([], _) => none
      | (_, rest) => some rest) = some rest)
    (hrest : ∀ c ∈ rest, Scan.inNumber c = true) : ∀ c ∈ cs, Scan.inNumber c = true := by
  split at h
  · cases h
  · rename_i hspan
    cases h
    exact inNumber_of_span hspan hrest

theorem inNumber_of_dropFraction? {cs rest : List Char} (h : dropFraction? cs = some rest)
    (hrest : ∀ c ∈ rest, Scan.inNumber c = true) : ∀ c ∈ cs, Scan.inNumber c = true := by
  unfold dropFraction? at h
  split at h
  · exact List.forall_mem_cons.2 ⟨rfl, inNumber_of_digits h hrest⟩
  · cases h
    exact hrest

theorem inNumber_of_dropExponent? {cs : List Char} (h : dropExponent? cs = some []) :
    ∀ c ∈ cs, Scan.inNumber c = true := by
  have hnil : ∀ c ∈ ([] : List Char), Scan.inNumber c = true := by rintro _ ⟨⟩
  unfold dropExponent? at h
  split at h
  · rename_i c rest
    split at h
    · rename_i he
      have hc : Scan.inNumber c = true := by rcases he with rfl | rfl <;> rfl
      refine List.forall_mem_cons.2 ⟨hc, ?_⟩
      split at h
      · exact List.forall_mem_cons.2 ⟨rfl, inNumber_of_digits h hnil⟩
      · exact List.forall_mem_cons.2 ⟨rfl, inNumber_of_digits h hnil⟩
      · exact inNumber_of_digits h hnil
    · cases h
  · exact hnil

/-- Whatever reads as a number is numeric. -/
theorem numeric_of_number? {cs : List Char} {t : Token} (h : number? cs = some t) :
    Numeric cs := by
  unfold number? at h
  split at h
  rename_i negative unsigned hsign
  split at h
  rename_i ds rest hspan
  split at h
  · cases h
  · rename_i hsound
    have hrest : ∀ c ∈ rest, Scan.inNumber c = true := by
      split at h
      · rename_i hnil
        rw [hnil]
        rintro _ ⟨⟩
      · obtain ⟨r, hfraction, h⟩ := Option.bind_eq_some_iff.1 h
        obtain ⟨r', hexponent, h⟩ := Option.bind_eq_some_iff.1 h
        split at h
        · rename_i hnil
          subst hnil
          exact inNumber_of_dropFraction? hfraction (inNumber_of_dropExponent? hexponent)
        · cases h
    have hunsigned := inNumber_of_span hspan hrest
    split at hsign
    · cases hsign
      exact .minus hunsigned
    · cases hsign
      refine ⟨?_, hunsigned⟩
      rw [spanDigits, List.span_eq_takeWhile_dropWhile] at hspan
      obtain ⟨hds, -⟩ := Prod.mk.inj hspan
      cases cs with
      | nil => exact absurd (.inl hds.symm) hsound
      | cons c rest =>
        refine ⟨c, rest, rfl, .inr ?_⟩
        by_contra hc
        rw [List.takeWhile_cons_of_neg hc] at hds
        exact hsound (.inl hds.symm)

/-! ## Strings -/

theorem hexValue?_hexDigit : ∀ n < 16, Ascii.hexValue? (hexDigit n) = some n := by decide

/-- A string is being read, all of which stands for text. -/
def reading (ts : List Token) (cs : List Char) : Scan where
  tokens := ts
  pending := .text { chars := cs }

/-- Two hexadecimal digits after two zeros. -/
theorem foldlM_unit (ts : List Token) (cs : List Char) (n : Nat) (hn : n < 256) :
    ['\\', 'u', '0', '0', hexDigit (n / 16), hexDigit (n % 16)].foldlM Scan.step? (reading ts cs) =
      some (reading ts (Char.ofNat n :: cs)) := by
  have hhigh := hexValue?_hexDigit (n / 16) (by omega)
  have hlow := hexValue?_hexDigit (n % 16) (by omega)
  have hzeros : ['\\', 'u', '0', '0'].foldlM Scan.step? (reading ts cs) =
      some ⟨ts, .text { chars := cs, escape := .hex 2 0 }⟩ := rfl
  have hfirst : Scan.step? ⟨ts, .text { chars := cs, escape := .hex 2 0 }⟩ (hexDigit (n / 16)) =
      some ⟨ts, .text { chars := cs, escape := .hex 1 (n / 16) }⟩ := by
    show (Ascii.hexValue? _).bind _ = _
    rw [hhigh]
    simp
  have hunit : Quoted.pushUnit { chars := cs, escape := .hex 1 (n / 16) } n =
      { chars := Char.ofNat n :: cs } := by
    rw [Quoted.pushUnit, if_neg (by omega), if_neg (by omega)]
    rfl
  have hsecond : Scan.step? ⟨ts, .text { chars := cs, escape := .hex 1 (n / 16) }⟩
      (hexDigit (n % 16)) = some (reading ts (Char.ofNat n :: cs)) := by
    show (Ascii.hexValue? _).bind _ = _
    rw [hlow, Option.bind_some, if_pos (le_refl 1), Nat.div_add_mod' n 16, hunit]
    rfl
  rw [show ['\\', 'u', '0', '0', hexDigit (n / 16), hexDigit (n % 16)] =
    ['\\', 'u', '0', '0'] ++ [hexDigit (n / 16), hexDigit (n % 16)] from rfl,
    List.foldlM_append, hzeros]
  show (Scan.step? _ _).bind (fun s => (Scan.step? s _).bind some) = _
  rw [hfirst, Option.bind_some, hsecond]
  rfl

/-- A character of a string is read back, whether it is escaped or not. -/
theorem foldlM_escape (ts : List Token) (cs : List Char) (c : Char) :
    (escape c).foldlM Scan.step? (reading ts cs) = some (reading ts (c :: cs)) := by
  unfold escape
  split_ifs with h₁ h₂ h₃ h₄ h₅ h₆ h₇ h₈
  · rw [h₁]; rfl
  · rw [h₂]; rfl
  · rw [h₃]; rfl
  · rw [h₄]; rfl
  · rw [h₅]; rfl
  · rw [h₆]; rfl
  · rw [h₇]; rfl
  · rw [foldlM_unit ts cs c.toNat (by omega), Char.ofNat_toNat]
  · show (Scan.step? (reading ts cs) c).bind some = _
    have hstep : Scan.step? (reading ts cs) c = some (reading ts (c :: cs)) := by
      show (if c = '"' then _ else _) = _
      rw [if_neg h₁, if_neg h₂, if_neg h₈]
      rfl
    rw [hstep]
    rfl

theorem quote_eq (s : String) (rest : List Char) :
    quote s rest = '"' :: (s.toList.flatMap escape ++ '"' :: rest) := by
  have hfold : ∀ cs : List Char,
      cs.foldr (fun c r => escape c ++ r) ('"' :: rest) = cs.flatMap escape ++ '"' :: rest := by
    intro cs
    induction cs with
    | nil => rfl
    | cons c cs ih => rw [List.foldr_cons, ih, List.flatMap_cons, List.append_assoc]
  rw [quote, hfold]

theorem foldlM_flatMap_escape (ts : List Token) (read cs : List Char) :
    (cs.flatMap escape).foldlM Scan.step? (reading ts read) =
      some (reading ts (cs.reverse ++ read)) := by
  induction cs generalizing read with
  | nil => rfl
  | cons c cs ih =>
    rw [List.flatMap_cons, List.foldlM_append, foldlM_escape, Option.bind_eq_bind,
      Option.bind_some, ih, List.reverse_cons, List.append_assoc]
    rfl

/-- A string is read back. -/
theorem foldlM_quote (ts : List Token) (s : String) :
    (quote s []).foldlM Scan.step? { tokens := ts } =
      some { tokens := .text (some s) :: ts } := by
  have hfinish : Quoted.finish { chars := s.toList.reverse } = .text (some s) := by
    show Token.text (some (String.ofList s.toList.reverse.reverse)) = _
    rw [List.reverse_reverse, String.ofList_toList]
  rw [quote_eq, List.foldlM_cons]
  show (some (reading ts [])).bind _ = _
  rw [Option.bind_some, List.foldlM_append, foldlM_flatMap_escape, List.append_nil]
  show (some { tokens := Quoted.finish { chars := s.toList.reverse } :: ts : Scan }) = _
  rw [hfinish]

/-! ## The scan -/

/-- Whether a token is what its own spelling reads as. -/
def Readable : Token → Prop
  | .real s => number? s.toList = some (.real s)
  | .text s => s.isSome = true
  | _ => True

/-- Whether it takes what follows a token to see where the token ends. -/
def isWord : Token → Bool
  | .null => true
  | .bool _ => true
  | .int _ => true
  | .real _ => true
  | _ => false

/-- Whether a token shows where the one before it ends. -/
def isEnd : Token → Bool
  | .comma => true
  | .closeArray => true
  | .closeObject => true
  | _ => false

theorem spell_append (t : Token) (rest : List Char) : t.spell rest = t.spell [] ++ rest := by
  cases t with
  | bool b => cases b <;> rfl
  | int n => rw [spell, spell, List.append_nil]
  | real s => rw [spell, spell, List.append_nil]
  | text s =>
    cases s with
    | none => rfl
    | some s =>
      show quote s rest = quote s [] ++ rest
      rw [quote_eq, quote_eq, List.cons_append, List.append_assoc]
      rfl
  | _ => rfl

/-- Whether a scan has read tokens and stands where the next one may begin, once the last one is
ended. -/
structure Stands (s : Scan) (ts : List Token) (t? : Option Token) : Prop where
  settled : s.settle? = some { tokens := ts }
  ready : s.pending = .nothing ∨ ∀ t ∈ t?, t.isEnd = true

theorem eq_of_settle? {s : Scan} {ts : List Token} (h : s.settle? = some { tokens := ts })
    (hp : s.pending = .nothing) : s = { tokens := ts } := by
  rw [Scan.settle?, hp] at h
  exact Option.some.inj h

/-- A comma or a closing bracket ends a number or a literal. -/
theorem step?_of_settle? {s : Scan} {ts : List Token} (h : s.settle? = some { tokens := ts })
    {c : Char} (hletter : c.isAlphanum = false) (hnumber : Scan.inNumber c = false) :
    s.step? c = Scan.start? { tokens := ts } c := by
  unfold Scan.step?
  split
  · rename_i hp
    rw [eq_of_settle? h hp]
  · rw [hletter, if_neg Bool.false_ne_true, h, Option.bind_some]
  · rw [hnumber, if_neg Bool.false_ne_true, h, Option.bind_some]
  · rename_i hp
    rw [Scan.settle?, hp] at h
    cases h

theorem foldlM_end {s : Scan} {ts : List Token} (h : s.settle? = some { tokens := ts }) {c : Char}
    {t : Token} (hletter : c.isAlphanum = false) (hnumber : Scan.inNumber c = false)
    (hstart : Scan.start? { tokens := ts } c = some { tokens := t :: ts }) :
    [c].foldlM Scan.step? s = some { tokens := t :: ts } := by
  show (s.step? c).bind some = _
  rw [step?_of_settle? h hletter hnumber, hstart, Option.bind_some]

theorem foldlM_number {ts : List Token} {read cs : List Char}
    (h : ∀ c ∈ cs, Scan.inNumber c = true) :
    cs.foldlM Scan.step? ⟨ts, .number read⟩ = some ⟨ts, .number (cs.reverse ++ read)⟩ := by
  induction cs generalizing read with
  | nil => rfl
  | cons c cs ih =>
    obtain ⟨hc, hcs⟩ := List.forall_mem_cons.1 h
    have hstep : Scan.step? ⟨ts, .number read⟩ c = some ⟨ts, .number (c :: read)⟩ := if_pos hc
    rw [List.foldlM_cons, hstep, Option.bind_eq_bind, Option.bind_some, ih hcs,
      List.reverse_cons, List.append_assoc]
    rfl

theorem start?_number (ts : List Token) {c : Char} (h : c = '-' ∨ c.isDigit = true) :
    Scan.start? { tokens := ts } c = some ⟨ts, .number [c]⟩ := by
  have hne : ∀ x : Char, x ≠ '-' → x.isDigit = false → c ≠ x := by
    rintro x hminus hdigit rfl
    rcases h with h | h
    · exact hminus h
    · exact absurd (hdigit.symm.trans h) Bool.false_ne_true
  have hblank : ¬ (c = ' ' ∨ c = '\t' ∨ c = '\n' ∨ c = '\r') := by
    simp only [not_or]
    refine ⟨?_, ?_, ?_, ?_⟩ <;> exact hne _ (by decide) (by decide)
  unfold Scan.start?
  rw [if_neg hblank, if_neg (hne '\x7b' (by decide) (by decide)),
    if_neg (hne '\x7d' (by decide) (by decide)), if_neg (hne '[' (by decide) (by decide)),
    if_neg (hne ']' (by decide) (by decide)), if_neg (hne ',' (by decide) (by decide)),
    if_neg (hne ':' (by decide) (by decide)), if_neg (hne '"' (by decide) (by decide)), if_pos h]

/-- A number is read up to its end. -/
theorem foldlM_numeric (ts : List Token) {cs : List Char} (h : Numeric cs) :
    cs.foldlM Scan.step? { tokens := ts } = some ⟨ts, .number cs.reverse⟩ := by
  obtain ⟨⟨c, rest, rfl, hc⟩, hall⟩ := h
  have hstep : Scan.step? { tokens := ts } c = some ⟨ts, .number [c]⟩ := start?_number ts hc
  rw [List.foldlM_cons, hstep, Option.bind_eq_bind, Option.bind_some,
    foldlM_number (List.forall_mem_cons.1 hall).2, List.reverse_cons]

theorem settle?_number {ts : List Token} {cs : List Char} {t : Token} (h : number? cs = some t) :
    Scan.settle? ⟨ts, .number cs.reverse⟩ = some { tokens := t :: ts } := by
  show (number? cs.reverse.reverse).map _ = _
  rw [List.reverse_reverse, h, Option.map_some]

/-- A token is read back where one may begin. -/
theorem foldlM_spell {s : Scan} {ts : List Token} {t : Token} (h : Stands s ts (some t))
    (ht : t.Readable) :
    ∃ s', (t.spell []).foldlM Scan.step? s = some s' ∧ s'.settle? = some { tokens := t :: ts } ∧
      (t.isWord = false → s'.pending = .nothing) := by
  obtain ⟨hsettled, hready⟩ := h
  by_cases hend : t.isEnd = true
  · -- the token is a single character that ends what is there
    cases t with
    | comma => exact ⟨_, foldlM_end hsettled rfl rfl rfl, rfl, fun _ => rfl⟩
    | closeArray => exact ⟨_, foldlM_end hsettled rfl rfl rfl, rfl, fun _ => rfl⟩
    | closeObject => exact ⟨_, foldlM_end hsettled rfl rfl rfl, rfl, fun _ => rfl⟩
    | _ => cases hend
  · have hnothing := hready.resolve_right fun hall => hend (hall t rfl)
    obtain rfl := eq_of_settle? hsettled hnothing
    cases t with
    | null => exact ⟨⟨ts, .letters ['l', 'l', 'u', 'n']⟩, rfl, rfl, by rintro ⟨⟩⟩
    | bool b =>
      cases b with
      | true => exact ⟨⟨ts, .letters ['e', 'u', 'r', 't']⟩, rfl, rfl, by rintro ⟨⟩⟩
      | false => exact ⟨⟨ts, .letters ['e', 's', 'l', 'a', 'f']⟩, rfl, rfl, by rintro ⟨⟩⟩
    | int n =>
      refine ⟨_, ?_, settle?_number (number?_toString n), by rintro ⟨⟩⟩
      rw [spell, List.append_nil]
      exact foldlM_numeric ts (numeric_toString n)
    | real x =>
      refine ⟨_, ?_, settle?_number ht, by rintro ⟨⟩⟩
      rw [spell, List.append_nil]
      exact foldlM_numeric ts (numeric_of_number? ht)
    | text x =>
      obtain ⟨x, rfl⟩ := Option.isSome_iff_exists.1 ht
      exact ⟨_, foldlM_quote ts x, rfl, fun _ => rfl⟩
    | _ => exact ⟨_, rfl, rfl, fun _ => rfl⟩

/-- Whether tokens may be spelled one after the other: every one is readable, and every number or
literal is followed by a token that shows where it ends. -/
structure Spellable (ts : List Token) : Prop where
  readable : ∀ t ∈ ts, t.Readable
  apart : ts.IsChain fun t u => t.isWord = true → u.isEnd = true

namespace Spellable

variable {t : Token} {ts : List Token}

theorem nil : Spellable [] := ⟨by rintro _ ⟨⟩, .nil⟩

theorem cons (h : Spellable ts) (ht : t.Readable)
    (hword : t.isWord = true → ∀ u ∈ ts.head?, u.isEnd = true) : Spellable (t :: ts) where
  readable := List.forall_mem_cons.2 ⟨ht, h.readable⟩
  apart := List.isChain_cons.2 ⟨fun u hu hw => hword hw u hu, h.apart⟩

theorem foldlM (h : Spellable ts) {s : Scan} {read : List Token} (hs : Stands s read ts.head?) :
    ((ts.foldr spell []).foldlM Scan.step? s).bind Scan.settle? =
      some { tokens := ts.reverse ++ read } := by
  obtain ⟨hreadable, hapart⟩ := h
  induction ts generalizing s read with
  | nil => exact hs.settled
  | cons t ts ih =>
    obtain ⟨ht, hts⟩ := List.forall_mem_cons.1 hreadable
    obtain ⟨hend, hrest⟩ := List.isChain_cons.1 hapart
    obtain ⟨s', hfold, hsettled, hnothing⟩ := foldlM_spell hs ht
    have hready : s'.pending = .nothing ∨ ∀ u ∈ ts.head?, u.isEnd = true := by
      cases hword : t.isWord with
      | false => exact .inl (hnothing hword)
      | true => exact .inr fun u hu => hend u hu hword
    rw [List.foldr_cons, spell_append, List.foldlM_append, hfold, Option.bind_eq_bind,
      Option.bind_some, ih ⟨hsettled, hready⟩ hts hrest, List.reverse_cons, List.append_assoc]
    rfl

end Spellable

/-- The tokens of a text are those that it was written with. -/
theorem scan_spell {ts : List Token} (h : Spellable ts) : scan (ts.foldr spell []) = some ts := by
  have hstart : Stands {} [] ts.head? := ⟨rfl, .inl rfl⟩
  rw [scan, h.foldlM hstart, List.append_nil, Option.map_some, List.reverse_reverse]

end RelayFleet.Json.Token
