/-
Moments are read as they were written (`parse?_toText`): the parts of a text one by one, then the day
and the time of day that they make up.
-/
import RelayFleet.Time.Timestamp
import RelayFleet.Proofs.Text.Decimal
import RelayFleet.Proofs.Time.Calendar
import Mathlib.Data.List.TakeWhile

namespace RelayFleet

theorem Blank.isBlank_of_isDigit {c : Char} (h : c.isDigit = true) : isBlank c = false := by
  have hrange : 48 ≤ c.toNat ∧ c.toNat ≤ 57 := by
    rw [Char.isDigit, Bool.and_eq_true, decide_eq_true_eq, decide_eq_true_eq] at h
    exact h
  simp only [isBlank, Bool.or_eq_false_iff, Bool.and_eq_false_iff, decide_eq_false_iff_not,
    beq_eq_false_iff_ne]
  omega

theorem Blank.skip_cons {c : Char} (h : isBlank c = false) (cs : List Char) :
    skip (c :: cs) = c :: cs :=
  List.dropWhile_cons_of_neg (by rw [h]; exact Bool.false_ne_true)

theorem Blank.skip_padded (width n : Nat) (rest : List Char) :
    skip ((Ascii.padded width n).toList ++ rest) = (Ascii.padded width n).toList ++ rest := by
  obtain ⟨c, cs, hcs, hc⟩ := Ascii.exists_digit_padded width n
  rw [hcs, List.cons_append, skip_cons (isBlank_of_isDigit hc)]

namespace Timestamp

/-! ## Parts of a text -/

theorem number?_padded {width n : Nat} (hwidth : 0 < width) (h : n < 10 ^ width)
    (rest : List Char) :
    number? width ((Ascii.padded width n).toList ++ rest) = some (n, rest) := by
  have hdigits : (((Ascii.padded width n).toList ++ rest).take width).takeWhile Char.isDigit =
      (Ascii.padded width n).toList := by
    rw [List.take_left' (Ascii.length_padded hwidth h)]
    exact List.takeWhile_eq_self_iff.2 (Ascii.isDigit_padded width n)
  have hne : (Ascii.padded width n).toList ≠ [] := by
    obtain ⟨c, cs, hcs, -⟩ := Ascii.exists_digit_padded width n
    rw [hcs]
    exact List.cons_ne_nil c cs
  unfold number?
  dsimp only
  rw [hdigits, if_neg hne, Ascii.natOfDigits_padded, List.drop_left]

theorem part?_padded {n : Nat} (h : n < 100) (rest : List Char) :
    part? 2 ((Ascii.padded 2 n).toList ++ rest) = some (n, rest) := by
  rw [part?, Blank.skip_padded, number?_padded (by omega) h]

theorem mark?_cons {c : Char} (h : Blank.isBlank c = false) (rest : List Char) :
    mark? c (c :: rest) = some rest := by
  rw [mark?, Blank.skip_cons h]
  exact if_pos rfl

theorem year?_padded {n : Nat} (h : n < 10000) (rest : List Char) :
    year? ((Ascii.padded 4 n).toList ++ rest) = some ((n : Int), rest) := by
  have hfour : number? 4 ((Ascii.padded 4 n).toList ++ rest) = some (n, rest) :=
    number?_padded (by omega) h rest
  unfold year?
  rw [Blank.skip_padded]
  obtain ⟨c, cs, hcs, hc⟩ := Ascii.exists_digit_padded 4 n
  rw [hcs] at hfour ⊢
  rw [List.cons_append] at hfour ⊢
  split
  · rename_i heq
    rw [(List.cons.inj heq).1] at hc
    cases hc
  · rename_i heq
    rw [(List.cons.inj heq).1] at hc
    cases hc
  · rw [hfour]
    rfl

theorem fraction?_padded {width n : Nat} (hwidth : 0 < width) (hnine : width ≤ 9)
    (h : n < 10 ^ width) (rest : List Char) :
    fraction? ('.' :: ((Ascii.padded width n).toList ++ 'Z' :: rest)) =
      some (n * 10 ^ (9 - width), 'Z' :: rest) := by
  have hlength := Ascii.length_padded hwidth h
  have hdigits : ((Ascii.padded width n).toList ++ 'Z' :: rest).takeWhile Char.isDigit =
      (Ascii.padded width n).toList := by
    rw [List.takeWhile_append_of_pos (Ascii.isDigit_padded width n),
      List.takeWhile_cons_of_neg (by decide), List.append_nil]
  have hkept : (Ascii.padded width n).toList.take 9 = (Ascii.padded width n).toList :=
    List.take_of_length_le (hlength.trans_le hnine)
  have hne : (Ascii.padded width n).toList ≠ [] := List.ne_nil_of_length_pos (by omega)
  simp only [fraction?, hdigits, if_neg hne, hkept, hlength, Ascii.natOfDigits_padded,
    List.drop_left' hlength]
  rfl

/-- A fraction is read as it was written, however many digits that took. -/
theorem fraction?_fractionText {nanos : Nat} (h : nanos < second) (rest : List Char) :
    fraction? ((fractionText nanos).toList ++ 'Z' :: rest) = some (nanos, 'Z' :: rest) := by
  unfold second at h
  have hdot (s : String) : ("." ++ s).toList ++ 'Z' :: rest = '.' :: (s.toList ++ 'Z' :: rest) := by
    rw [String.toList_append]
    rfl
  unfold fractionText
  split_ifs with hzero hmillis hmicros
  · rw [hzero]
    rfl
  · rw [hdot, fraction?_padded (by omega) (by omega) (by omega)]
    exact congrArg (fun n => some (n, 'Z' :: rest)) (by omega)
  · rw [hdot, fraction?_padded (by omega) (by omega) (by omega)]
    exact congrArg (fun n => some (n, 'Z' :: rest)) (by omega)
  · rw [hdot, fraction?_padded (by omega) (by omega) (by omega)]
    exact congrArg (fun n => some (n, 'Z' :: rest)) (by omega)

/-! ## The whole -/

/-- Whether a moment is in the years 0 to 9999, and within a leap second only at the end of a
minute. -/
structure Sound (t : Timestamp) : Prop where
  year : 0 ≤ (CivilDay.ofDays (t.seconds / 86400)).year ∧
    (CivilDay.ofDays (t.seconds / 86400)).year ≤ 9999
  nanos : t.nanos < second ∨ t.nanos < 2 * second ∧ t.seconds % 60 = 59

instance (t : Timestamp) : Decidable t.Sound :=
  decidable_of_iff _ ⟨fun h => ⟨h.1, h.2⟩, fun h => And.intro h.year h.nanos⟩

/-- A moment is made up of its day and its time of day. -/
theorem Sound.of? {t : Timestamp} (h : t.Sound) (clock : Nat) (hclock : clock = t.seconds % 86400) :
    of? (CivilDay.ofDays (t.seconds / 86400)) (clock / 3600) (clock / 60 % 60)
      (clock % 60 + if second ≤ t.nanos then 1 else 0) (t.nanos % second) 0 = some t := by
  obtain ⟨hyear, hnanos⟩ := h
  have hday : clock < 86400 := by omega
  have hsplit : t.seconds = t.seconds / 86400 * 86400 + clock := by omega
  have hin : ∀ {n : Int}, n = t.seconds → yearBounds.1 ≤ (CivilDay.ofDays (t.seconds / 86400)).year ∧
      (CivilDay.ofDays (t.seconds / 86400)).year ≤ yearBounds.2 ∧
      yearBounds.1 ≤ (CivilDay.ofDays (n / 86400)).year ∧
      (CivilDay.ofDays (n / 86400)).year ≤ yearBounds.2 := by
    rintro n rfl
    unfold yearBounds
    dsimp only
    omega
  unfold Timestamp.of?
  rw [CivilDay.toDays_ofDays]
  by_cases hleap : second ≤ t.nanos
  · -- the second before goes on
    have hlast : clock % 60 = 59 := by omega
    have hsum : t.seconds / 86400 * 86400 + ((clock / 3600 : Nat) : Int) * 3600 +
        ((clock / 60 % 60 : Nat) : Int) * 60 + ((59 : Nat) : Int) - 0 = t.seconds := by omega
    rw [if_pos hleap, hlast, if_pos (by omega)]
    dsimp only
    rw [if_pos rfl]
    dsimp only
    rw [hsum, if_pos (hin rfl)]
    have hrest : t.nanos % second + second = t.nanos := by
      unfold second at hleap hnanos ⊢
      omega
    rw [hrest]
  · have hsum : t.seconds / 86400 * 86400 + ((clock / 3600 : Nat) : Int) * 3600 +
        ((clock / 60 % 60 : Nat) : Int) * 60 + ((clock % 60 : Nat) : Int) - 0 = t.seconds := by omega
    rw [if_neg hleap, Nat.add_zero, if_pos (by omega), if_neg (by omega)]
    dsimp only
    rw [hsum, if_pos (hin rfl), Nat.mod_eq_of_lt (by omega)]

/-- A text in UTC is read part by part. -/
theorem parse?_parts {s : String} {year : Int} {month day hour minute sec nanos : Nat}
    {afterYear afterMonth afterDay afterHour afterMinute afterSec : List Char}
    (hyear : year? s.toList = some (year, '-' :: afterYear))
    (hmonth : part? 2 afterYear = some (month, '-' :: afterMonth))
    (hday : part? 2 afterMonth = some (day, 'T' :: afterDay))
    (hhour : part? 2 afterDay = some (hour, ':' :: afterHour))
    (hminute : part? 2 afterHour = some (minute, ':' :: afterMinute))
    (hsec : part? 2 afterMinute = some (sec, afterSec))
    (hfraction : fraction? afterSec = some (nanos, ['Z'])) :
    parse? s = (CivilDay.of? year month day).bind (of? · hour minute sec nanos 0) := by
  have hdash (rest : List Char) : mark? '-' ('-' :: rest) = some rest := mark?_cons rfl rest
  have hcolon (rest : List Char) : mark? ':' (':' :: rest) = some rest := mark?_cons rfl rest
  have hoffset : offset? (Blank.skip ['Z']) = some (0, []) := by decide
  have hend : Blank.skip [] = [] := rfl
  have hnext {α β : Type} (a : α) (f : α → Option β) : (some a >>= f) = f a := rfl
  unfold parse?
  rw [hyear, hnext]
  dsimp only
  rw [hdash, hnext, hmonth, hnext]
  dsimp only
  rw [hdash, hnext, hday, hnext]
  change part? 2 afterDay >>= _ = _
  rw [hhour, hnext]
  dsimp only
  rw [hcolon, hnext, hminute, hnext]
  dsimp only
  rw [hcolon, hnext, hsec, hnext]
  dsimp only
  rw [hfraction, hnext]
  dsimp only
  rw [hoffset, hnext]
  exact if_pos hend

/-- A moment is read as it was written. -/
theorem parse?_toText {t : Timestamp} (h : t.Sound) : parse? t.toText = some t := by
  obtain ⟨day, hday⟩ : ∃ day, day = CivilDay.ofDays (t.seconds / 86400) := ⟨_, rfl⟩
  obtain ⟨clock, hclock⟩ : ∃ clock, clock = (t.seconds % 86400).toNat := ⟨_, rfl⟩
  obtain ⟨sec, hsec⟩ : ∃ sec, sec = clock % 60 + if second ≤ t.nanos then 1 else 0 := ⟨_, rfl⟩
  have hyear := h.year
  have hof := h.of? clock (by omega)
  have hexists := CivilDay.of?_ofDays (t.seconds / 86400)
  obtain ⟨hmonth, hdate⟩ := CivilDay.bounds_ofDays (t.seconds / 86400)
  rw [← hday] at hyear hof hexists hmonth hdate
  rw [← hsec] at hof
  have htext : t.toText.toList = (Ascii.padded 4 day.year.toNat).toList ++
      '-' :: ((Ascii.padded 2 day.month).toList ++ '-' :: ((Ascii.padded 2 day.day).toList ++
      'T' :: ((Ascii.padded 2 (clock / 3600)).toList ++
      ':' :: ((Ascii.padded 2 (clock / 60 % 60)).toList ++ ':' :: ((Ascii.padded 2 sec).toList ++
      ((fractionText (t.nanos % second)).toList ++ ['Z'])))))) := by
    have hdash : "-".toList = ['-'] := rfl
    have hcolon : ":".toList = [':'] := rfl
    have hT : "T".toList = ['T'] := rfl
    have hZ : "Z".toList = ['Z'] := rfl
    unfold toText wholeText yearText
    dsimp only
    rw [← hday, ← hclock, ← hsec, if_pos hyear]
    simp only [String.toList_append, hdash, hcolon, hT, hZ, List.append_assoc, List.cons_append,
      List.nil_append]
  have hnat : (day.year.toNat : Int) = day.year := Int.toNat_of_nonneg hyear.1
  have hread := year?_padded (n := day.year.toNat) (by omega)
  have hsixty : sec < 100 := by
    rw [hsec]
    split <;> omega
  have hsecond : t.nanos % second < second := Nat.mod_lt _ (by decide)
  rw [parse?_parts (by rw [htext, hread, hnat]) (part?_padded (by omega) _)
    (part?_padded (by omega) _) (part?_padded (by omega) _) (part?_padded (by omega) _)
    (part?_padded hsixty _) (fraction?_fractionText hsecond _), hexists, Option.bind_some, hof]

/-- Half a leap second has passed. -/
example : toText ⟨1483228799, 1500000000⟩ = "2016-12-31T23:59:60.500Z" := by decide +kernel

end Timestamp

end RelayFleet
