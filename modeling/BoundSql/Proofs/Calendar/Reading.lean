import BoundSql.Calendar.Reader
import BoundSql.Calendar.Text
import BoundSql.Proofs.DayNumber
import Mathlib.Data.List.Basic

/-!
# Written dates and times are read

What is written is read in front of any rest. Every number but a year with a sign has just the
digits that its reader takes at most, and a year with a sign ends at the hyphen behind it. Dates
(`readDate_chars`) and clocks (`exists_readTime_clockChars`) are put together from these. No reader
takes the fraction of a second, so it is left over: by `ofLooseText?_text` that alone decides
whether the text of a moment names a day.
-/

namespace BoundSql

/-! ## Digits -/

namespace Text
variable {digits rest : List Char} {c : Char} {width n : Nat}

theorem isDigit_of_mem_paddedChars (hc : c ∈ paddedChars width n) : isDigit c = true := by
  rcases List.mem_append.mp hc with hzero | hdigit
  · rw [List.eq_of_mem_replicate hzero]
    rfl
  · exact isDigit_of_mem_natChars hdigit

theorem digitsValue_paddedChars (width n : Nat) : digitsValue (paddedChars width n) = n := by
  have hvalue : digitsValue (paddedChars width n) = Nat.ofDigitChars 10 (paddedChars width n) 0 :=
    rfl
  rw [hvalue, paddedChars, Nat.ofDigitChars_append, Nat.ofDigitChars_replicate_zero, Nat.mul_zero]
  exact Nat.ofDigitChars_ten_toDigits

theorem length_paddedChars (hwidth : 0 < width) (hn : n < Nat.pow 10 width) :
    (paddedChars width n).length = width := by
  have hlength : (natChars n).length ≤ width :=
    (Nat.length_toDigits_le_iff (by decide) hwidth).mpr hn
  rw [paddedChars, List.length_append, List.length_replicate]
  omega

theorem exists_paddedChars_eq_cons (width n : Nat) :
    ∃ c cs, paddedChars width n = c :: cs ∧ isDigit c = true := by
  have hne : paddedChars width n ≠ [] := List.append_ne_nil_of_right_ne_nil _ Nat.toDigits_ne_nil
  obtain ⟨c, cs, hcs⟩ := List.exists_cons_of_ne_nil hne
  exact ⟨c, cs, hcs, isDigit_of_mem_paddedChars (hcs ▸ List.mem_cons_self)⟩

theorem isBlank_of_isDigit (hc : isDigit c = true) : isBlank c = false := by
  simp only [isDigit, Bool.and_eq_true, decide_eq_true_eq, Char.le_def,
    UInt32.le_iff_toNat_le] at hc
  have hlow : 48 ≤ c.toNat := hc.1
  have hhigh : c.toNat ≤ 57 := hc.2
  exact isBlank_of_between (by omega) (by omega)

theorem isBlank_of_mem_paddedChars (width n : Nat) :
    ∀ c ∈ paddedChars width n, isBlank c = false :=
  fun _ hc => isBlank_of_isDigit (isDigit_of_mem_paddedChars hc)

/-- Digits are taken up to the last that may be, or to what is no digit. -/
theorem spanDigits_append_of_isDigit (hdigits : ∀ c ∈ digits, isDigit c = true) {more : Nat}
    (hends : more = 0 ∨ ∀ c ∈ rest.head?, isDigit c = false) :
    spanDigits (digits.length + more) (digits ++ rest) = (digits, rest) := by
  induction digits with
  | nil =>
      rw [List.length_nil, Nat.zero_add, List.nil_append]
      obtain rfl | hrest := hends
      · rfl
      · match more, rest with
        | 0, _ => rfl
        | _ + 1, [] => rfl
        | _ + 1, c :: rest =>
            rw [spanDigits, hrest c rfl]
            rfl
  | cons c digits ih =>
      rw [List.forall_mem_cons] at hdigits
      rw [List.length_cons, Nat.add_right_comm, List.cons_append, spanDigits, if_pos hdigits.1,
        ih hdigits.2]

/-! ## Blanks around a text -/

theorem dropBlanks_eq_self {cs : List Char} (hcs : ∀ c ∈ cs.head?, isBlank c = false) :
    dropBlanks cs = cs := by
  cases cs with
  | nil => rfl
  | cons c cs => exact List.dropWhile_cons_of_neg (by simp [hcs c rfl])

theorem dropBlanks_append {blanks cs : List Char} (hblanks : ∀ c ∈ blanks, isBlank c = true)
    (hcs : ∀ c ∈ cs.head?, isBlank c = false) : dropBlanks (blanks ++ cs) = cs := by
  rw [dropBlanks, List.dropWhile_append_of_pos hblanks]
  exact dropBlanks_eq_self hcs

theorem trimChars_surrounded {left cs right : List Char} (hleft : ∀ c ∈ left, isBlank c = true)
    (hright : ∀ c ∈ right, isBlank c = true) (hne : cs ≠ [])
    (hfirst : ∀ c ∈ cs.head?, isBlank c = false) (hlast : ∀ c ∈ cs.getLast?, isBlank c = false) :
    trimChars (left ++ cs ++ right) = cs := by
  have hhead : (cs ++ right).head? = cs.head? := List.head?_append_of_ne_nil _ hne
  rw [trimChars, List.append_assoc, dropBlanks_append hleft (hhead ▸ hfirst), List.reverse_append,
    dropBlanks_append (by simpa using hright) (by simpa using hlast), List.reverse_reverse]

end Text

namespace Calendar

open BoundSql.Text

/-! ## Numbers -/

section
variable (width n : Nat) (rest : List Char)

theorem dropBlanks_paddedChars :
    dropBlanks (paddedChars width n ++ rest) = paddedChars width n ++ rest := by
  obtain ⟨c, cs, hcs, hc⟩ := exists_paddedChars_eq_cons width n
  rw [hcs]
  exact dropBlanks_eq_self (by simpa using isBlank_of_isDigit hc)

/-- A number is read if its digits are as many as may be, or if what follows is no digit. -/
theorem readDigits_paddedChars {more : Nat}
    (hends : more = 0 ∨ ∀ c ∈ rest.head?, isDigit c = false) :
    readDigits ((paddedChars width n).length + more) (paddedChars width n ++ rest) =
      some (n, rest) := by
  have hdigits : ∀ c ∈ paddedChars width n, isDigit c = true :=
    fun _ hc => isDigit_of_mem_paddedChars hc
  have hspan := spanDigits_append_of_isDigit hdigits hends
  obtain ⟨c, cs, hcs, -⟩ := exists_paddedChars_eq_cons width n
  have hvalue := digitsValue_paddedChars width n
  rw [hcs] at hspan hvalue ⊢
  simp only [readDigits, hspan, hvalue]

variable {n} in
theorem readShort_paddedChars (hn : n < 100) :
    readShort (paddedChars 2 n ++ rest) = some (n, rest) := by
  have hread := readDigits_paddedChars 2 n rest (.inl rfl)
  rw [length_paddedChars (by decide) hn] at hread
  rw [readShort, dropBlanks_paddedChars, hread]

/-- A year is read in front of the hyphen behind it. -/
theorem readYear_yearChars (year : Int) :
    readYear (yearChars year ++ '-' :: rest) = some (year, '-' :: rest) := by
  -- Behind a sign there is no bound to the digits, but the hyphen is none.
  have hsigned : readDigits (paddedChars 4 year.natAbs ++ '-' :: rest).length
      (paddedChars 4 year.natAbs ++ '-' :: rest) = some (year.natAbs, '-' :: rest) := by
    rw [List.length_append]
    exact readDigits_paddedChars _ _ _ (.inr (by rintro _ ⟨⟩; rfl))
  unfold yearChars
  split
  case isTrue hrange =>
    obtain ⟨hlow, hhigh⟩ : 0 ≤ year ∧ year ≤ 9999 := by simpa using hrange
    have hunsigned := readDigits_paddedChars 4 year.natAbs ('-' :: rest) (.inl rfl)
    have hfits : year.natAbs < Nat.pow 10 4 := by
      change year.natAbs < 10000
      omega
    rw [length_paddedChars (by decide) hfits] at hunsigned
    obtain ⟨c, cs, hcs, hc⟩ := exists_paddedChars_eq_cons 4 year.natAbs
    rw [readYear, dropBlanks_paddedChars]
    rw [hcs] at hunsigned ⊢
    split
    case h_1 heq =>
      cases heq
      cases hc
    case h_2 heq =>
      cases heq
      cases hc
    case h_3 =>
      rw [hunsigned]
      simp only [Option.map_some, Int.natAbs_of_nonneg hlow]
  case isFalse hrange =>
    split
    case isTrue hneg =>
      have hyear : -(year.natAbs : Int) = year := by omega
      have hread : readYear ('-' :: (paddedChars 4 year.natAbs ++ '-' :: rest)) =
          (readDigits _ (paddedChars 4 year.natAbs ++ '-' :: rest)).map
            fun taken => (-(taken.1 : Int), taken.2) := rfl
      rw [List.cons_append, hread, hsigned]
      simp only [Option.map_some, hyear]
    case isFalse hneg =>
      have hyear : (year.natAbs : Int) = year := by omega
      have hread : readYear ('+' :: (paddedChars 4 year.natAbs ++ '-' :: rest)) =
          (readDigits _ (paddedChars 4 year.natAbs ++ '-' :: rest)).map
            fun taken => ((taken.1 : Int), taken.2) := rfl
      rw [List.cons_append, hread, hsigned]
      simp only [Option.map_some, hyear]

theorem readMark_cons (mark : Char) : readMark mark (mark :: rest) = some ((), rest) :=
  if_pos rfl

end

/-! ## Dates -/

namespace Date
variable (d : Date)

/-- A date is read in front of any rest. -/
theorem readDate_chars (rest : List Char) : readDate (d.chars ++ rest) = some (d, rest) := by
  have hmonth : d.month < 100 := by
    have hbounds := d.month_bounds
    omega
  have hday : d.day < 100 := by
    have hbounds := d.day_bounds
    omega
  simp only [readDate, chars, List.append_assoc, List.cons_append, readYear_yearChars,
    Option.bind_eq_bind, Option.bind_some, readMark_cons, readShort_paddedChars _ hmonth,
    readShort_paddedChars _ hday, of?_self]
  rfl

theorem chars_ne_nil : d.chars ≠ [] :=
  List.append_ne_nil_of_right_ne_nil _ (List.cons_ne_nil _ _)

theorem isBlank_of_mem_chars : ∀ c ∈ d.chars, isBlank c = false := by
  have hyear : ∀ c ∈ yearChars d.year, isBlank c = false := by
    unfold yearChars
    split
    case isTrue => exact isBlank_of_mem_paddedChars _ _
    case isFalse =>
      rw [List.forall_mem_cons]
      refine ⟨?_, isBlank_of_mem_paddedChars _ _⟩
      split <;> rfl
  have hhyphen : isBlank '-' = false := rfl
  simp only [chars, List.append_assoc, List.cons_append, List.forall_mem_append,
    List.forall_mem_cons]
  exact ⟨hyear, hhyphen, isBlank_of_mem_paddedChars _ _, hhyphen,
    isBlank_of_mem_paddedChars _ _⟩

end Date

/-! ## Times of day -/

theorem exists_fractionChars_eq_cons {nanos : Nat} (h : nanos ≠ 0) :
    ∃ width n, fractionChars nanos = '.' :: paddedChars width n := by
  rw [fractionChars, if_neg h]
  split
  · exact ⟨_, _, rfl⟩
  · split
    · exact ⟨_, _, rfl⟩
    · exact ⟨_, _, rfl⟩

theorem fractionChars_eq_nil_iff {nanos : Nat} : fractionChars nanos = [] ↔ nanos = 0 := by
  constructor
  · intro hnil
    by_contra hzero
    obtain ⟨width, n, hchars⟩ := exists_fractionChars_eq_cons hzero
    cases hchars.symm.trans hnil
  · rintro rfl
    rfl

namespace Time
variable (t : Time)

/-- The second that the clock shows; a leap second is one more. -/
def secondShown : Nat := t.second % 60 + if t.isLeap then 1 else 0

/-- The nanoseconds behind the second that the clock shows. -/
def fraction : Nat := t.nanos % 1000000000

/-- Hour, minute and second. -/
def clockChars : List Char :=
  paddedChars 2 t.hourShown ++ ':' :: paddedChars 2 t.minuteShown ++
    ':' :: paddedChars 2 t.secondShown

theorem chars_eq : t.chars = t.clockChars ++ fractionChars t.fraction := by
  have hfraction : (if t.isLeap then t.nanos - 1000000000 else t.nanos) = t.fraction := by
    have hnanos := t.nanos_lt
    simp only [isLeap, decide_eq_true_eq, fraction]
    split <;> omega
  rw [chars, hfraction]
  rfl

theorem exists_of? {hour minute second nanos : Nat} (hhour : hour < 24) (hminute : minute < 60)
    (hsecond : second < 60) (hnanos : nanos < 2000000000) :
    ∃ time, of? hour minute second nanos = some time :=
  ⟨_, dif_pos ⟨hhour, hminute, hsecond, hnanos⟩⟩

/-- A clock is read in front of any rest. -/
theorem exists_readTime_clockChars :
    ∃ time, ∀ rest, readTime (t.clockChars ++ rest) = some (time, rest) := by
  have hsecond := t.second_lt
  have hhour : t.hourShown < 24 := by
    unfold hourShown
    omega
  have hminute : t.minuteShown < 60 := by
    unfold minuteShown
    omega
  have hshown : t.secondShown ≤ 60 := by
    unfold secondShown
    split <;> omega
  obtain ⟨time, hleap, husual⟩ : ∃ time,
      (t.secondShown = 60 → of? t.hourShown t.minuteShown 59 1000000000 = some time) ∧
      (t.secondShown ≠ 60 → of? t.hourShown t.minuteShown t.secondShown 0 = some time) := by
    by_cases hsixty : t.secondShown = 60
    · obtain ⟨time, htime⟩ : ∃ time, of? t.hourShown t.minuteShown 59 1000000000 = some time :=
        exists_of? hhour hminute (by decide) (by decide)
      exact ⟨time, fun _ => htime, absurd hsixty⟩
    · obtain ⟨time, htime⟩ : ∃ time, of? t.hourShown t.minuteShown t.secondShown 0 = some time :=
        exists_of? hhour hminute (by omega) (by decide)
      exact ⟨time, fun h => absurd h hsixty, fun _ => htime⟩
  refine ⟨time, fun rest => ?_⟩
  simp only [readTime, clockChars, List.append_assoc, List.cons_append, Option.bind_eq_bind,
    Option.bind_some, readMark_cons, readShort_paddedChars _ (Nat.lt_trans hhour (by decide)),
    readShort_paddedChars _ (Nat.lt_trans hminute (by decide)),
    readShort_paddedChars _ (Nat.lt_of_le_of_lt hshown (by decide))]
  split
  case isTrue hsixty =>
    rw [hleap hsixty]
    rfl
  case isFalse hsixty =>
    rw [husual hsixty]
    rfl

/-- The fraction of the second is left over. -/
theorem exists_readTime_chars :
    ∃ time, readTime t.chars = some (time, fractionChars t.fraction) := by
  obtain ⟨time, htime⟩ := t.exists_readTime_clockChars
  exact ⟨time, t.chars_eq ▸ htime _⟩

theorem isBlank_of_mem_chars : ∀ c ∈ t.chars, isBlank c = false := by
  have hcolon : isBlank ':' = false := rfl
  have hpoint : isBlank '.' = false := rfl
  have hfraction : ∀ c ∈ fractionChars t.fraction, isBlank c = false := by
    by_cases hzero : t.fraction = 0
    · rw [fractionChars_eq_nil_iff.mpr hzero]
      exact List.forall_mem_nil _
    · obtain ⟨width, n, hchars⟩ := exists_fractionChars_eq_cons hzero
      rw [hchars]
      exact List.forall_mem_cons.mpr ⟨hpoint, isBlank_of_mem_paddedChars _ _⟩
  simp only [chars_eq, clockChars, List.append_assoc, List.cons_append, List.forall_mem_append,
    List.forall_mem_cons]
  exact ⟨isBlank_of_mem_paddedChars _ _, hcolon, isBlank_of_mem_paddedChars _ _, hcolon,
    isBlank_of_mem_paddedChars _ _, hfraction⟩

end Time

/-! ## Whole texts -/

/-- A reader takes the whole of a text if it leaves nothing. -/
theorem Reader.whole_of_eq {α : Type} {read : Reader α} {cs rest : List Char} {a : α}
    (h : read cs = some (a, rest)) : read.whole cs = if rest = [] then some a else none := by
  rw [Reader.whole, h]
  cases rest with
  | nil => rfl
  | cons c rest => rfl

theorem Reader.whole_of_eq_none {α : Type} {read : Reader α} {cs : List Char}
    (h : read cs = none) : read.whole cs = none := by
  rw [Reader.whole, h]

/-- The text of a date names it, whatever blanks are around. -/
theorem Date.ofLooseText?_chars (d : Date) {left right : List Char}
    (hleft : ∀ c ∈ left, isBlank c = true) (hright : ∀ c ∈ right, isBlank c = true) :
    Date.ofLooseText? (.ofList (left ++ d.chars ++ right)) = some d := by
  have hchars := d.isBlank_of_mem_chars
  have htrim : trimChars (left ++ d.chars ++ right) = d.chars :=
    trimChars_surrounded hleft hright d.chars_ne_nil
      (fun c hc => hchars c (List.mem_of_mem_head? hc))
      fun c hc => hchars c (List.mem_of_mem_getLast? hc)
  have hread := d.readDate_chars []
  rw [List.append_nil] at hread
  rw [Date.ofLooseText?, String.toList_ofList, htrim, Reader.whole_of_eq hread]
  rfl

namespace DateTime
variable (t : DateTime)

/-- There are no blanks around the text of a moment. -/
theorem trimChars_chars (between : Char) : trimChars (t.chars between) = t.chars between := by
  have htime : t.time.chars ≠ [] := List.append_ne_nil_of_left_ne_nil (by simp) _
  have hfirst : ∀ c ∈ (t.chars between).head?, isBlank c = false := by
    intro c hc
    rw [chars, List.head?_append_of_ne_nil _ t.date.chars_ne_nil] at hc
    exact t.date.isBlank_of_mem_chars c (List.mem_of_mem_head? hc)
  have hlast : ∀ c ∈ (t.chars between).getLast?, isBlank c = false := by
    intro c hc
    rw [chars, List.append_cons, List.getLast?_append_of_ne_nil _ htime] at hc
    exact t.time.isBlank_of_mem_chars c (List.mem_of_mem_getLast? hc)
  have hne : t.chars between ≠ [] := List.append_ne_nil_of_left_ne_nil t.date.chars_ne_nil _
  have htrim : trimChars ([] ++ t.chars between ++ []) = t.chars between :=
    trimChars_surrounded (by simp) (by simp) hne hfirst hlast
  simpa using htrim

theorem whole_readDate_chars (between : Char) : Reader.whole readDate (t.chars between) = none := by
  rw [chars, Reader.whole_of_eq (t.date.readDate_chars _), if_neg (List.cons_ne_nil _ _)]

/-- A moment that is read up to the fraction of its second is the whole text if there is none. -/
theorem map_date_whole {read : Reader DateTime} {cs : List Char} (time : Time)
    (h : read cs = some (⟨t.date, time⟩, fractionChars t.time.fraction)) :
    (Reader.whole read cs).map date = if t.time.fraction = 0 then some t.date else none := by
  rw [Reader.whole_of_eq h]
  simp only [fractionChars_eq_nil_iff]
  split <;> rfl

/-! ### With a space -/

theorem map_date_whole_readSpacedDateTime :
    (Reader.whole readSpacedDateTime (t.chars ' ')).map date =
      if t.time.fraction = 0 then some t.date else none := by
  obtain ⟨time, htime⟩ := t.time.exists_readTime_chars
  have hdrop : dropBlanks (' ' :: t.time.chars) = t.time.chars :=
    dropBlanks_eq_self fun c hc => t.time.isBlank_of_mem_chars c (List.mem_of_mem_head? hc)
  apply t.map_date_whole time
  simp only [readSpacedDateTime, chars, t.date.readDate_chars, Option.bind_eq_bind,
    Option.bind_some, hdrop, htime]
  rfl

theorem whole_readIsoDateTime_text : Reader.whole readIsoDateTime (t.chars ' ') = none := by
  have hmark : readMark 'T' (' ' :: t.time.chars) = none := rfl
  apply Reader.whole_of_eq_none
  simp only [readIsoDateTime, chars, t.date.readDate_chars, Option.bind_eq_bind, Option.bind_some,
    hmark, Option.bind_none]

/-- The text for people names the day if it has no fraction of a second. -/
theorem ofLooseText?_text :
    Date.ofLooseText? t.text = if t.time.fraction = 0 then some t.date else none := by
  simp [Date.ofLooseText?, text, t.trimChars_chars, t.whole_readDate_chars,
    t.map_date_whole_readSpacedDateTime, t.whole_readIsoDateTime_text]

/-! ### With the letter T -/

theorem whole_readSpacedDateTime_isoText :
    Reader.whole readSpacedDateTime (t.chars 'T') = none := by
  have hdrop : dropBlanks ('T' :: t.time.chars) = 'T' :: t.time.chars := rfl
  have hshort : readShort ('T' :: t.time.chars) = none := rfl
  apply Reader.whole_of_eq_none
  simp only [readSpacedDateTime, chars, t.date.readDate_chars, Option.bind_eq_bind,
    Option.bind_some, hdrop, readTime, hshort, Option.bind_none]

theorem map_date_whole_readIsoDateTime :
    (Reader.whole readIsoDateTime (t.chars 'T')).map date =
      if t.time.fraction = 0 then some t.date else none := by
  obtain ⟨time, htime⟩ := t.time.exists_readTime_chars
  apply t.map_date_whole time
  simp only [readIsoDateTime, chars, t.date.readDate_chars, Option.bind_eq_bind,
    Option.bind_some, readMark_cons, htime]
  rfl

/-- The text in data names the day if it has no fraction of a second. -/
theorem ofLooseText?_isoText :
    Date.ofLooseText? t.isoText = if t.time.fraction = 0 then some t.date else none := by
  simp [Date.ofLooseText?, isoText, t.trimChars_chars, t.whole_readDate_chars,
    t.whole_readSpacedDateTime_isoText, t.map_date_whole_readIsoDateTime]

end DateTime

end Calendar

end BoundSql
