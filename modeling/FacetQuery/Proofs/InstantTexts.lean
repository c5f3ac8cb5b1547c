/-
**Instants written and read.**

An instant of the years with four digits is written by parts of fixed width with one character
between them, so each part is read off the front of the text whatever stands behind it. Only the
fraction has no width of its own: it ends at the sign of the offset. A leap second is written as the
second sixty of its minute, which is read as the second before it and a thousand million nanoseconds
more. Behind any other second so many nanoseconds are written as the next one, so an instant with
them has no text of its own.

* `Rfc3339.fixed?_padded` — **a number is read off the front** of its padded digits.
* `Rfc3339.readDate?_writeDate`, `Rfc3339.readTime?_writeTime`,
  `Rfc3339.readFraction?_writeFraction` — **each part is read off the front** of what it is written
  as.
* `Instant.ofParts?_parts` — a regular instant is made of its day, its second of the day and its
  nanoseconds.
* `Instant.shown` — **the instant that a text shows**: the regular one at the same time.
* `Rfc3339.read?_write` — **the text of an instant is read as the instant that it shows.**
-/

import FacetQuery.Proofs.CalendarDays
import FacetQuery.Proofs.IntegerKeys

namespace FacetQuery

/-! ### Digits -/

namespace Scan

/-- Zeros in front of digits count for nothing. -/
theorem natural_zeros (count : Nat) (digits : List Char) :
    natural (List.replicate count '0' ++ digits) = natural digits := by
  induction count with
  | zero => rfl
  | succ count later =>
    rw [List.replicate_succ, List.cons_append, ← later]
    rfl

end Scan

namespace Rfc3339

variable {width n : Nat} {rest : List Char}

theorem length_padded (positive : 0 < width) (short : n < 10 ^ width) :
    (padded width n).length = width := by
  have fits : (Nat.toDigits 10 n).length ≤ width :=
    (Nat.length_toDigits_le_iff (by decide) positive).mpr short
  unfold padded
  rw [List.length_append, List.length_replicate]
  exact Nat.sub_add_cancel fits

theorem isDigit_of_mem_padded {c : Char} (member : c ∈ padded width n) : c.isDigit = true := by
  unfold padded at member
  rcases List.mem_append.mp member with zero | digit
  · rw [List.eq_of_mem_replicate zero]
    rfl
  · exact Scan.isDigit_of_mem digit

theorem natural_padded (width n : Nat) : Scan.natural (padded width n) = n := by
  unfold padded
  rw [Scan.natural_zeros, Scan.natural_toDigits]

/-- **A number is read off the front** of its digits, padded to a width that it fits. -/
theorem fixed?_padded (positive : 0 < width) (short : n < 10 ^ width) :
    fixed? width (padded width n ++ rest) = some (n, rest) := by
  have length := length_padded positive short
  have digits : (padded width n).all Char.isDigit = true :=
    List.all_eq_true.mpr fun _ member => isDigit_of_mem_padded member
  rw [fixed?, List.take_left' length, List.drop_left' length]
  exact (if_pos ⟨length, digits⟩).trans (by rw [natural_padded])

theorem fixed?_two (short : n < 100) : fixed? 2 (padded 2 n ++ rest) = some (n, rest) :=
  fixed?_padded (by decide) short

theorem expect?_cons (c : Char) (others rest : List Char) :
    expect? (c :: others) (c :: rest) = some rest :=
  if_pos List.mem_cons_self

/-! ### Parts of a text -/

/-- The months and days of the calendar have at most two digits. -/
theorem digits_of_isValid {date : CalendarDate} (valid : date.isValid = true) :
    date.month < 100 ∧ date.day < 100 := by
  rw [CalendarDate.isValid, decide_eq_true_iff] at valid
  have longest : CalendarDate.monthLength date.year date.month ≤ 31 := by
    unfold CalendarDate.monthLength
    split
    · split <;> decide
    · split <;> decide
  omega

/-- **A date of a year of four digits is read off the front** of what it is written as. -/
theorem readDate?_writeDate {date : CalendarDate} (valid : date.isValid = true)
    (years : 0 ≤ date.year ∧ date.year ≤ 9999) :
    readDate? (writeDate date ++ rest) = some (date, rest) := by
  obtain ⟨month, day⟩ := digits_of_isValid valid
  have year : date.year.toNat < 10 ^ 4 := by omega
  have whole : (⟨date.year.toNat, date.month, date.day⟩ : CalendarDate) = date := by
    rw [Int.toNat_of_nonneg years.1]
  unfold writeDate writeYear readDate?
  rw [if_pos years]
  simp only [List.append_assoc, List.cons_append, List.nil_append, Option.bind_eq_bind,
    Option.bind_some, fixed?_padded (by decide) year, fixed?_two month, fixed?_two day,
    expect?_cons, whole]
  exact if_pos valid

/-- The seconds of a minute go to sixty in a leap second, which is read as the one before it. -/
theorem second_of_leap {second : Nat} {leap : Bool} (last : leap = true → second % 60 = 59) :
    second % 60 + (if leap then 1 else 0) ≤ 60 ∧
      min (second % 60 + if leap then 1 else 0) 59 = second % 60 ∧
      decide (second % 60 + (if leap then 1 else 0) = 60) = leap := by
  have below := Nat.mod_lt second (by decide : 60 > 0)
  cases leap with
  | true =>
    rw [last rfl]
    decide
  | false =>
    refine ⟨Nat.le_of_lt below, Nat.min_eq_left (Nat.le_of_lt_succ below), decide_eq_false ?_⟩
    exact Nat.ne_of_lt below

/-- **A time of day is read off the front** of what it is written as. -/
theorem readTime?_writeTime {second : Nat} {leap : Bool} (day : second < 86400)
    (last : leap = true → second % 60 = 59) :
    readTime? (writeTime second leap ++ rest) = some (second, leap, rest) := by
  obtain ⟨most, counted, sixty⟩ := second_of_leap last
  have hours : second / 3600 < 24 := by omega
  have minutes : second / 60 % 60 < 60 := Nat.mod_lt _ (by decide)
  have whole : second / 3600 * 3600 + second / 60 % 60 * 60 + second % 60 = second := by omega
  unfold writeTime readTime?
  simp only [List.append_assoc, List.cons_append, List.nil_append, Option.bind_eq_bind,
    Option.bind_some, fixed?_two (Nat.lt_trans hours (by decide)),
    fixed?_two (Nat.lt_trans minutes (by decide)), fixed?_two (Nat.lt_of_le_of_lt most (by decide)),
    expect?_cons, counted, sixty, whole]
  exact if_pos ⟨hours, minutes, most⟩

/-- The digits behind a point, up to a sign. -/
theorem digits_padded :
    Scan.digits (padded width n ++ '+' :: rest) = (padded width n, '+' :: rest) := by
  have digits : ∀ c ∈ padded width n, c.isDigit = true := fun _ => isDigit_of_mem_padded
  rw [Scan.digits, List.takeWhile_append_of_pos digits, List.dropWhile_append_of_pos digits]
  exact Prod.ext (List.append_nil _) rfl

/-- Digits behind a point count from the first of nine. -/
theorem readFraction?_padded {nanos : Nat} (positive : 0 < width) (short : width ≤ 9)
    (below : n < 10 ^ width) (same : n * 10 ^ (9 - width) = nanos) :
    readFraction? ('.' :: padded width n ++ '+' :: rest) = some (nanos, '+' :: rest) := by
  have length := length_padded positive below
  have taken : (padded width n).take 9 = padded width n :=
    List.take_of_length_le (length.trans_le short)
  have given : ¬ (padded width n).isEmpty = true := by
    rw [List.isEmpty_iff_length_eq_zero, length]
    exact Nat.ne_of_gt positive
  rw [List.cons_append, readFraction?, digits_padded]
  dsimp only
  rw [if_neg given, taken, natural_padded, length, ← same]
  rfl

/-- **A fraction of a second is read off the front** of what it is written as, up to the sign of the
offset. -/
theorem readFraction?_writeFraction {nanos : Nat} (short : nanos < 1000000000) :
    readFraction? (writeFraction nanos ++ '+' :: rest) = some (nanos, '+' :: rest) := by
  unfold writeFraction
  split
  · rename_i whole
    rw [whole]
    rfl
  split
  · rename_i millis
    exact readFraction?_padded (by decide) (by decide) (by omega)
      (Nat.div_mul_cancel (Nat.dvd_of_mod_eq_zero millis))
  split
  · rename_i micros
    exact readFraction?_padded (by decide) (by decide) (by omega)
      (Nat.div_mul_cancel (Nat.dvd_of_mod_eq_zero micros))
  · exact readFraction?_padded (by decide) (by decide) short (Nat.mul_one nanos)

theorem readOffset?_zero : readOffset? ['+', '0', '0', ':', '0', '0'] = some 0 := by
  decide

end Rfc3339

/-! ### Instants -/

namespace Instant

/-- The year of an instant. -/
def year (time : Instant) : Int := (CalendarDate.ofDays time.days).year

theorem secondOfDay_lt (time : Instant) : time.secondOfDay < 86400 := by
  unfold secondOfDay
  omega

/-- A regular instant has a second more of nanoseconds only behind the last second of a minute. -/
theorem Regular.last_of_carries {time : Instant} (regular : time.Regular)
    (carries : time.carries = true) : time.secondOfDay % 60 = 59 := by
  have behind : 1000000000 ≤ time.nanos := of_decide_eq_true carries
  have last : time.seconds % 60 = 59 := regular.resolve_left (Nat.not_lt.mpr behind)
  unfold secondOfDay
  omega

/-- **A regular instant is made of its day, its second of the day and its nanoseconds.** -/
theorem Regular.ofParts?_parts {time : Instant} (regular : time.Regular) :
    ofParts? (time.days * 86400 + time.secondOfDay)
      (time.nanos % 1000000000 + if time.carries then 1000000000 else 0) = some time := by
  have seconds : time.seconds = time.days * 86400 + time.secondOfDay := by
    unfold days secondOfDay
    omega
  have nanos : time.nanos = time.nanos % 1000000000 + if time.carries then 1000000000 else 0 := by
    have most : time.nanos < 2000000000 := time.inRange.2.2
    unfold carries
    split
    · rename_i more
      have behind := of_decide_eq_true more
      omega
    · rename_i less
      have before : ¬ 1000000000 ≤ time.nanos := fun behind => less (decide_eq_true behind)
      omega
  exact ofParts?_eq_some.mpr ⟨seconds, nanos, regular⟩

/-- What is not regular has a second more of nanoseconds, and its minute goes on. -/
theorem carries_of_not_regular {time : Instant} (irregular : ¬ time.Regular) :
    1000000000 ≤ time.nanos ∧ time.seconds % 60 ≠ 59 := by
  unfold Regular at irregular
  omega

/-- **The instant that the text of an instant shows**: itself if it is regular, and else the next
second with a thousand million nanoseconds less. -/
def shown (time : Instant) : Instant :=
  if regular : time.Regular then time
  else
    { seconds := time.seconds + 1
      nanos := time.nanos - 1000000000
      inRange := by
        obtain ⟨_, goesOn⟩ := carries_of_not_regular regular
        obtain ⟨low, high, short⟩ := time.inRange
        unfold earliest at low
        unfold latest at high
        unfold InRange earliest latest
        omega }

theorem Regular.shown_eq {time : Instant} (regular : time.Regular) : time.shown = time :=
  dif_pos regular

/-- What a text shows is regular. -/
theorem regular_shown (time : Instant) : time.shown.Regular := by
  unfold shown
  split
  · assumption
  · have short : time.nanos < 2000000000 := time.inRange.2.2
    refine .inl ?_
    show time.nanos - 1000000000 < 1000000000
    omega

/-- **A text shows its instant exactly if that is regular.** -/
theorem shown_eq_self_iff {time : Instant} : time.shown = time ↔ time.Regular :=
  ⟨fun same => same ▸ time.regular_shown, Regular.shown_eq⟩

/-- What a text shows is on the same day. -/
theorem days_shown (time : Instant) : time.shown.days = time.days := by
  unfold shown
  split
  · rfl
  · rename_i irregular
    obtain ⟨_, goesOn⟩ := carries_of_not_regular irregular
    show (time.seconds + 1) / 86400 = time.seconds / 86400
    omega

end Instant

/-- An instant and the one that its text shows have one text. -/
theorem Rfc3339.write_shown (time : Instant) : write time.shown = write time := by
  by_cases regular : time.Regular
  · rw [regular.shown_eq]
  · obtain ⟨behind, goesOn⟩ := Instant.carries_of_not_regular regular
    have short : time.nanos < 2000000000 := time.inRange.2.2
    have parts : time.shown.seconds = time.seconds + 1 ∧
        time.shown.nanos = time.nanos - 1000000000 := by
      rw [Instant.shown, dif_neg regular]
      exact ⟨rfl, rfl⟩
    have second : time.shown.secondOfDay = time.secondOfDay + 1 := by
      unfold Instant.secondOfDay
      omega
    have more : time.carries = true := decide_eq_true behind
    have less : time.shown.carries = false := decide_eq_false (by omega)
    have clock : writeTime (time.secondOfDay + 1) false = writeTime time.secondOfDay true := by
      have goesOn : time.secondOfDay % 60 ≠ 59 := by
        unfold Instant.secondOfDay
        omega
      have hour : (time.secondOfDay + 1) / 3600 = time.secondOfDay / 3600 := by omega
      have minute : (time.secondOfDay + 1) / 60 % 60 = time.secondOfDay / 60 % 60 := by omega
      have counted : (time.secondOfDay + 1) % 60 + 0 = time.secondOfDay % 60 + 1 := by omega
      simp only [writeTime, hour, minute, Bool.false_eq_true, if_false, if_true, counted]
    have fraction : time.shown.nanos % 1000000000 = time.nanos % 1000000000 := by omega
    rw [write, write, time.days_shown, second, more, less, clock, fraction]

/-- The text of a regular instant of the years from 0 to 9999 is read as the instant. -/
theorem Rfc3339.read?_write_of_regular {time : Instant} (regular : time.Regular)
    (years : 0 ≤ time.year ∧ time.year ≤ 9999) : read? (write time) = some time := by
  have valid := CalendarDate.isValid_ofDays time.days
  have short : time.nanos % 1000000000 < 1000000000 := Nat.mod_lt _ (by decide)
  unfold read? write
  simp only [String.toList_ofList, List.append_assoc, List.cons_append, List.nil_append,
    Option.bind_eq_bind, Option.bind_some, readDate?_writeDate valid years, expect?_cons,
    readTime?_writeTime time.secondOfDay_lt regular.last_of_carries,
    readFraction?_writeFraction short, readOffset?_zero, CalendarDate.toDays_ofDays, Int.sub_zero]
  exact regular.ofParts?_parts

/-- **The text of an instant of the years from 0 to 9999 is read as the instant that it shows.** -/
theorem Rfc3339.read?_write {time : Instant} (years : 0 ≤ time.year ∧ time.year ≤ 9999) :
    read? (write time) = some time.shown := by
  have same : time.shown.year = time.year := by
    unfold Instant.year
    rw [time.days_shown]
  rw [← write_shown]
  exact read?_write_of_regular time.regular_shown (same ▸ years)

end FacetQuery
