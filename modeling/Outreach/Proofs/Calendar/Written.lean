import Mathlib.Data.List.TakeWhile
import Outreach.Calendar.Reading
import Outreach.Proofs.Calendar.Days

/-!
# Written times

The ISO form of a time is read back as the time it was written from: its digits, its fraction and
its zone. A text without a zone is read as one in UTC, so it may end in `Z` or `+00:00` as well.
-/

namespace Outreach

/-! ## Digits -/

namespace Decimal

/-- The last digits of a number. -/
def lastDigits : Nat → Nat → List Char
  | 0, _ => []
  | width + 1, n => lastDigits width (n / 10) ++ [Nat.digitChar (n % 10)]

theorem length_lastDigits (width n : Nat) : (lastDigits width n).length = width := by
  induction width generalizing n with
  | zero => rfl
  | succ width ih => simp [lastDigits, ih]

theorem lastDigits_two (n : Nat) :
    lastDigits 2 n = [Nat.digitChar (n / 10 % 10), Nat.digitChar (n % 10)] := rfl

theorem lastDigits_zero (width : Nat) : lastDigits width 0 = List.replicate width '0' := by
  induction width with
  | zero => rfl
  | succ width ih => rw [lastDigits, Nat.zero_div, ih, List.replicate_succ']; rfl

theorem padZeros_toDigits {width n : Nat} (wide : 0 < width) (short : n < 10 ^ width) :
    padZeros width (Nat.toDigits 10 n) = lastDigits width n := by
  induction width generalizing n with
  | zero => exact absurd wide (Nat.lt_irrefl 0)
  | succ width ih =>
      rw [Nat.toDigits_eq_if (by decide), lastDigits]
      split
      · rename_i single
        rw [Nat.div_eq_of_lt single, Nat.mod_eq_of_lt single, lastDigits_zero]
        rfl
      · rename_i more
        have wide' : 0 < width := by
          rcases Nat.eq_zero_or_pos width with rfl | wide'
          · omega
          · exact wide'
        have short' : n / 10 < 10 ^ width := by
          rw [Nat.pow_succ] at short
          omega
        rw [← ih wide' short']
        simp [padZeros]

theorem toList_writePadded {width n : Nat} (wide : 0 < width) (short : n < 10 ^ width) :
    (writePadded width n).toList = lastDigits width n := by
  rw [writePadded, String.toList_ofList, padZeros_toDigits wide short]

theorem asciiDigit?_digitChar {n : Nat} (small : n < 10) :
    Text.asciiDigit? (Nat.digitChar n) = some n := by
  revert small
  revert n
  decide

theorem asciiDigit?_of_mem {width n : Nat} {c : Char} (cMem : c ∈ lastDigits width n) :
    ∃ d, Text.asciiDigit? c = some d := by
  induction width generalizing n with
  | zero => cases cMem
  | succ width ih =>
      rcases List.mem_append.mp cMem with before | last
      · exact ih before
      · obtain rfl := List.mem_singleton.mp last
        exact ⟨_, asciiDigit?_digitChar (Nat.mod_lt n (by decide))⟩

theorem toNat_ne_zero_of_mem {width n : Nat} {c : Char} (cMem : c ∈ lastDigits width n) :
    c.toNat ≠ 0 := by
  obtain ⟨d, digit⟩ := asciiDigit?_of_mem cMem
  rintro null
  obtain rfl : c = Char.ofNat 0 := by rw [← null, Char.ofNat_toNat]
  cases digit

theorem foldl_lastDigits (width n start : Nat) :
    (lastDigits width n).foldl (fun number c => 10 * number + (Text.asciiDigit? c).getD 0) start =
      start * 10 ^ width + n % 10 ^ width := by
  induction width generalizing n with
  | zero => simp [lastDigits, Nat.mod_one]
  | succ width ih =>
      rw [lastDigits, List.foldl_append, ih, List.foldl_cons, List.foldl_nil,
        asciiDigit?_digitChar (Nat.mod_lt n (by decide)), Option.getD_some, Nat.pow_succ',
        Nat.mod_mul]
      ring

end Decimal

/-! ## Parts of a text -/

namespace Iso

open Decimal

theorem takeDigit?_digitChar {n : Nat} (small : n < 10) (rest : List Char) :
    takeDigit? (Nat.digitChar n :: rest) = some (n, rest) := by
  simp [takeDigit?, asciiDigit?_digitChar small]

theorem takePair?_lastDigits {n : Nat} (small : n < 100) (oneIsEnough : Bool) (rest : List Char) :
    takePair? oneIsEnough (lastDigits 2 n ++ rest) = some (n, rest) := by
  have tens : n / 10 % 10 < 10 := Nat.mod_lt _ (by decide)
  have ones : n % 10 < 10 := Nat.mod_lt _ (by decide)
  have value : 10 * (n / 10 % 10) + n % 10 = n := by omega
  simp [lastDigits_two, takePair?, takeDigit?_digitChar tens, takeDigit?_digitChar ones, value]

theorem mapM_asciiDigit? {cs : List Char} (digits : ∀ c ∈ cs, ∃ d, Text.asciiDigit? c = some d) :
    cs.mapM Text.asciiDigit? = some (cs.map fun c => (Text.asciiDigit? c).getD 0) := by
  induction cs with
  | nil => rfl
  | cons c rest ih =>
      obtain ⟨⟨d, digit⟩, later⟩ := List.forall_mem_cons.mp digits
      simp [List.mapM_cons, digit, ih later]

theorem takeNumber?_lastDigits {width n : Nat} (short : n < 10 ^ width) (rest : List Char) :
    takeNumber? width (lastDigits width n ++ rest) = some (n, rest) := by
  have digits : (lastDigits width n).mapM Text.asciiDigit? =
      some ((lastDigits width n).map fun c => (Text.asciiDigit? c).getD 0) :=
    mapM_asciiDigit? fun c cMem => asciiDigit?_of_mem cMem
  have value := foldl_lastDigits width n 0
  rw [Nat.zero_mul, Nat.zero_add, Nat.mod_eq_of_lt short] at value
  simp [takeNumber?, List.take_left' (length_lastDigits width n), digits, List.foldl_map, value,
    length_lastDigits, List.drop_left' (length_lastDigits width n)]

theorem digitChar_plain {n : Nat} (small : n < 10) :
    Nat.digitChar n ≠ '-' ∧ Text.isAsciiBlank (Nat.digitChar n) = false := by
  revert small
  revert n
  decide

/-- A text that starts with a year of four digits. -/
theorem read?_lastDigits {year : Nat} (short : year < 10 ^ 4) (rest : List Char) :
    read? (lastDigits 4 year ++ rest) = readFrom? year rest := by
  obtain ⟨noMinus, noBlank⟩ :=
    digitChar_plain (Nat.mod_lt (year / 10 / 10 / 10) (by decide : 10 > 0))
  have taken := takeNumber?_lastDigits short rest
  have chars : lastDigits 4 year = [Nat.digitChar (year / 10 / 10 / 10 % 10),
    Nat.digitChar (year / 10 / 10 % 10), Nat.digitChar (year / 10 % 10),
    Nat.digitChar (year % 10)] := rfl
  rw [chars] at taken ⊢
  simp only [List.cons_append, List.nil_append] at taken ⊢
  simp [read?, takeYear, noBlank, noMinus, taken]

/-- What may follow the time of day: nothing, or a zone by its letter or sign, that is so many
seconds east of UTC. -/
structure IsZone (zone : List Char) (offset : Int) : Prop where
  read : readZone? zone = some offset
  starts : ∀ c ∈ zone.head?, c = 'Z' ∨ c = '+' ∨ c = '-'
  noNull : ∀ c ∈ zone, c.toNat ≠ 0

theorem isZone_nil : IsZone [] 0 := ⟨rfl, by simp, by simp⟩

theorem isZone_letter : IsZone ['Z'] 0 := ⟨rfl, by simp, by simp⟩

/-- A zone starts with no digit, and with none of the marks of a time. -/
theorem IsZone.not_digit {zone : List Char} {offset : Int} (isZone : IsZone zone offset) :
    zone.takeWhile (fun c => (Text.asciiDigit? c).isSome) = [] := by
  cases zone with
  | nil => rfl
  | cons c rest =>
      rcases isZone.starts c rfl with rfl | rfl | rfl <;> rfl

/-- An offset in hours and minutes after its sign. -/
theorem readZone?_signed {hours minutes : Nat} (west : Bool) (hoursLt : hours < 24)
    (minutesLt : minutes < 60) :
    readZone? ((if west then '-' else '+') :: (lastDigits 2 hours ++ ':' :: lastDigits 2 minutes)) =
      some (if west then -(hours * 3600 + minutes * 60 : Int)
        else hours * 3600 + minutes * 60) := by
  have hoursTaken (rest : List Char) := takePair?_lastDigits (show hours < 100 by omega) true rest
  have minutesTaken := takePair?_lastDigits (show minutes < 100 by omega) true []
  rw [List.append_nil] at minutesTaken
  cases west
  all_goals
    change ((takePair? true (lastDigits 2 hours ++ ':' :: lastDigits 2 minutes)).bind
      (below? 24)).bind _ = _
    rw [hoursTaken]
    simp only [Option.bind_some, below?, hoursLt, if_true]
    change ((takePair? true (lastDigits 2 minutes)).bind (below? 60)).bind _ = _
    rw [minutesTaken]
    simp only [Option.bind_some, below?, minutesLt, if_true]
    rfl

theorem endWithZone?_isZone {zone : List Char} {offset : Int} (isZone : IsZone zone offset)
    (stamp : Stamp) :
    endWithZone? stamp zone = some { stamp with offset } := by
  rw [endWithZone?, isZone.read]
  rfl

theorem readFraction?_lastDigits {micro : Nat} (small : micro < 10 ^ 6) {zone : List Char}
    {offset : Int} (isZone : IsZone zone offset) (stamp : Stamp) :
    readFraction? stamp (lastDigits 6 micro ++ zone) =
      some { stamp with nanos := micro * 1000, fine := false, offset } := by
  have digits : (lastDigits 6 micro ++ zone).takeWhile (fun c => (Text.asciiDigit? c).isSome) =
      lastDigits 6 micro := by
    rw [List.takeWhile_append_of_pos, isZone.not_digit, List.append_nil]
    intro c cMem
    obtain ⟨d, digit⟩ := asciiDigit?_of_mem cMem
    simp [digit]
  have six := length_lastDigits 6 micro
  have nine : (lastDigits 6 micro ++ List.replicate 9 '0').take 9 =
      lastDigits 6 micro ++ ['0', '0', '0'] := by
    rw [List.take_append, six, List.take_of_length_le (by simp [six])]
    rfl
  have value := foldl_lastDigits 6 micro 0
  rw [Nat.zero_mul, Nat.zero_add, Nat.mod_eq_of_lt small] at value
  have nanos : 10 * (10 * (10 * micro + 0) + 0) + 0 = micro * 1000 := by ring
  have zero : (Text.asciiDigit? '0').getD 0 = 0 := rfl
  simp only [readFraction?, digits, nine, List.foldl_append, value, List.foldl_cons, List.foldl_nil,
    zero, nanos, six, List.drop_left' six, endWithZone?_isZone isZone]
  rfl

end Iso

/-! ## Times -/

namespace DateTime

open Decimal Iso

/-- The reading of a clock on a day that exists, whose zone is whole minutes and less than a day
away from UTC. -/
structure IsReading (t : DateTime) : Prop extends IsWallClock t where
  zone : ∀ offset, t.offset = some offset → offset % 60 = 0 ∧ offset.natAbs < 86400

theorem toList_offsetText {offset : Int} (minutes : offset % 60 = 0)
    (near : offset.natAbs < 86400) :
    (offsetText offset).toList = (if offset < 0 then '-' else '+') ::
      (lastDigits 2 (offset.natAbs / 3600) ++ ':' :: lastDigits 2 (offset.natAbs / 60 % 60)) := by
  have whole : offset.natAbs % 60 = 0 := by omega
  have hours : (writePadded 2 (offset.natAbs / 3600)).toList =
      lastDigits 2 (offset.natAbs / 3600) :=
    toList_writePadded (by decide) (by omega)
  have sixty : (writePadded 2 (offset.natAbs / 60 % 60)).toList =
      lastDigits 2 (offset.natAbs / 60 % 60) :=
    toList_writePadded (by decide) (by omega)
  unfold offsetText
  simp only [whole, if_true]
  split <;> simp [toString, hours, sixty]

theorem isZone_offsetText {offset : Int} (minutes : offset % 60 = 0)
    (near : offset.natAbs < 86400) :
    IsZone (offsetText offset).toList offset := by
  have read :=
    @readZone?_signed (offset.natAbs / 3600) (offset.natAbs / 60 % 60) (decide (offset < 0))
    (by omega) (Nat.mod_lt _ (by decide))
  rw [toList_offsetText minutes near]
  simp only [decide_eq_true_eq] at read
  constructor
  · rw [read]
    congr 1
    split <;> omega
  · split <;> simp
  · have sign : (if offset < 0 then '-' else '+').toNat ≠ 0 := by split <;> decide
    have colon : ':'.toNat ≠ 0 := by decide
    rintro c cMem
    simp only [List.mem_cons, List.mem_append] at cMem
    rcases cMem with rfl | digit | rfl | digit
    · exact sign
    · exact toNat_ne_zero_of_mem digit
    · exact colon
    · exact toNat_ne_zero_of_mem digit

/-- The fraction of a second as it is written. -/
def fractionChars (micro : Nat) : List Char := if micro = 0 then [] else '.' :: lastDigits 6 micro

/-- The day and the time of day as they are written. -/
def wallChars (t : DateTime) : List Char :=
  lastDigits 4 t.date.year ++
  '-' :: (lastDigits 2 t.date.month ++ '-' :: (lastDigits 2 t.date.day ++
    'T' :: (lastDigits 2 t.hour ++ ':' :: (lastDigits 2 t.minute ++ ':' ::
      (lastDigits 2 t.second ++ fractionChars t.micro)))))

theorem IsReading.toList_iso {t : DateTime} (reading : t.IsReading) :
    t.iso.toList = t.wallChars ++ ((t.offset.map offsetText).getD "").toList := by
  obtain ⟨⟨yearPos, yearLe⟩, ⟨monthPos, monthLe⟩, dayPos, dayLe⟩ := Date.isValid_iff.mp reading.date
  have monthDays := Date.daysInMonth_le t.date.year t.date.month
  have year : (writePadded 4 t.date.year).toList = lastDigits 4 t.date.year :=
    toList_writePadded (by decide) (by omega)
  have micro : (writePadded 6 t.micro).toList = lastDigits 6 t.micro :=
    toList_writePadded (by decide) reading.micro
  have pair (n : Nat) (small : n < 100) : (writePadded 2 n).toList = lastDigits 2 n :=
    toList_writePadded (by decide) small
  have month := pair t.date.month (by omega)
  have day := pair t.date.day (by omega)
  have hour := pair t.hour (Nat.lt_trans reading.hour (by decide))
  have minute := pair t.minute (Nat.lt_trans reading.minute (by decide))
  have second := pair t.second (Nat.lt_trans reading.second (by decide))
  unfold iso isoWith Date.iso wallChars fractionChars
  by_cases whole : t.micro = 0
  · simp [toString, whole, year, month, day, hour, minute, second]
  · simp [toString, whole, year, month, day, hour, minute, second, micro]

/-- What the written form says: the reading with an offset. -/
def stampIn (t : DateTime) (offset : Int) : Stamp :=
  ⟨t.date.year, t.date.month, t.date.day, t.hour, t.minute, t.second, t.micro * 1000, false, offset⟩

section Reading

variable {t : DateTime} {zone : List Char} {offset : Int}

theorem readSecond?_written (second : t.second < 60) (micro : t.micro < 10 ^ 6)
    (isZone : IsZone zone offset) :
    readSecond? true ⟨t.date.year, t.date.month, t.date.day, t.hour, t.minute, 0, 0, false, 0⟩
      (lastDigits 2 t.second ++ (fractionChars t.micro ++ zone)) = some (t.stampIn offset) := by
  have taken (rest : List Char) := takePair?_lastDigits (Nat.lt_trans second (by decide)) true rest
  unfold readSecond? fractionChars
  rw [taken]
  simp only [Option.bind_some, below?, second, if_true, Option.bind_eq_bind]
  by_cases whole : t.micro = 0
  · simp only [whole, if_true, List.nil_append]
    have ended (stamp : Stamp) := endWithZone?_isZone isZone stamp
    split
    · rename_i rest
      rcases isZone.starts '.' rfl with mark | mark | mark <;> exact absurd mark (by decide)
    · rw [ended]
      simp [stampIn, whole]
  · simp only [whole, if_false, List.cons_append]
    exact readFraction?_lastDigits micro isZone _

theorem readMinute?_written (minute : t.minute < 60) (second : t.second < 60)
    (micro : t.micro < 10 ^ 6) (isZone : IsZone zone offset) :
    readMinute? true ⟨t.date.year, t.date.month, t.date.day, t.hour, 0, 0, 0, false, 0⟩
      (lastDigits 2 t.minute ++ ':' :: (lastDigits 2 t.second ++ (fractionChars t.micro ++ zone))) =
        some (t.stampIn offset) := by
  have taken (rest : List Char) := takePair?_lastDigits (Nat.lt_trans minute (by decide)) true rest
  unfold readMinute?
  rw [taken]
  simp only [Option.bind_some, below?, minute, if_true, Option.bind_eq_bind]
  exact readSecond?_written second micro isZone

theorem readHour?_written (hour : t.hour < 24) (minute : t.minute < 60) (second : t.second < 60)
    (micro : t.micro < 10 ^ 6) (isZone : IsZone zone offset) :
    readHour? ⟨t.date.year, t.date.month, t.date.day, 0, 0, 0, 0, false, 0⟩
      (lastDigits 2 t.hour ++ ':' :: (lastDigits 2 t.minute ++ ':' ::
        (lastDigits 2 t.second ++ (fractionChars t.micro ++ zone)))) = some (t.stampIn offset) := by
  have tens : t.hour / 10 % 10 < 10 := Nat.mod_lt _ (by decide)
  have ones : t.hour % 10 < 10 := Nat.mod_lt _ (by decide)
  have value : 10 * (t.hour / 10 % 10) + t.hour % 10 = t.hour := by omega
  unfold readHour?
  simp only [lastDigits_two t.hour, List.cons_append, List.nil_append, takeDigit?_digitChar tens,
    takeDigit?_digitChar ones, value, Option.bind_some, below?, hour, if_true, Option.bind_eq_bind]
  exact readMinute?_written minute second micro isZone

/-- The written form of a reading is read as that reading, with the offset of the
zone that follows. -/
theorem IsReading.read?_wallChars (reading : t.IsReading) (isZone : IsZone zone offset) :
    Iso.read? (t.wallChars ++ zone) = some (t.stampIn offset) := by
  obtain ⟨⟨yearPos, yearLe⟩, ⟨monthPos, monthLe⟩, dayPos, dayLe⟩ := Date.isValid_iff.mp reading.date
  have monthDays := Date.daysInMonth_le t.date.year t.date.month
  have monthTaken (rest : List Char) :=
    takePair?_lastDigits (show t.date.month < 100 by omega) true rest
  have dayTaken (rest : List Char) :=
    takePair?_lastDigits (show t.date.day < 100 by omega) true rest
  have dayExists := Date.isDayIn_of_isValid reading.date
  have clock := readHour?_written reading.hour reading.minute reading.second reading.micro isZone
  have dash : separators.contains '-' = true := rfl
  unfold wallChars
  rw [List.append_assoc, read?_lastDigits (by omega)]
  simp only [List.cons_append, List.append_assoc]
  unfold readFrom? readDay?
  simp only [dash, if_true, monthTaken, dayTaken, Option.bind_some, Option.bind_eq_bind,
    dayExists, true_or]
  exact clock

theorem wallChars_noNull (t : DateTime) : ∀ c ∈ t.wallChars, c.toNat ≠ 0 := by
  have digits {width n : Nat} : ∀ c ∈ lastDigits width n, c.toNat ≠ 0 :=
    fun _ => toNat_ne_zero_of_mem
  have fraction : ∀ c ∈ fractionChars t.micro, c.toNat ≠ 0 := by
    unfold fractionChars
    split
    · simp
    · exact List.forall_mem_cons.mpr ⟨by decide, digits⟩
  simp only [wallChars, List.forall_mem_append, List.forall_mem_cons]
  exact ⟨digits, by decide, digits, by decide, digits, by decide, digits, by decide,
    digits, by decide, digits, fraction⟩

/-- Nanoseconds of the wall clock since 1970-01-01T00:00:00 on the same clock. -/
def wallNanos (t : DateTime) : Int := t.wallSeconds * 1000000000 + t.micro * 1000

theorem IsReading.instant?_stampIn (reading : t.IsReading) (near : offset.natAbs < 86400) :
    (t.stampIn offset).instant? = some (t.wallNanos - offset * 1000000000) := by
  have dayExists := Date.isDayIn_of_isValid reading.date
  have firstYear := (Date.isValid_iff.mp reading.date).1.1
  have valid : (t.stampIn offset).isValid = true := by
    simp [Stamp.isValid, stampIn, dayExists, reading.hour, reading.minute, reading.second, near]
  have wall : (t.stampIn offset).wallNanos = t.wallNanos := by
    simp only [Stamp.wallNanos, stampIn, wallNanos, wallSeconds, Date.dayNumberIn_eq firstYear]
    push_cast
    ring
  simp only [Stamp.instant?, valid, wall]
  rfl

/-- A text that spells a reading with a zone is the instant of the wall clock less the offset. -/
theorem IsReading.ofText?_eq (reading : t.IsReading) (isZone : IsZone zone offset)
    (near : offset.natAbs < 86400) {s : String} (written : s.toList = t.wallChars ++ zone) :
    Instant.ofText? s = some (t.wallNanos - offset * 1000000000) := by
  have noNull : ∀ c ∈ s.toList, c.toNat ≠ 0 := by
    rw [written]
    exact List.forall_mem_append.mpr ⟨t.wallChars_noNull, isZone.noNull⟩
  have unpadded : Instant.dropEndNulls s = s := by
    have ends : s.toList.reverse.dropWhile (·.toNat = 0) = s.toList.reverse := by
      rw [List.dropWhile_eq_self_iff]
      intro nonempty
      simpa using noNull _ (List.mem_reverse.mp (List.getElem_mem nonempty))
    rw [Instant.dropEndNulls, ends, List.reverse_reverse, String.ofList_toList]
  have noMinus : s.toList.head? ≠ some '-' := by
    rw [written]
    simp [wallChars, lastDigits]
  have read : Iso.read? s.toList = some (t.stampIn offset) :=
    written ▸ reading.read?_wallChars isZone
  rw [Instant.ofText?, unpadded, Instant.ofUnpadded?, read]
  simp only [if_neg noMinus]
  exact reading.instant?_stampIn near

end Reading

end DateTime

end Outreach
