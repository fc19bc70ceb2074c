import SheetAudit.Text.Character

/-!
# Dates, times of day and durations

A date has a year, a month and a day; a time of day is counted to the microsecond and may carry
the distance of its place from universal time; a duration is a count of microseconds, shown as
days and what is left of a day.  The texts are those of the international standard, apart from a
duration, which is written out.
-/

namespace SheetAudit

open Text

structure Date where
  year : Nat
  month : Nat
  day : Nat
  deriving Repr, DecidableEq

/-- A span of time in microseconds. -/
structure Duration where
  microseconds : Int
  deriving Repr, DecidableEq

/-- A time of day, and the distance of its place from universal time, if known. -/
structure ClockTime where
  hour : Nat
  minute : Nat
  second : Nat
  microsecond : Nat
  offset : Option Duration
  deriving Repr, DecidableEq

structure DateTime where
  date : Date
  clock : ClockTime
  deriving Repr, DecidableEq

/-- The digits of a number, padded with zeros to a width. -/
def padded (width n : Nat) : List Char :=
  let digits := decimalChars n
  List.replicate (width - digits.length) '0' ++ digits

/-- A fraction of a second as six digits after a point, nothing if it is zero. -/
def fractionText (microsecond : Nat) : List Char :=
  if microsecond == 0 then [] else '.' :: padded 6 microsecond

namespace Duration

/-- The microseconds of a second and of a day. -/
def perSecond : Int := 1000000

def perDay : Int := 86400 * perSecond

def ofParts (days seconds microseconds : Int) : Duration :=
  ⟨days * perDay + seconds * perSecond + microseconds⟩

/-- The whole days of a duration, rounded down. -/
def days (d : Duration) : Int := Int.fdiv d.microseconds perDay

/-- The whole seconds beyond the days. -/
def seconds (d : Duration) : Nat :=
  (Int.fdiv (Int.fmod d.microseconds perDay) perSecond).toNat

/-- The microseconds beyond the seconds. -/
def fraction (d : Duration) : Nat := (Int.fmod d.microseconds perSecond).toNat

/-- The text of a duration: days, if any, then hours, minutes and seconds. -/
def text (d : Duration) : String :=
  let days :=
    if d.days == 0 then ""
    else toString d.days ++ (if d.days.natAbs == 1 then " day, " else " days, ")
  let clock :=
    decimalChars (d.seconds / 3600) ++ ':' :: padded 2 (d.seconds / 60 % 60) ++
      ':' :: padded 2 (d.seconds % 60) ++ fractionText d.fraction
  days ++ String.ofList clock

def offsetText (d : Duration) : List Char :=
  let size : Duration := ⟨d.microseconds.natAbs⟩
  let total := size.seconds
  let seconds := total % 60
  (if d.microseconds < 0 then '-' else '+') :: padded 2 (total / 3600) ++
    ':' :: padded 2 (total / 60 % 60) ++
    (if seconds == 0 && size.fraction == 0 then []
      else ':' :: padded 2 seconds ++ fractionText size.fraction)

end Duration

namespace Date

def text (d : Date) : String :=
  String.ofList (padded 4 d.year ++ '-' :: padded 2 d.month ++ '-' :: padded 2 d.day)

def ofText? (s : String) : Option Date :=
  match s.toList with
  | [a, b, c, d, '-', e, f, '-', g, h] =>
    if [a, b, c, d, e, f, g, h].all Char.isDigit then
      some ⟨digitsValue [a, b, c, d], digitsValue [e, f], digitsValue [g, h]⟩
    else none
  | _ => none

def midnight (d : Date) : DateTime := ⟨d, 0, 0, 0, 0, none⟩

end Date

namespace ClockTime

def text (t : ClockTime) : String :=
  String.ofList (padded 2 t.hour ++ ':' :: padded 2 t.minute ++ ':' :: padded 2 t.second ++
    fractionText t.microsecond ++ (t.offset.map Duration.offsetText).getD [])

def readFraction (digits : List Char) : Nat :=
  digitsValue ((digits ++ List.replicate 6 '0').take 6)

/-- The hours, minutes, seconds and microseconds at the start of a text, and what follows. -/
def readParts? (cs : List Char) : Option ((Nat × Nat × Nat × Nat) × List Char) :=
  match cs with
  | a :: b :: ':' :: c :: d :: ':' :: e :: f :: '.' :: rest =>
    let digits := rest.takeWhile Char.isDigit
    if [a, b, c, d, e, f].all Char.isDigit && !digits.isEmpty then
      some ((digitsValue [a, b], digitsValue [c, d], digitsValue [e, f], readFraction digits),
        rest.dropWhile Char.isDigit)
    else none
  | a :: b :: ':' :: c :: d :: ':' :: e :: f :: rest =>
    if [a, b, c, d, e, f].all Char.isDigit then
      some ((digitsValue [a, b], digitsValue [c, d], digitsValue [e, f], 0), rest)
    else none
  | a :: b :: ':' :: c :: d :: rest =>
    if [a, b, c, d].all Char.isDigit then
      some ((digitsValue [a, b], digitsValue [c, d], 0, 0), rest)
    else none
  | _ => none

/-- The distance from universal time that a text denotes; nothing if there is no text. -/
def readOffset? : List Char → Option (Option Duration)
  | [] => some none
  | ['Z'] => some (some ⟨0⟩)
  | sign :: rest =>
    if sign != '+' && sign != '-' then none
    else match readParts? rest with
      | some ((hour, minute, second, fraction), []) =>
        let size := (Duration.ofParts 0 (hour * 3600 + minute * 60 + second) fraction).microseconds
        some (some ⟨if sign == '-' then -size else size⟩)
      | _ => none

def ofText? (s : String) : Option ClockTime :=
  (readParts? s.toList).bind fun ((hour, minute, second, fraction), rest) =>
    (readOffset? rest).map fun offset => ⟨hour, minute, second, fraction, offset⟩

end ClockTime

namespace DateTime

def text (t : DateTime) : String := t.date.text ++ "T" ++ t.clock.text

def ofText? (s : String) : Option DateTime :=
  let cs := s.toList
  match Date.ofText? (String.ofList (cs.take 10)), cs.drop 10 with
  | some date, [] => some date.midnight
  | some date, _ :: rest => (ClockTime.ofText? (String.ofList rest)).map fun clock => ⟨date, clock⟩
  | none, _ => none

end DateTime

end SheetAudit
