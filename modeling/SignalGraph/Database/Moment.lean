import SignalGraph.Database.Function.Format
import SignalGraph.Instant

/-! Points in time: reading them, and moving them by modifiers.

A point in time is told by milliseconds, by a date and a time of day, or by both. A number may be
all that is known at first, and a modifier says what it counts. A date with a day that its month
does not have stays as it is until it is moved.
-/

set_option autoImplicit false

namespace SignalGraph.Database

structure Clock where
  hour : Int
  minute : Int
  seconds : Binary64

/-- A point in time; what is missing is made from the rest when it is needed. -/
structure Moment where
  /-- Milliseconds from the noon that Julian days count from. -/
  julian : Option Int := none
  /-- Year, month and day. -/
  date : Option (Int × Int × Int) := none
  clock : Option Clock := none
  /-- What the zone adds to the time, in minutes. -/
  zone : Int := 0
  /-- The number that was read, as long as it is not settled what it counts. -/
  number : Option Binary64 := none
  /-- How many days the day lies behind the end of its month. -/
  surplus : Int := 0
  /-- Parts of seconds are shown. -/
  fine : Bool := false
  isUtc : Bool := false
  isLocal : Bool := false
  /-- It has left the times that can be told. -/
  broken : Bool := false

namespace Moment

/-- Milliseconds from where Julian days begin up to the start of 1970. -/
def epochOffset : Int := 210866760000000

def millisecondsPerDay : Int := 86400000

/-- The day of a date, counted from the start of 1970. Years are taken to start in March. -/
def dayOf (year month day : Int) : Int :=
  let (year, month) := if month ≤ 2 then (year - 1, month + 9) else (year, month - 3)
  let era := year.fdiv 400
  let yearOfEra := year - era * 400
  era * 146097 + yearOfEra * 365 + yearOfEra / 4 - yearOfEra / 100 + (153 * month + 2) / 5 + day - 1 -
    719468

def isJulian (julian : Int) : Bool := 0 ≤ julian && julian ≤ 464269060799999

def ofInstant (instant : Instant) : Moment :=
  { julian := some (instant.milliseconds + epochOffset), isUtc := true }

/-- The moment with its milliseconds. -/
def withJulian (moment : Moment) : Moment :=
  if moment.julian.isSome then moment
  else
    let (year, month, day) := moment.date.getD (2000, 1, 1)
    if year < -4713 ∨ 9999 < year ∨ moment.number.isSome then { broken := true }
    else
      let start := dayOf year month day * millisecondsPerDay + epochOffset
      match moment.clock with
      | none => { moment with julian := some start }
      | some clock =>
        let julian := start + clock.hour * 3600000 + clock.minute * 60000 +
          (clock.seconds * .ofInt 1000 + 0.5).truncate
        if moment.zone = 0 then { moment with julian := some julian }
        else
          { moment with
            julian := some (julian - moment.zone * 60000), date := none, clock := none, zone := 0
            isUtc := true, isLocal := false }

/-- The moment with its date. -/
def withDate (moment : Moment) : Moment :=
  if moment.date.isSome then moment
  else
    match moment.julian with
    | none => { moment with date := some (2000, 1, 1) }
    | some julian =>
      if isJulian julian then
        { moment with
          date := some (Instant.calendarDate ((julian - epochOffset).fdiv millisecondsPerDay)) }
      else { broken := true }

/-- The moment with its time of day. -/
def withClock (moment : Moment) : Moment :=
  if moment.clock.isSome then moment
  else
    let moment := moment.withJulian
    let rest := (moment.julian.getD 0 - epochOffset).fmod millisecondsPerDay
    let seconds := (Binary64.ofInt (rest % 60000)).divide (.ofInt 1000)
    { moment with clock := some ⟨rest / 3600000, rest / 60000 % 60, seconds⟩, number := none }

def withBoth (moment : Moment) : Moment := moment.withDate.withClock

/-- Only the milliseconds count from now on. -/
def settle (moment : Moment) : Moment := { moment with date := none, clock := none, zone := 0 }

/-- Move by milliseconds. -/
def add (moment : Moment) (amount : Int) : Moment :=
  { moment with julian := moment.julian.map (· + amount) }

/-- How many days a day lies behind the end of its month. -/
def surplusOf (year month day : Int) : Int :=
  if day ≤ 28 ∨ month ∈ [1, 3, 5, 7, 8, 10, 12] then 0
  else if month ≠ 2 then (if day = 31 then 1 else 0)
  else if year % 4 ≠ 0 ∨ (year % 100 = 0 ∧ year % 400 ≠ 0) then day - 28
  else day - 29

/-- Another date at the same time of day. -/
def setDate (moment : Moment) (year month day : Int) : Moment :=
  { moment with
    date := some (year, month, day), julian := none, surplus := surplusOf year month day }

/-- Move a date by years and months; the day stays as it is. -/
def addMonths (moment : Moment) (years months : Int) : Moment :=
  let moment := moment.withBoth
  let (year, month, day) := moment.date.getD (2000, 1, 1)
  let months := month + months
  let carry := if 0 < months then (months - 1).tdiv 12 else (months - 12).tdiv 12
  moment.setDate (year + years + carry) (months - carry * 12) day

/-- So many digits, as a number in a range. -/
def digits? (count low high : Nat) (text : List Char) : Option (Int × List Char) :=
  let taken := text.take count
  if taken.length = count ∧ taken.all Char.isDigit then
    let value := digitsValue 0 taken
    if low ≤ value ∧ value ≤ high then some (value, text.drop count) else none
  else none

/-- Digits with a sign behind them. -/
def digitsBefore? (sign : Char) (count low high : Nat) (text : List Char) :
    Option (Int × List Char) := do
  match ← digits? count low high text with
  | (value, c :: rest) => if c = sign then some (value, rest) else none
  | _ => none

/-- What a zone adds to a time, in minutes, and whether it is told to be none. -/
def zone? (text : List Char) : Option (Int × Bool) :=
  match text.dropWhile isSeparator with
  | [] => some (0, false)
  | c :: rest =>
    if c = 'Z' ∨ c = 'z' then if rest.all isSeparator then some (0, true) else none
    else if c = '+' ∨ c = '-' then do
      let (hours, rest) ← digitsBefore? ':' 2 0 14 rest
      let (minutes, rest) ← digits? 2 0 59 rest
      if rest.all isSeparator then
        return ((if c = '-' then -1 else 1) * (hours * 60 + minutes), false)
      else none
    else none

/-- The part of a second that digits tell. -/
def fraction (digits : List Char) : Binary64 :=
  let value := Decimal.toBinary64 false ⟨digitsValue 0 digits, -(digits.length : Int)⟩
  if (0.999 : Binary64).less value then 0.999 else value

/-- A time of day, perhaps with a zone. -/
def ofClockText? (text : List Char) : Option Moment := do
  let (hour, rest) ← digitsBefore? ':' 2 0 24 text
  let (minute, rest) ← digits? 2 0 59 rest
  let (seconds, rest) ← match rest with
    | ':' :: rest => do
      let (seconds, rest) ← digits? 2 0 59 rest
      match rest with
      | '.' :: places =>
        let (digits, after) := splitDigits places
        if digits = [] then pure (Binary64.ofInt seconds, rest)
        else pure (Binary64.ofInt seconds + fraction digits, after)
      | rest => pure (Binary64.ofInt seconds, rest)
    | rest => pure (Binary64.zero false, rest)
  let (zone, isUtc) ← zone? rest
  return { clock := some ⟨hour, minute, seconds⟩, zone, isUtc }

/-- A date, perhaps with a time of day. -/
def ofDateText? (text : List Char) : Option Moment := do
  let (negative, text) := match text with
    | '-' :: rest => (true, rest)
    | rest => (false, rest)
  let (year, rest) ← digitsBefore? '-' 4 0 9999 text
  let (month, rest) ← digitsBefore? '-' 2 1 12 rest
  let (day, rest) ← digits? 2 1 31 rest
  let year := if negative then -year else year
  let rest := rest.dropWhile fun c => isSeparator c || c == 'T'
  let time : Moment ← match rest with
    | [] => some {}
    | rest => ofClockText? rest
  let moment := time.setDate year month day
  return if moment.zone = 0 then moment else moment.withJulian

def ofNumber (number : Binary64) : Moment :=
  { number := some number
    julian :=
      if !number.less (.zero false) && number.less 5373484.5 then
        some (number * .ofInt millisecondsPerDay + 0.5).truncate
      else none }

def isWord (text : List Char) (word : String) : Bool := text.map Char.toLower == word.toList

def ofText? (now : Instant) (text : List Char) : Option Moment :=
  let number? : Option Moment :=
    let front := NumericFront.ofText (String.ofList text)
    if isWord text "now" then some (ofInstant now)
    else if front.complete then some (ofNumber front.toReal)
    else if isWord text "subsec" ∨ isWord text "subsecond" then
      some { ofInstant now with fine := true }
    else none
  ofDateText? text <|> ofClockText? text <|> number?

def ofDatum? (now : Instant) : Datum → Option Moment
  | .null => none
  | .integer n => some (ofNumber (.ofInt n))
  | .real x => some (ofNumber x)
  | value => ofText? now (TextFunction.characters value.asText)

/-- A unit that a moment can be moved by, with its seconds. -/
structure TimeUnit where
  name : String
  /-- The first amount that is too large. -/
  bound : Binary64
  seconds : Int

def timeUnits : List TimeUnit :=
  [⟨"second", 4.6427e+14, 1⟩, ⟨"minute", 7.7379e+12, 60⟩, ⟨"hour", 1.2897e+11, 3600⟩,
   ⟨"day", 5373485.0, 86400⟩, ⟨"month", 176546.0, 2592000⟩, ⟨"year", 14713.0, 31536000⟩]

/-- Move by an amount of a unit. Months and years go by the calendar as far as they are whole. -/
def shift? (moment : Moment) (amount : Binary64) (word : List Char) : Option Moment := do
  if word.length < 3 ∨ 10 < word.length then none
  let name := if (word.getLast?.map Char.toLower) = some 's' then word.dropLast else word
  let unit ← timeUnits.find? fun unit => isWord name unit.name
  if !((-unit.bound).less amount && amount.less unit.bound) then none
  let moment := { moment.withJulian with surplus := 0 }
  let whole := amount.truncate
  let (moment, amount) : Moment × Binary64 :=
    if unit.name = "month" then (moment.addMonths 0 whole, amount - .ofInt whole)
    else if unit.name = "year" then (moment.addMonths whole 0, amount - .ofInt whole)
    else (moment, amount)
  let half : Binary64 := if amount.isNegative then -(0.5 : Binary64) else 0.5
  let milliseconds := (amount * .ofInt 1000 * .ofInt unit.seconds + half).truncate
  return (moment.withJulian.add milliseconds).settle

/-- Move by a time of day. -/
def shiftByClock? (moment : Moment) (negative : Bool) (text : List Char) : Option Moment := do
  let time := (← ofClockText? text).withJulian
  let amount := (time.julian.getD 0 - epochOffset).fmod millisecondsPerDay
  return (moment.withJulian.settle).add (if negative then -amount else amount)

/-- Move by years, months and days, and perhaps by a time of day. -/
def shiftByDate? (moment : Moment) (negative : Bool) (count : Nat) (text : List Char) :
    Option Moment := do
  let (years, rest) ← digitsBefore? '-' count 0 14712 text
  let (months, rest) ← digitsBefore? '-' 2 0 11 rest
  let (days, rest) ← digits? 2 0 30 rest
  let sign : Int := if negative then -1 else 1
  let moved := ((moment.addMonths (sign * years) (sign * months)).withJulian.settle).add
    (sign * days * millisecondsPerDay)
  match rest with
  | [] => return moved
  | c :: rest => if isSeparator c then moved.shiftByClock? negative rest else none

/-- The front of a modifier that begins with a number, and the rest of it. -/
def splitAmount (text : List Char) : List Char × List Char :=
  go 1 (text.take 1) (text.drop 1)
where
  go (place : Nat) (done : List Char) : List Char → List Char × List Char
    | [] => (done, [])
    | c :: rest =>
      let dated := c = '-' &&
        ((place = 5 && (digits? 4 0 14712 (done.drop 1)).isSome) ||
          (place = 6 && (digits? 5 0 14712 (done.drop 1)).isSome))
      if c = ':' ∨ isSeparator c ∨ dated then (done, c :: rest)
      else go (place + 1) (done ++ [c]) rest

/-- Move by what a modifier says that begins with a sign or a digit. -/
def moveBy? (moment : Moment) (text : List Char) : Option Moment :=
  let (front, rest) := splitAmount text
  let number := NumericFront.ofText (String.ofList front)
  let negative := text.head? = some '-'
  let signed := negative || text.head? = some '+'
  let unsigned := if signed then text.drop 1 else text
  if !number.complete then none
  else
    match rest with
    | '-' :: _ => if signed then moment.shiftByDate? negative (front.length - 1) unsigned else none
    | ':' :: _ => moment.shiftByClock? negative unsigned
    | rest => moment.shift? number.toReal (rest.dropWhile isSeparator)

/-- The same time by the clocks of the place, which show the time of no zone. -/
def toLocal (moment : Moment) : Moment :=
  let whole := { moment.withJulian with broken := false }
  let shown := if whole.julian.isSome then whole.settle.withBoth else Moment.withBoth {}
  { shown with julian := none, number := none, fine := moment.fine, isLocal := true }

/-- The weekday on or after a moment, counted from Sunday. -/
def toWeekday (moment : Moment) (weekday : Int) : Moment :=
  let moment := { moment.withBoth with zone := 0, julian := none }.withJulian
  let today := ((moment.julian.getD 0 + 129600000).fdiv millisecondsPerDay).fmod 7
  (moment.add ((weekday - today).fmod 7 * millisecondsPerDay)).settle

/-- The start of the day, the month or the year. -/
def startOf? (moment : Moment) (unit : List Char) : Option Moment := do
  if moment.julian.isNone ∧ moment.date.isNone ∧ moment.clock.isNone then none
  let moment := moment.withDate
  let (year, month, day) := moment.date.getD (2000, 1, 1)
  let date ← if isWord unit "month" then some (year, month, 1)
    else if isWord unit "year" then some (year, 1, 1)
    else if isWord unit "day" then some (year, month, day)
    else none
  return { moment with
    date := some date, clock := some ⟨0, 0, .zero false⟩, julian := none, number := none, zone := 0 }

/-- A number as seconds from the start of 1970. -/
def ofEpoch? (moment : Moment) (seconds : Binary64) (low high : Binary64) : Option Moment :=
  let scaled := seconds * .ofInt 1000 + .ofInt epochOffset
  if !seconds.less low && seconds.less high then
    some { moment.settle with julian := some (scaled + 0.5).truncate, number := none }
  else none

/-- Take a modifier into account; the place tells how many stand in front of it. -/
def modify? (moment : Moment) (place : Nat) (text : List Char) : Option Moment :=
  let is (word : String) : Bool := isWord text word
  let rest (word : String) : Option (List Char) :=
    if isWord (text.take word.length) word then some (text.drop word.length) else none
  if is "auto" then
    if 0 < place then none
    else
      match moment.number, moment.julian with
      | some seconds, none =>
        some ((moment.ofEpoch? seconds (-210866760000.0) 253402300799.5).getD moment)
      | _, _ => some { moment with number := none }
  else if is "ceiling" then some { moment.withJulian.settle with surplus := 0 }
  else if is "floor" then
    let moment := moment.withJulian
    some (moment.add (-moment.surplus * millisecondsPerDay)).settle
  else if is "julianday" then
    if 0 < place ∨ moment.julian.isNone ∨ moment.number.isNone then none
    else some { moment with number := none }
  else if is "localtime" then
    some { (if moment.isLocal then moment else moment.toLocal) with isUtc := false, isLocal := true }
  else if is "utc" then
    if moment.isUtc then some moment
    else some { julian := some (moment.withJulian.julian.getD 0), isUtc := true }
  else if is "unixepoch" then
    if 0 < place then none
    else moment.number.bind fun seconds =>
      moment.ofEpoch? seconds (-210866760000.0) 253402300800.0
  else if is "subsec" ∨ is "subsecond" then some { moment with fine := true }
  else
    match rest "weekday ", rest "start of ", text with
    | some number, _, _ =>
      let front := NumericFront.ofText (String.ofList number)
      match front.toReal.toInt? with
      | some n => if front.complete ∧ 0 ≤ n ∧ n < 7 then some (moment.toWeekday n) else none
      | none => none
    | _, some unit, _ => moment.startOf? unit
    | _, _, c :: _ => if c = '+' ∨ c = '-' ∨ c.isDigit then moment.moveBy? text else none
    | _, _, [] => none

/-- The moment that is read first, moved by the modifiers behind it. -/
def moved? (now : Instant) (value : Datum) (modifiers : List Datum) : Option Moment := do
  modifiers.zipIdx.foldlM (fun moment (modifier, place) => do
    moment.modify? place (TextFunction.characters (← modifier.text?))) (← ofDatum? now value)

/-- The moment that a value and modifiers stand for; without any it is the present. -/
def read? (now : Instant) (arguments : List Datum) : Option Moment := do
  let moment ← match arguments with
    | [] => some (ofInstant now)
    | value :: modifiers => moved? now value modifiers
  let moment := moment.withJulian
  if moment.broken ∨ !(moment.julian.map isJulian).getD false then none
  else
    let (_, _, day) := moment.date.getD (2000, 1, 1)
    return if arguments.length = 1 ∧ 28 < day then { moment with date := none } else moment

/-- A moment with everything known about it. -/
structure Full where
  julian : Int
  year : Int
  month : Int
  day : Int
  clock : Clock
  fine : Bool

def full (moment : Moment) : Full :=
  let moment := moment.withJulian.withBoth
  let (year, month, day) := moment.date.getD (2000, 1, 1)
  { julian := moment.julian.getD 0, year, month, day
    clock := moment.clock.getD ⟨0, 0, .zero false⟩, fine := moment.fine }

namespace Full

/-- The same time of day on another date, as long as the month has it. -/
def onDate (moment : Full) (year month : Int) : Full :=
  let changed : Moment := { date := some (year, month, moment.day), clock := some moment.clock }
  { moment with year, month, julian := (changed.withJulian.julian).getD 0 }

end Full

end Moment

end SignalGraph.Database
