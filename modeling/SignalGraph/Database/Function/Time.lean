import SignalGraph.Database.Moment

/-! Functions on points in time, and the texts they write. -/

set_option autoImplicit false

namespace SignalGraph.Database.TimeFunction

open Moment (Full millisecondsPerDay epochOffset)

/-- A number in so many characters, with zeros behind its sign. -/
def padded (width : Nat) (n : Int) : String :=
  if n < 0 then "-" ++ Instant.padded (width - 1) (-n) else Instant.padded width n

/-- A number of up to two digits with a blank in front of one. -/
def blank (n : Int) : String := (if n < 10 then " " else "") ++ toString n

/-- A real with three places, and zeros in front up to a width. -/
def withPlaces (width : Nat) (x : Binary64) : String :=
  let style : RealStyle := { form := .fixed, places := 3 }
  let (sign, body) := style.write x
  String.ofList (sign ++ List.replicate (width - sign.length - body.length) '0' ++ body)

def dateText (moment : Full) : String :=
  (if moment.year < 0 then "-" else "") ++ Instant.padded 4 moment.year.natAbs ++ "-" ++
    padded 2 moment.month ++ "-" ++ padded 2 moment.day

def minuteText (moment : Full) : String :=
  padded 2 moment.clock.hour ++ ":" ++ padded 2 moment.clock.minute

def clockText (moment : Full) : String :=
  minuteText moment ++ ":" ++ padded 2 moment.clock.seconds.truncate

/-- The time of day, with parts of a second if they are wanted. -/
def shownClock (moment : Full) : String :=
  if moment.fine then
    let thousandths := (Binary64.ofInt 1000 * moment.clock.seconds + 0.5).truncate
    minuteText moment ++ ":" ++ padded 2 (thousandths / 1000) ++ "." ++ padded 3 (thousandths % 1000)
  else clockText moment

def julianDays (moment : Full) : Binary64 :=
  (Binary64.ofInt moment.julian).divide (.ofInt millisecondsPerDay)

/-- Seconds from the start of 1970, with their parts. -/
def fineSeconds (moment : Full) : Binary64 :=
  (Binary64.ofInt (moment.julian - epochOffset)).divide (.ofInt 1000)

def wholeSeconds (moment : Full) : Int := moment.julian / 1000 - epochOffset / 1000

/-- Whole days from the first of January of the year at the same time of day. -/
def daysInYear (moment : Full) : Int :=
  let first := { moment with day := 1 }.onDate moment.year 1
  (moment.julian - first.julian + 43200000) / millisecondsPerDay

def fromMonday (moment : Full) : Int := (moment.julian + 43200000) / millisecondsPerDay % 7

def fromSunday (moment : Full) : Int := (moment.julian + 129600000) / millisecondsPerDay % 7

/-- The Thursday of the same week, which tells the year that the week belongs to. -/
def thursday (moment : Full) : Full :=
  let moved : Moment := { julian := some (moment.julian + (3 - fromMonday moment) * millisecondsPerDay)
                          clock := some moment.clock }
  moved.full

/-- What a letter behind a percent sign writes. -/
def directive? (moment : Full) (letter : Char) : Option String :=
  let hour := moment.clock.hour
  let half := if 12 < hour then hour - 12 else if hour = 0 then 12 else hour
  let seconds := moment.clock.seconds
  match letter with
  | 'd' => some (padded 2 moment.day)
  | 'e' => some (blank moment.day)
  | 'f' => some (withPlaces 6 (if (59.999 : Binary64).less seconds then 59.999 else seconds))
  | 'F' => some (padded 4 moment.year ++ "-" ++ padded 2 moment.month ++ "-" ++ padded 2 moment.day)
  | 'g' => some (padded 2 ((thursday moment).year.tmod 100))
  | 'G' => some (padded 4 (thursday moment).year)
  | 'H' => some (padded 2 hour)
  | 'I' => some (padded 2 half)
  | 'j' => some (padded 3 (daysInYear moment + 1))
  | 'J' => some ({ form := .general, places := 16 : RealStyle }.text (julianDays moment))
  | 'k' => some (blank hour)
  | 'l' => some (blank half)
  | 'm' => some (padded 2 moment.month)
  | 'M' => some (padded 2 moment.clock.minute)
  | 'p' => some (if hour < 12 then "AM" else "PM")
  | 'P' => some (if hour < 12 then "am" else "pm")
  | 'R' => some (minuteText moment)
  | 's' => some (if moment.fine then withPlaces 0 (fineSeconds moment)
      else toString (wholeSeconds moment))
  | 'S' => some (padded 2 seconds.truncate)
  | 'T' => some (clockText moment)
  | 'u' => some (toString (fromMonday moment + 1))
  | 'w' => some (toString (fromSunday moment))
  | 'U' => some (padded 2 ((daysInYear moment - fromSunday moment + 7) / 7))
  | 'V' => some (padded 2 (daysInYear (thursday moment) / 7 + 1))
  | 'W' => some (padded 2 ((daysInYear moment - fromMonday moment + 7) / 7))
  | 'Y' => some (padded 4 moment.year)
  | '%' => some "%"
  | _ => none

/-- A text with directives; an unknown one leaves nothing. -/
def format? (moment : Full) : List Char → Option (List Char)
  | '%' :: letter :: rest => do
    return (← directive? moment letter).toList ++ (← format? moment rest)
  | ['%'] => none
  | c :: rest => do return c :: (← format? moment rest)
  | [] => some []

/-- Years and months between two moments, and the later moment without them. -/
structure Span where
  years : Int
  months : Int
  moved : Full

/-- Take months back until a moment does not lie past another one. -/
def Span.settle (past : Full → Bool) (step : Int) : Nat → Span → Span
  | 0, span => span
  | fuel + 1, span =>
    if past span.moved then
      let (years, months) := if span.months = 0 then (span.years - 1, 11)
        else (span.years, span.months - 1)
      let month := span.moved.month + step
      let moved :=
        if month < 1 then span.moved.onDate (span.moved.year - 1) 12
        else if 12 < month then span.moved.onDate (span.moved.year + 1) 1
        else span.moved.onDate span.moved.year month
      Span.settle past step fuel ⟨years, months, moved⟩
    else span

/-- The way from one moment to another: years, months, days and a time of day. -/
def difference (finish start : Full) : String :=
  let ahead := start.julian ≤ finish.julian
  let years := if ahead then finish.year - start.year else start.year - finish.year
  let months := if ahead then finish.month - start.month else start.month - finish.month
  let moved := if years ≠ 0 then start.onDate finish.year start.month else start
  let moved := if months ≠ 0 then moved.onDate moved.year finish.month else moved
  let (years, months) := if months < 0 then (years - 1, months + 12) else (years, months)
  let past (moved : Full) : Bool :=
    if ahead then finish.julian < moved.julian else moved.julian < finish.julian
  let span := Span.settle past (if ahead then -1 else 1) 100 ⟨years, months, moved⟩
  let rest := if ahead then finish.julian - span.moved.julian else span.moved.julian - finish.julian
  let shown := ({ julian := some (rest + 148699540800000) } : Moment).full
  (if ahead then "+" else "-") ++ padded 4 span.years ++ "-" ++ padded 2 span.months ++ "-" ++
    padded 2 (shown.day - 1) ++ " " ++ minuteText shown ++ ":" ++ withPlaces 6 shown.clock.seconds

/-- How many arguments the functions take, at least and at most. -/
def signatures (most : Nat) : List (String × Nat × Nat) :=
  [("date", 0, most), ("time", 0, most), ("datetime", 0, most), ("julianday", 0, most),
   ("unixepoch", 0, most), ("strftime", 0, most), ("timediff", 2, 2), ("current_date", 0, 0),
   ("current_time", 0, 0), ("current_timestamp", 0, 0)]

def isName (name : String) : Bool := (signatures 0).any fun entry => entry.1 = name

/-- A moment is read from the present, or from the clocks of the place. -/
def asksNow (now : Instant) : List Datum → Bool
  | [] => true
  | value :: modifiers =>
    let is (words : List String) (value : Datum) : Bool :=
      match value with
      | .text text => words.any fun word => Moment.isWord (TextFunction.characters text) word
      | _ => false
    is ["now", "subsec", "subsecond"] value ||
      modifiers.zipIdx.any fun (modifier, place) => is ["localtime", "utc"] modifier &&
        (Moment.moved? now value (modifiers.take place)).isSome

/-- The result is the present, so it is another one each time. -/
def isPresent (now : Instant) (name : String) (arguments : List Datum) : Bool :=
  match name with
  | "strftime" => arguments ≠ [] && !(arguments.headD .null).isNull && asksNow now (arguments.drop 1)
  | "timediff" => asksNow now (arguments.take 1) ||
      ((Moment.read? now (arguments.take 1)).isSome && asksNow now (arguments.drop 1))
  | _ => asksNow now arguments

def apply (now : Instant) (name : String) (arguments : List Datum) : Datum :=
  let answer (arguments : List Datum) (write : Full → Datum) : Datum :=
    ((Moment.read? now arguments).map fun moment => write moment.full).getD .null
  match name with
  | "date" | "current_date" => answer arguments fun moment => .text (dateText moment)
  | "time" | "current_time" => answer arguments fun moment => .text (shownClock moment)
  | "datetime" | "current_timestamp" =>
    answer arguments fun moment => .text (dateText moment ++ " " ++ shownClock moment)
  | "julianday" => answer arguments fun moment => .real (julianDays moment)
  | "unixepoch" => answer arguments fun moment =>
      if moment.fine then .real (fineSeconds moment) else .integer (wholeSeconds moment)
  | "timediff" =>
    match Moment.read? now (arguments.take 1), Moment.read? now (arguments.drop 1) with
    | some finish, some start => .text (difference finish.full start.full)
    | _, _ => .null
  | _ =>
    match arguments with
    | [] | .null :: _ => .null
    | pattern :: times =>
      answer times fun moment =>
        ((format? moment (TextFunction.characters pattern.asText)).map fun text =>
          Datum.text (String.ofList text)).getD .null

end SignalGraph.Database.TimeFunction
