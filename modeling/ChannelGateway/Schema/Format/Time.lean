/-!
# Dates, times and durations
-/

namespace ChannelGateway.Text

/-- The digit of a field of fixed width: its distance from zero, where the six characters after nine
count as ten to fifteen. -/
def fieldDigit? (c : Char) : Option Nat :=
  if '0' ≤ c ∧ c ≤ '?' then some (c.toNat - '0'.toNat) else none

def takeNumber? (count : Nat) (text : List Char) : Option (Nat × List Char) :=
  if text.length < count then none
  else ((text.take count).mapM fieldDigit?).map fun digits =>
    (digits.foldl (fun value digit => 10 * value + digit) 0, text.drop count)

def isLeapYear (year : Nat) : Bool := year % 4 = 0 && (year % 100 ≠ 0 || year % 400 = 0)

def daysOfMonth (year month : Nat) : Nat :=
  match month with
  | 2 => if isLeapYear year then 29 else 28
  | 4 | 6 | 9 | 11 => 30
  | _ => 31

def isDate (text : List Char) : Bool :=
  match takeNumber? 4 text with
  | some (year, '-' :: rest) =>
    match takeNumber? 2 rest with
    | some (month, '-' :: rest) =>
      match takeNumber? 2 rest with
      | some (day, []) =>
        1 ≤ month && month ≤ 12 && 1 ≤ day && day ≤ daysOfMonth year month
      | _ => false
    | _ => false
  | _ => false

/-- The offset from universal time in minutes that a text spells. -/
def offset? (text : List Char) : Option Int :=
  let signed (sign : Int) (text : List Char) : Option Int :=
    match takeNumber? 2 text with
    | some (hours, ':' :: rest) =>
      match takeNumber? 2 rest with
      | some (minutes, []) =>
        if hours ≤ 23 ∧ minutes ≤ 59 then some (sign * (60 * hours + minutes)) else none
      | _ => none
    | _ => none
  match text with
  | ['Z'] | ['z'] => some 0
  | '+' :: rest => signed 1 rest
  | '-' :: rest => signed (-1) rest
  | _ => none

def skipFraction? (text : List Char) : Option (List Char) :=
  match text with
  | '.' :: rest =>
    let rest' := rest.dropWhile Char.isDigit
    if rest'.length = rest.length then none else some rest'
  | rest => some rest

/-- Whether a text is a time such as `10:30:00.5+02:00`.  Second 60 exists only in the last minute
of a day in universal time. -/
def isTime (text : List Char) : Bool :=
  match takeNumber? 2 text with
  | some (hour, ':' :: rest) =>
    match takeNumber? 2 rest with
    | some (minute, ':' :: rest) =>
      match takeNumber? 2 rest with
      | some (second, rest) =>
        match (skipFraction? rest).bind offset? with
        | some offset =>
          let universal := ((60 * hour + minute : Int) - offset) % (24 * 60)
          hour ≤ 23 && minute ≤ 59 && (second ≤ 59 || (second = 60 && universal = 24 * 60 - 1))
        | none => false
      | none => false
    | _ => false
  | _ => false

def isDateTime (text : List Char) : Bool :=
  let date := text.takeWhile fun c => c != 'T' && c != 't'
  isDate date && isTime (text.drop (date.length + 1))

/-- Reads numbers with units; a unit may only follow the ones before it in the list. -/
def hasUnits (units : List Char) (text : List Char) : Nat → Bool
  | 0 => false
  | fuel + 1 =>
    let digits := text.takeWhile Char.isDigit
    if digits.isEmpty then false
    else match text.drop digits.length with
      | [] => false
      | unit :: rest =>
        match units.dropWhile (· ≠ unit) with
        | [] => false
        | _ :: later => rest.isEmpty || hasUnits later rest fuel

/-- Whether a text is a duration: weeks alone or days and larger units, and `T` with smaller units;
one of the two halves may be left out. -/
def isDuration (text : List Char) : Bool :=
  match text with
  | 'P' :: rest =>
    let date := rest.takeWhile (· ≠ 'T')
    let dateFits := hasUnits ['Y', 'M', 'D'] date rest.length || hasUnits ['W'] date rest.length
    match rest.drop date.length with
    | [] => dateFits
    | _ :: time => (date.isEmpty || dateFits) && hasUnits ['H', 'M', 'S'] time rest.length
  | _ => false

end ChannelGateway.Text
