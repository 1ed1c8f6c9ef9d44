import WideRow.Text.Numeral

namespace WideRow

structure Date where
  year : Int
  month : Nat
  day : Nat
  deriving DecidableEq, Repr

namespace Date

def isLeap (year : Int) : Bool := year % 4 = 0 && (year % 100 ≠ 0 || year % 400 = 0)

def daysInMonth (year : Int) (month : Nat) : Nat :=
  match month with
  | 2 => if isLeap year then 29 else 28
  | 4 | 6 | 9 | 11 => 30
  | _ => 31

def isValid (d : Date) : Bool :=
  1 ≤ d.month && d.month ≤ 12 && 1 ≤ d.day && d.day ≤ daysInMonth d.year d.month

def order (a b : Date) : Ordering :=
  (compare a.year b.year).then ((compare a.month b.month).then (compare a.day b.day))

def daysBefore (year : Int) : Nat → Nat
  | 0 => 0
  | 1 => 0
  | m + 2 => daysBefore year (m + 1) + daysInMonth year (m + 1)

def days (d : Date) : Int :=
  let y := d.year - 1
  365 * y + y / 4 - y / 100 + y / 400 + daysBefore d.year d.month + (d.day - 1) - 719162

def nextMonth (d : Date) : Date :=
  if d.month = 12 then ⟨d.year + 1, 1, 1⟩ else ⟨d.year, d.month + 1, 1⟩

open Text

def monthAndDay? (year : Int) (cs : List Char) : Option (Date × List Char) := do
  let cs ← expect? '-' cs
  let (month, cs) ← fixedDigits? 2 cs
  let cs ← expect? '-' cs
  let (day, cs) ← fixedDigits? 2 cs
  let d : Date := ⟨year, month, day⟩
  if d.isValid then some (d, cs) else none

def read? (cs : List Char) : Option Date := do
  let (negative, cs) := sign cs
  let (year, cs) ← fixedDigits? 4 cs
  match ← monthAndDay? (if negative then -(year : Int) else year) cs with
  | (d, []) => some d
  | _ => none

end Date

structure Instant where
  nanos : Int
  offset : Int
  deriving DecidableEq, Repr

namespace Instant

def order (a b : Instant) : Ordering := compare a.nanos b.nanos

open Text

/-- Digits after the tenth of a second's billionths are read and do not count. -/
def fraction? : List Char → Option (Nat × List Char)
  | '.' :: cs => do
    let (ds, cs) ← digits? cs
    let ds := ds.take 9
    some (digitsValue ds * Nat.pow 10 (9 - ds.length), cs)
  | cs => some (0, cs)

def offset? : List Char → Option (Int × List Char)
  | [] => none
  | c :: cs =>
    if c = 'Z' ∨ c = 'z' then some (0, cs)
    else if c = '+' ∨ c = '-' then do
      let (hours, cs) ← fixedDigits? 2 cs
      let cs ← expect? ':' cs
      let (minutes, cs) ← fixedDigits? 2 cs
      if hours ≤ 23 ∧ minutes ≤ 59 then
        let seconds : Int := hours * 3600 + minutes * 60
        some (if c = '-' then -seconds else seconds, cs)
      else none
    else none

def secondsOf (d : Date) (hour minute second : Nat) (offset : Int) : Int :=
  d.days * 86400 + hour * 3600 + minute * 60 + second - offset

/-- Whether a second is the last one in UTC of the month of `d` or of the month before. -/
def endsMonth (d : Date) (second : Int) : Bool :=
  second + 1 == ({ d with day := 1 } : Date).days * 86400 || second + 1 == d.nextMonth.days * 86400

/-- A leap second, which only the end of a month in UTC has, reads as the last nanosecond before. -/
def ofParts? (d : Date) (hour minute second nanos : Nat) (offset : Int) : Option Instant :=
  if 24 ≤ hour ∨ 60 ≤ minute ∨ 61 ≤ second then none
  else if second = 60 then
    let s := secondsOf d hour minute 59 offset
    if endsMonth d s then some ⟨s * 1000000000 + 999999999, offset⟩ else none
  else some ⟨secondsOf d hour minute second offset * 1000000000 + nanos, offset⟩

def read? (cs : List Char) : Option Instant := do
  let (year, cs) ← fixedDigits? 4 cs
  let (d, cs) ← Date.monthAndDay? year cs
  let cs ←
    match cs with
    | c :: cs => if c.toNat < 0x80 then some cs else none
    | [] => none
  let (hour, cs) ← fixedDigits? 2 cs
  let cs ← expect? ':' cs
  let (minute, cs) ← fixedDigits? 2 cs
  let cs ← expect? ':' cs
  let (second, cs) ← fixedDigits? 2 cs
  let (nanos, cs) ← fraction? cs
  match ← offset? cs with
  | (offset, []) => ofParts? d hour minute second nanos offset
  | _ => none

end Instant

end WideRow
