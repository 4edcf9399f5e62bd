import Mathlib.Data.List.DropRight
import SecretServer.Services.ServiceCalls

namespace SecretServer.Api

open Text Services

/-! The JSON that `System.Text.Json` makes of a response, under its web defaults. -/

inductive Json where
  | null
  | string (text : Utf16)
  | array (items : List Json)
  | object (members : List (String × Json))

namespace Json

def member? (name : String) : Json → Option Json
  | .object members => (members.find? fun member => member.1 = name).map Prod.snd
  | _ => none

def text? : Json → Option Utf16
  | .string text => some text
  | _ => none

end Json

/-! Days since 0001-01-01 as dates of the Gregorian calendar. -/

structure CivilDate where
  year : Nat
  month : Nat
  day : Nat
  deriving DecidableEq

namespace CivilDate

def daysPerYear : Nat := 365

def daysPer4Years : Nat := 4 * daysPerYear + 1

def daysPer100Years : Nat := 25 * daysPer4Years - 1

def daysPer400Years : Nat := 4 * daysPer100Years + 1

def monthLengths (isLeapYear : Bool) : List Nat :=
  [31, if isLeapYear then 29 else 28, 31, 30, 31, 30, 31, 31, 30, 31, 30, 31]

def monthAndDay (month : Nat) : List Nat → Nat → Nat × Nat
  | [], dayOfYear => (month, dayOfYear + 1)
  | length :: rest, dayOfYear =>
      if dayOfYear < length then (month, dayOfYear + 1)
      else monthAndDay (month + 1) rest (dayOfYear - length)

/-- The last of four centuries, and the last of four years, may be a day longer. -/
def ofDays (days : Nat) : CivilDate :=
  let y400 := days / daysPer400Years
  let days := days % daysPer400Years
  let y100 := min (days / daysPer100Years) 3
  let days := days - y100 * daysPer100Years
  let y4 := days / daysPer4Years
  let days := days % daysPer4Years
  let y1 := min (days / daysPerYear) 3
  let days := days - y1 * daysPerYear
  let isLeapYear := y1 == 3 && (y4 != 24 || y100 == 3)
  let (month, day) := monthAndDay 1 (monthLengths isLeapYear) days
  ⟨400 * y400 + 100 * y100 + 4 * y4 + y1 + 1, month, day⟩

end CivilDate

namespace JsonSerializer

def digit (value : Nat) : UInt16 :=
  if value < 10 then UInt16.ofNat (0x30 + value) else UInt16.ofNat (0x61 + (value - 10))

/-- The last digits of a number, as many as asked for. -/
def digits (base : Nat) : Nat → Nat → Utf16
  | 0, _ => []
  | width + 1, value =>
      digits base width (value / base) ++ [digit (value % base)]

def writeDate (date : CivilDate) : Utf16 :=
  digits 10 4 date.year ++ Utf16.ofString "-" ++ digits 10 2 date.month ++
    Utf16.ofString "-" ++ digits 10 2 date.day

def ticksPerSecond : Nat := 10000000

/-- The fraction of a second, without the zeros at its end. -/
def writeFraction (fraction : Nat) : Utf16 :=
  if fraction = 0 then []
  else Utf16.ofString "." ++ (digits 10 7 fraction).rdropWhile (· == digit 0)

def writeTimeOfDay (ticks : Nat) : Utf16 :=
  let seconds := ticks / ticksPerSecond
  digits 10 2 (seconds / 3600) ++ Utf16.ofString ":" ++
    digits 10 2 (seconds / 60 % 60) ++ Utf16.ofString ":" ++
    digits 10 2 (seconds % 60) ++ writeFraction (ticks % ticksPerSecond)

def writeTicks (ticks : Nat) : Utf16 :=
  writeDate (CivilDate.ofDays (ticks / DateTime.ticksPerDay)) ++ Utf16.ofString "T" ++
    writeTimeOfDay (ticks % DateTime.ticksPerDay)

/-- What follows the ticks.  The zone of the server gives a local time its offset. -/
def writeKind (localOffset : Nat → Utf16) (time : DateTime) : Utf16 :=
  match time.kind with
  | .unspecified => []
  | .utc => Utf16.ofString "Z"
  | .local => localOffset time.ticks

def writeDateTime (localOffset : Nat → Utf16) (time : DateTime) : Utf16 :=
  writeTicks time.ticks ++ writeKind localOffset time

def writeGuid (guid : Guid) : Utf16 :=
  digits 16 8 (guid.toNat / 16 ^ 24) ++ Utf16.ofString "-" ++
    digits 16 4 (guid.toNat / 16 ^ 20) ++ Utf16.ofString "-" ++
    digits 16 4 (guid.toNat / 16 ^ 16) ++ Utf16.ofString "-" ++
    digits 16 4 (guid.toNat / 16 ^ 12) ++ Utf16.ofString "-" ++ digits 16 12 guid.toNat

variable (localOffset : Nat → Utf16)

def createSecretResponse (response : CreateSecretResponse) : Json :=
  .object [("guid", .string (writeGuid response.guid)),
    ("createdAt", .string (writeDateTime localOffset response.createdAt))]

def revealSecretResponse (response : RevealSecretResponse) : Json :=
  .object [("password", .string response.password)]

def secretGridResponse (response : SecretGridResponse) : Json :=
  .object [("guid", .string (writeGuid response.guid)),
    ("ttl", response.ttl.elim .null .string),
    ("createdAt", .string (writeDateTime localOffset response.createdAt))]

def serialize : ServiceResponse → Json
  | .createSecret response => createSecretResponse localOffset response
  | .revealSecret response => revealSecretResponse response
  | .secretsCreatedByUser response =>
      .array (response.map (secretGridResponse localOffset))

end JsonSerializer

end SecretServer.Api
