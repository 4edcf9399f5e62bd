import SecretServer.Text.Utf16

namespace SecretServer

open Text

/-! Values that every layer shares.  A .NET string is its sequence of UTF-16 code
units, and one that may be null is an `Option`. -/

abbrev Guid := BitVec 128

def Guid.empty : Guid := 0

theorem Guid.one_ne_empty : (1 : Guid) ≠ Guid.empty := by decide

theorem Guid.two_ne_empty : (2 : Guid) ≠ Guid.empty := by decide

/-- A result of `Guid.NewGuid()`, which is never the empty GUID. -/
structure NewGuid where
  value : Guid
  nonempty : value ≠ Guid.empty
  deriving DecidableEq

inductive DateTimeKind where
  | unspecified
  | utc
  | local
  deriving DecidableEq, Repr

/-- The ticks of `DateTime.MaxValue`, in units of 100 ns. -/
def DateTime.maxTicks : Nat := 3155378975999999999

structure DateTime where
  ticks : Nat
  kind : DateTimeKind
  inRange : ticks ≤ DateTime.maxTicks
  deriving DecidableEq, Repr

namespace DateTime

def ticksPerHour : Nat := 36000000000

def ticksPerDay : Nat := 24 * ticksPerHour

def minValue : DateTime := ⟨0, .unspecified, Nat.zero_le _⟩

/-- What a `datetime2` column gives back: all ticks, and no kind. -/
def materialized (time : DateTime) : DateTime := { time with kind := .unspecified }

@[simp] theorem ticks_materialized (time : DateTime) :
    time.materialized.ticks = time.ticks := rfl

end DateTime

inductive MessageArg where
  | guid (value : Guid)
  | dateTime (value : DateTime)
  | string (value : Option Utf16)
  deriving DecidableEq

structure Message where
  format : String
  args : List MessageArg := []
  deriving DecidableEq

structure ValidationFailure where
  propertyName : String
  errorMessage : String
  deriving DecidableEq

/-- What the database objects to when a statement is refused. -/
inductive DbConstraint where
  | primaryKey (name : String)
  | uniqueIndex (name : String)
  | foreignKey (name : String)
  | notNull (column : String)
  | columnWidth (column : String)
  deriving DecidableEq

inductive Exception where
  | argument (message : Message) (paramName : Option String)
  | argumentOutOfRange (paramName : String)
  | overflow
  | format
  | cryptographic
  | validation (errors : List ValidationFailure)
  | unauthorizedAccess (message : Message)
  | keyNotFound (message : Message)
  | applicationLogic (message : Message)
  | forbiddenAccess (message : Message)
  | badRequest (message : Message)
  | dbUpdate (constraint : DbConstraint)
  | dbUpdateConcurrency
  deriving DecidableEq

def Exception.isArgumentException : Exception → Bool
  | .argument _ _ => true
  | .argumentOutOfRange _ => true
  | _ => false

namespace DateTime

/-- `DateTime.Add`, which keeps the kind and refuses to leave the range. -/
def add (time : DateTime) (ticks : Nat) : Except Exception DateTime :=
  if inRange : time.ticks + ticks ≤ maxTicks then
    .ok ⟨time.ticks + ticks, time.kind, inRange⟩
  else
    .error (.argumentOutOfRange "value")

def addHours (time : DateTime) (hours : Nat) : Except Exception DateTime :=
  time.add (hours * ticksPerHour)

def addDays (time : DateTime) (days : Nat) : Except Exception DateTime :=
  time.add (days * ticksPerDay)

theorem add_of_le {time : DateTime} {ticks : Nat}
    (inRange : time.ticks + ticks ≤ maxTicks) :
    time.add ticks = .ok ⟨time.ticks + ticks, time.kind, inRange⟩ := by
  simp [add, inRange]

theorem add_of_lt {time : DateTime} {ticks : Nat}
    (beyond : maxTicks < time.ticks + ticks) :
    time.add ticks = .error (.argumentOutOfRange "value") := by
  simp [add, Nat.not_le.mpr beyond]

end DateTime

/-! The time to live a client may ask for. -/

inductive TimeToLive where
  | week
  | day
  | hour
  deriving DecidableEq, Repr

namespace TimeToLive

def values : List TimeToLive := [.week, .day, .hour]

def stringValueAttribute : TimeToLive → Option Utf16
  | .week => some (Utf16.ofString "week")
  | .day => some (Utf16.ofString "day")
  | .hour => some (Utf16.ofString "hour")

def toString : TimeToLive → Utf16
  | .week => Utf16.ofString "Week"
  | .day => Utf16.ofString "Day"
  | .hour => Utf16.ofString "Hour"

def getStringValue (value : TimeToLive) : Utf16 :=
  value.stringValueAttribute.getD value.toString

theorem getStringValue_injective {left right : TimeToLive}
    (equal : left.getStringValue = right.getStringValue) : left = right := by
  cases left <;> cases right <;> first | rfl | exact absurd equal (by decide)

theorem getStringValue_inj {left right : TimeToLive} :
    left.getStringValue = right.getStringValue ↔ left = right :=
  ⟨getStringValue_injective, fun equal => congrArg getStringValue equal⟩

end TimeToLive

structure Executor where
  userId : Guid
  deriving DecidableEq

end SecretServer
