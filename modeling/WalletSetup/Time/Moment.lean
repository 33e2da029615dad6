import WalletSetup.Time.Calendar

/-! Dates and times as a configuration file can hold them: alone or together, with or without an
offset from UTC. -/

set_option autoImplicit false

namespace WalletSetup.Time

structure Clock where
  hour : Nat
  minute : Nat
  second : Nat
  microsecond : Nat
  deriving DecidableEq, Repr

/-- The fraction has six digits, or none at all for a whole second. -/
def Clock.render (t : Clock) : String :=
  let pair := Duration.padded 2
  s!"{pair t.hour}:{pair t.minute}:{pair t.second}" ++
    (if t.microsecond = 0 then "" else "." ++ Duration.padded 6 t.microsecond)

inductive Moment where
  | date (day : Date)
  | clock (time : Clock)
  /-- The offset from UTC is in minutes; without one the time is local. -/
  | dateTime (day : Date) (time : Clock) (offset : Option Int)
  deriving DecidableEq, Repr

def renderOffset (minutes : Int) : String :=
  let pair := Duration.padded 2
  (if minutes < 0 then "-" else "+") ++ pair (minutes.natAbs / 60) ++ ":" ++
    pair (minutes.natAbs % 60)

def Moment.render : Moment → String
  | date day => day.render
  | clock time => time.render
  | dateTime day time offset =>
    day.render ++ "T" ++ time.render ++ (offset.map renderOffset).getD ""

end WalletSetup.Time
