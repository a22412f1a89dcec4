import Tablekeep.Number.Layout
import Tablekeep.Server.Network
import Tablekeep.Workspace

/-!
# Waiting for a server

A server that went to sleep times out the first connections while it wakes up. So a connection that
times out is tried again after a while, which grows from one try to the next. Any other error, and a
timeout of the last try, ends the waiting.
-/

namespace Tablekeep.Server

variable {σ : Type}

/-- What a server says when it is waking up. -/
def timeoutText : String := "Connection Timeout Expired"

/-- The server says that the connection timed out, be it that it refuses the client or the
statement. -/
def isTimeout (e : ServerError) : Bool :=
  Text.contains e.message timeoutText

/-- A number of seconds in six digits. -/
def secondsText (r : Rat) : String :=
  (if r.num < 0 then "-" else "") ++ Number.toSixDigits r.num.natAbs r.den

/-- The warning before a wait. -/
def waitText (seconds : Rat) : String :=
  "Connection timeout. Database may have auto-paused. Will retry in " ++ secondsText seconds
    ++ " seconds."

/-- Waits, after a warning. -/
def pause (seconds : Rat) : Work (Network σ) ServerError Unit := do
  Work.log .warning (waitText seconds)
  Work.ask (record (.waited seconds))

/-- Tries so many times more, where so many tries have been made. -/
def Connection.tryAgain [Server σ] (c : Connection) (delay : Rat) (made : Nat) :
    Nat → Work (Network σ) ServerError Unit
  | 0 => return ()
  | left + 1 => do
    match ← Work.ask c.probe with
    | .ok () => return ()
    | .error e =>
      if isTimeout e && left != 0 then
        pause (delay * ((made + 1 : Nat) : Rat))
        c.tryAgain delay (made + 1) left
      else Work.fail e

/-- Waits until the server answers, in at most so many tries. The first wait takes the delay, and
each other one that much longer than the one before. -/
def Connection.waitUntilAvailable [Server σ] (c : Connection) (attempts : Nat) (delay : Rat) :
    Work (Network σ) ServerError Unit :=
  c.tryAgain delay 0 attempts

/-- How often is tried. -/
def usualAttempts : Nat := 3

/-- The first wait in seconds. -/
def usualDelay : Rat := 30

end Tablekeep.Server
