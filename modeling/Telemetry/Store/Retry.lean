import Telemetry.Store

/-!
# Connecting with retries

A connection is attempted at fixed moments: every attempt has a time limit that grows with its
number, and a pause stands before every attempt but the first. Time is counted in whole milliseconds
from the start, which is as finely as the timers behind it go: a pause or a limit that is given in
smaller units ends with the millisecond.

`RetryPolicy.run` plays a connector against a policy and records everything that can be seen of it:
when each attempt was made and with what limit, the states the connection went through, and the
result.
-/

namespace Telemetry

/-- When to try again, and for how long. -/
structure RetryPolicy where
  /-- The pauses before the attempts after the first. -/
  delays : List Nat
  /-- The limit of the first attempt. -/
  baseTimeout : Nat

/-- The state of a connection. -/
inductive ConnectionState
  | disconnected
  | connecting (attempt : Nat)
  | connected
  | failed
deriving DecidableEq

/-- The state of a connection, and how it has come into it. -/
structure ConnectionLog where
  state : ConnectionState
  /-- The changes of the state so far, each with the state before and the state after. -/
  transitions : List (ConnectionState × ConnectionState)

/-- What one attempt does when nobody interrupts it: how long it takes and how it ends. -/
structure Attempt (α : Type) where
  duration : Nat
  outcome : Except String α

/-- One attempt as it was started. -/
structure RetryCall where
  attempt : Nat
  limit : Nat
  startedAt : Nat
deriving DecidableEq

/-- The record of a connection. -/
structure RetryRun (α : Type) where
  calls : List RetryCall
  transitions : List (ConnectionState × ConnectionState)
  elapsed : Nat
  result : Except StoreError α

namespace ConnectionLog

/-- The connection has not been attempted. -/
def start : ConnectionLog := ⟨.disconnected, []⟩

/-- The connection comes into another state, and this is logged. -/
def enter (log : ConnectionLog) (next : ConnectionState) : ConnectionLog :=
  ⟨next, log.transitions ++ [(log.state, next)]⟩

end ConnectionLog

namespace RetryPolicy

/-- Four attempts with growing pauses. -/
def standard : RetryPolicy := ⟨[1000, 3000, 5000], 2000⟩

/-- The number of attempts. -/
def attempts (p : RetryPolicy) : Nat := p.delays.length + 1

/-- The time limit of an attempt. Attempts are counted in words of 32 bits. -/
def timeoutFor (p : RetryPolicy) (attempt : Nat) : Nat :=
  p.baseTimeout * (attempt % UInt32.size + 1)

/-- The error of an attempt that took too long. -/
def timeoutText (limit : Nat) : String :=
  "connection attempt timed out after " ++ toString limit ++ "ms"

/-- The wording of a failed attempt. -/
def causeText (error : String) : String := "Custom Error: " ++ error

/-- An attempt under a limit: one that ends at the limit is still in time. -/
def limited {α : Type} (limit : Nat) (a : Attempt α) : Attempt α :=
  if a.duration ≤ limit then a else ⟨limit, .error (timeoutText limit)⟩

/-- The outcome of an attempt with the limit it has, and the time it takes. -/
def tryOnce {α : Type} (p : RetryPolicy) (connect : Nat → Attempt α) (attempt : Nat) : Attempt α :=
  limited (p.timeoutFor attempt) (connect attempt)

/-- The attempts from number `attempt` on, the first of them at `now`, of a connection that has come
as far as `log`; `pauses` are the ones still to come. -/
def runFrom {α : Type} (p : RetryPolicy) (connect : Nat → Attempt α) (log : ConnectionLog)
    (attempt now : Nat) (pauses : List Nat) : RetryRun α :=
  let done := p.tryOnce connect attempt
  let call : RetryCall := ⟨attempt, p.timeoutFor attempt, now⟩
  let log := log.enter (.connecting attempt)
  match done.outcome with
  | .ok a => ⟨[call], (log.enter .connected).transitions, now + done.duration, .ok a⟩
  | .error e =>
    let log := log.enter .disconnected
    match pauses with
    | [] =>
      ⟨[call], (log.enter .failed).transitions, now + done.duration,
        .error (.connectFailed p.attempts (causeText e))⟩
    | pause :: pauses =>
      let rest := p.runFrom connect log (attempt + 1) (now + done.duration + pause) pauses
      { rest with calls := call :: rest.calls }

/-- A connector against a policy. -/
def run {α : Type} (p : RetryPolicy) (connect : Nat → Attempt α) : RetryRun α :=
  p.runFrom connect .start 0 0 p.delays

end RetryPolicy

namespace ConnectionState

/-- A state as it is logged. -/
def text : ConnectionState → String
  | disconnected => "Disconnected"
  | connecting attempt => "Connecting \x7b attempt: " ++ toString attempt ++ " \x7d"
  | connected => "Connected"
  | failed => "Failed"

end ConnectionState

end Telemetry
