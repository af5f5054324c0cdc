import Telemetry.Store.History

/-!
# A snapshot file that several callers save

`SnapshotFile` takes a whole call for one step. A `Mirror` is the same store seen more closely: a
write is performed in memory under one lock and saved under another, and between the two any number
of other writes and saves may come. Every access to something shared is one step, so a list of
events is one order in which callers and the saver act, and every order is such a list. An event
that cannot happen changes nothing.

A save waits for the save lock, takes a copy of the contents while it holds the lock, and hands the
rewriting of the file over to a pool of threads. It goes on when the rewriting is through, lets go
of the lock, and answers its caller. A store that does not save after every write has a saver. When
the store is closed, the saver is aborted: wherever it waits it is dropped and does not go on. A
dropped save lets go of the lock, but what it has handed over is rewritten all the same.

Saves are numbered in the order in which they come.
-/

namespace Telemetry

/-- A copy of the contents. -/
structure Copy where
  /-- The number of writes that had been performed when it was taken. -/
  version : Nat
  contents : Snapshot
deriving DecidableEq

/-- How far a save has come. -/
inductive SavePoint
  /-- It waits for the save lock. -/
  | waiting
  /-- It holds the lock and has no copy. -/
  | holding
  /-- It has taken its copy. -/
  | copied (c : Copy)
  /-- It has handed the rewriting over and waits for it. -/
  | rewriting (c : Copy)
  /-- The rewriting is through; it may have failed. -/
  | rewritten (c : Copy) (works : Bool)
  /-- It has let go of the lock. -/
  | released (c : Copy) (works : Bool)
  /-- It has answered. -/
  | answered (c : Copy) (works : Bool)
  /-- It was dropped before it got the lock. -/
  | givenUp
  /-- It was dropped while it waited for the rewriting. -/
  | dropped (c : Copy)
deriving DecidableEq

/-- Who wants a save. -/
inductive SaveCause
  /-- A write, with its answer if the save works. -/
  | write (w : Write) (answer : Option Metric)
  /-- A caller that wants nothing else. -/
  | demand
  /-- The closing of the store. -/
  | close
  /-- The saver. -/
  | saver
deriving DecidableEq

/-- A save. -/
structure Save where
  cause : SaveCause
  /-- The number of writes that had been performed when it came, its own among them. -/
  since : Nat
  point : SavePoint
deriving DecidableEq

/-- A rewriting of the file for a save. -/
structure Rewrite where
  save : Nat
  cause : SaveCause
  copy : Copy
deriving DecidableEq

/-- A store with a snapshot file at any moment. -/
structure Mirror where
  path : Path
  /-- Every write is saved before it is answered, and there is no saver. -/
  isSynchronous : Bool
  contents : Snapshot
  /-- The writes performed so far, in their order, also those that were refused. -/
  applied : List Write
  disk : Disk
  /-- The store has been closed, so its saver is aborted. -/
  isClosed : Bool
  saves : List Save
  /-- What has been handed over and is not through. -/
  outstanding : List Rewrite
  /-- What has been written to the file so far, in this order. -/
  written : List Rewrite

namespace SavePoint

/-- A save at this point holds the lock. -/
def holdsLock : SavePoint → Bool
  | holding | copied _ | rewriting _ | rewritten _ _ => true
  | _ => false

/-- The copy that was taken on the way to this point. -/
def copy? : SavePoint → Option Copy
  | copied c | rewriting c | rewritten c _ | released c _ | answered c _ | dropped c => some c
  | waiting | holding | givenUp => none

/-- The copy, if its rewriting has worked. -/
def saved? : SavePoint → Option Copy
  | rewritten c true | released c true | answered c true => some c
  | _ => none

/-- A save at this point will do nothing more. -/
def isOver : SavePoint → Bool
  | released _ _ | answered _ _ | givenUp | dropped _ => true
  | _ => false

end SavePoint

namespace Save

/-- What the caller of a save is answered; `none` before it is answered. -/
def answer? (s : Save) : Option (Except StoreError (Option Metric)) :=
  match s.point, s.cause with
  | .answered _ true, .write _ answer => some (.ok answer)
  | .answered _ true, _ => some (.ok none)
  | .answered _ false, _ => some (.error .io)
  | _, _ => none

end Save

namespace Mirror

/-- A store with its contents, that nobody has called. -/
def fresh (contents : Snapshot) (path : Path) (disk : Disk) (isSynchronous : Bool) : Mirror :=
  ⟨path, isSynchronous, contents, [], disk, false, [], [], []⟩

/-- The copy that would be taken now. -/
def current (m : Mirror) : Copy := ⟨m.applied.length, m.contents⟩

/-- One save more comes, and waits. -/
def call (m : Mirror) (cause : SaveCause) : Mirror :=
  { m with saves := m.saves ++ [⟨cause, m.applied.length, .waiting⟩] }

/-- The save of a number goes on to another point. -/
def put (m : Mirror) (i : Nat) (point : SavePoint) : Mirror :=
  { m with saves := m.saves.modify i fun s => { s with point } }

/-- The save of a number has been aborted: it does not go on where it waits. -/
def isAborted (m : Mirror) (s : Save) : Bool := s.cause = .saver && m.isClosed

/-! ## What comes to the store -/

/-- A write is performed in memory. -/
def performed (m : Mirror) (w : Write) : Mirror :=
  { m with contents := (w.perform m.contents).2, applied := m.applied ++ [w] }

/-- A write comes. A refused one is answered as soon as it has been performed; so is an accepted
one, unless it is to be saved. -/
def write (m : Mirror) (w : Write) : Mirror :=
  match (w.perform m.contents).1 with
  | .ok answer =>
    if m.isSynchronous then (m.performed w).call (.write w answer) else m.performed w
  | .error _ => m.performed w

/-- The saver starts a save, if there is one and it is not busy. -/
def tick (m : Mirror) : Mirror :=
  if !m.isSynchronous && !m.isClosed && m.saves.all fun s => s.cause ≠ .saver || s.point.isOver then
    m.call .saver
  else m

/-- The store is closed: its saver is aborted, and the contents are to be saved a last time. -/
def close (m : Mirror) : Mirror := { m with isClosed := true }.call .close

/-! ## Steps of a save -/

/-- The aborted saver is dropped where it waits. -/
def drop (m : Mirror) (i : Nat) : Mirror :=
  match m.saves[i]? with
  | some s =>
    if m.isAborted s then
      match s.point with
      | .waiting => m.put i .givenUp
      | .rewriting c => m.put i (.dropped c)
      | .rewritten c works => m.put i (.released c works)
      | _ => m
    else m
  | none => m

/-- A save comes to hold the lock, if no other one does. -/
def lock (m : Mirror) (i : Nat) : Mirror :=
  match m.saves[i]? with
  | some s =>
    if s.point = .waiting && !m.isAborted s && m.saves.all fun s => !s.point.holdsLock then
      m.put i .holding
    else m
  | none => m

/-- A save takes its copy. -/
def copy (m : Mirror) (i : Nat) : Mirror :=
  match m.saves[i]? with
  | some s => if s.point = .holding then m.put i (.copied m.current) else m
  | none => m

/-- A save hands its copy over. -/
def handOver (m : Mirror) (i : Nat) : Mirror :=
  match m.saves[i]? with
  | some s =>
    match s.point with
    | .copied c => { m.put i (.rewriting c) with outstanding := m.outstanding ++ [⟨i, s.cause, c⟩] }
    | _ => m
  | none => m

/-- The save that waits for a rewriting learns how it has ended; a dropped one does not. -/
def settle (m : Mirror) (r : Rewrite) (works : Bool) : Mirror :=
  match m.saves[r.save]? with
  | some s => if s.point = .rewriting r.copy then m.put r.save (.rewritten r.copy works) else m
  | none => m

/-- An outstanding rewriting, by its place among them, is carried out: the file holds the copy, or
the rewriting fails and the file is as it was. -/
def rewrite (m : Mirror) (k : Nat) (works : Bool) : Mirror :=
  match m.outstanding[k]? with
  | some r =>
    let through := { m with outstanding := m.outstanding.eraseIdx k }
    match if works then r.copy.contents.save m.disk m.path else (.error .io, m.disk) with
    | (.ok (), disk) => { through with disk, written := m.written ++ [r] }.settle r true
    | (.error _, _) => through.settle r false
  | none => m

/-- A save lets go of the lock. -/
def release (m : Mirror) (i : Nat) : Mirror :=
  match m.saves[i]? with
  | some s =>
    match s.point with
    | .rewritten c works => if m.isAborted s then m else m.put i (.released c works)
    | _ => m
  | none => m

/-- A save answers. -/
def answer (m : Mirror) (i : Nat) : Mirror :=
  match m.saves[i]? with
  | some s =>
    match s.point with
    | .released c works => m.put i (.answered c works)
    | _ => m
  | none => m

/-! ## Events -/

/-- What may happen to a store. -/
inductive Event
  | write (w : Write)
  /-- A save is demanded. -/
  | demand
  | tick
  | close
  | drop (i : Nat)
  | lock (i : Nat)
  | copy (i : Nat)
  | handOver (i : Nat)
  | rewrite (k : Nat) (works : Bool)
  | release (i : Nat)
  | answer (i : Nat)
deriving DecidableEq

namespace Event

/-- The write of an event, if it is one. -/
def write? : Event → Option Write
  | write w => some w
  | _ => none

end Event

/-- One event. -/
def step (m : Mirror) : Event → Mirror
  | .write w => m.write w
  | .demand => m.call .demand
  | .tick => m.tick
  | .close => m.close
  | .drop i => m.drop i
  | .lock i => m.lock i
  | .copy i => m.copy i
  | .handOver i => m.handOver i
  | .rewrite k works => m.rewrite k works
  | .release i => m.release i
  | .answer i => m.answer i

/-- Events one after another. -/
def play (m : Mirror) (events : List Event) : Mirror := events.foldl step m

/-- The events of a save that nobody disturbs. -/
def undisturbed (i : Nat) : List Event :=
  [.lock i, .copy i, .handOver i, .rewrite 0 true, .release i, .answer i]

end Mirror

end Telemetry
