import Mathlib.Algebra.Group.Int.Defs
import Mathlib.Data.List.AList
import SingTun.Foundation.Transition

/-!
# The TCP port translation of the system stack

`TCPNat` gives every pair of a source and a destination a port of its own.
`addrMap` finds the port of a pair and `portMap` the session of a port.  The
sessions are shared by pointer, so the model keeps them in a heap of their own
and a pointer is a position in it.

Each function here is the body of one critical section, or a call that is made
of them.  The callers and the timeout loop are threads over these sections.
-/

namespace SingTun.System

open Foundation

/-! ## Time -/

/-- The limits of `time.Duration`, in nanoseconds. -/
def minDuration : Int := -2 ^ 63

def maxDuration : Int := 2 ^ 63 - 1

/-- `time.Second`. -/
def second : Int := 1000000000

/-- `Time.Sub` stops at the limits of a duration. -/
def timeSub (time other : Int) : Int :=
  max minDuration (min maxDuration (time - other))

/-! ## The table -/

structure TCPNatKey (α : Type) where
  source : α
  destination : α
deriving DecidableEq

structure TCPSession (α : Type) where
  source : α
  destination : α
  lastActive : Int
deriving DecidableEq

def TCPSession.key {α : Type} (session : TCPSession α) : TCPNatKey α :=
  ⟨session.source, session.destination⟩

/-- The table, and the heap of the sessions that were ever created. -/
structure TCPNat (α : Type) where
  timeout : Int
  portIndex : UInt16
  addrMap : AList fun _ : TCPNatKey α => UInt16
  portMap : AList fun _ : UInt16 => Nat
  sessions : List (TCPSession α)

variable {α : Type} [DecidableEq α]

def newNat (α : Type) (timeout : Int) : TCPNat α :=
  { timeout
    portIndex := 10000
    addrMap := ∅
    portMap := ∅
    sessions := [] }

section

variable (nat : TCPNat α)

/-- The session that `portMap` points to. -/
def TCPNat.sessionAt (port : UInt16) : Option (TCPSession α) :=
  (nat.portMap.lookup port).bind fun session => nat.sessions[session]?

/-! ## Sessions -/

/-- `since` is read by `time.Since` and `now` by `time.Now`. -/
def TCPSession.refresh (session : TCPSession α) (since now : Int) : TCPSession α :=
  if timeSub since session.lastActive > second then
    { session with lastActive := now }
  else session

/-- `refresh` through a pointer. -/
def TCPNat.refreshSession (session : Nat) (since now : Int) : TCPNat α :=
  { nat with
    sessions := nat.sessions.modify session (·.refresh since now) }

def TCPNat.refresh (port : UInt16) (since now : Int) : TCPNat α :=
  match nat.portMap.lookup port with
  | none => nat
  | some session => nat.refreshSession session since now

/-! ## Lookup -/

/-- The loop of `allocatePortLocked`; also returns the new `portIndex`. -/
def allocateLoop (portMap : AList fun _ : UInt16 => Nat) : Nat → UInt16 → Option UInt16 × UInt16
  | 0, portIndex => (none, portIndex)
  | count + 1, portIndex =>
    let nextPort := if portIndex = 0 then 10000 else portIndex
    let portIndex := if portIndex = 0 then 10001 else portIndex + 1
    if nextPort ∈ portMap then allocateLoop portMap count portIndex
    else (some nextPort, portIndex)

def TCPNat.allocatePortLocked : Option UInt16 × TCPNat α :=
  let (port, portIndex) := allocateLoop nat.portMap (65535 - 10000 + 1) nat.portIndex
  (port, { nat with portIndex })

def portSpaceExhausted : String := "NAT port space exhausted"

/-- The section of `Lookup` under the read lock. -/
def TCPNat.probe (key : TCPNatKey α) : Option UInt16 :=
  nat.addrMap.lookup key

/-- The section of `Lookup` under the write lock. -/
def TCPNat.insertLocked (key : TCPNatKey α) (since now : Int) : Except String UInt16 × TCPNat α :=
  match nat.addrMap.lookup key with
  | some port => (.ok port, nat.refresh port since now)
  | none =>
    match nat.allocatePortLocked with
    | (none, nat) => (.error portSpaceExhausted, nat)
    | (some nextPort, nat) =>
      (.ok nextPort,
        { nat with
          portMap := nat.portMap.insert nextPort nat.sessions.length
          addrMap := nat.addrMap.insert key nextPort
          sessions := nat.sessions ++
            [{ source := key.source
               destination := key.destination
               lastActive := now }] })

/-- A whole call of `Lookup`. -/
def TCPNat.lookup (source destination : α) (since now : Int) : Except String UInt16 × TCPNat α :=
  let key : TCPNatKey α := ⟨source, destination⟩
  match nat.probe key with
  | some port => (.ok port, nat.refresh port since now)
  | none => nat.insertLocked key since now

theorem TCPNat.lookup_of_some {nat : TCPNat α} {source destination : α} {port : UInt16}
    (found : nat.probe ⟨source, destination⟩ = some port) (since now : Int) :
    nat.lookup source destination since now = (.ok port, nat.refresh port since now) := by
  simp only [TCPNat.lookup, found]

theorem TCPNat.lookup_of_none {nat : TCPNat α} {source destination : α}
    (missed : nat.probe ⟨source, destination⟩ = none) (since now : Int) :
    nat.lookup source destination since now = nat.insertLocked ⟨source, destination⟩ since now := by
  simp only [TCPNat.lookup, missed]

/-- A whole call of `LookupBack`; the session as it is after the refresh. -/
def TCPNat.lookupBack (port : UInt16) (since now : Int) : Option (TCPSession α) × TCPNat α :=
  let nat := nat.refresh port since now
  (nat.sessionAt port, nat)

/-! ## The timeout -/

def TCPNat.timedOut (now : Int) (session : TCPSession α) : Bool :=
  timeSub now session.lastActive > nat.timeout

/-- The section of `checkTimeout` under the read lock. -/
def TCPNat.scan (now : Int) : List (UInt16 × Nat) :=
  (nat.portMap.entries.map fun entry => (entry.1, entry.2)).filter
    fun entry => (nat.sessions[entry.2]?).any (nat.timedOut now)

/-- One round of the deletion loop. -/
def TCPNat.expire (now : Int) (nat : TCPNat α) (entry : UInt16 × Nat) : TCPNat α :=
  match nat.sessions[entry.2]? with
  | none => nat
  | some session =>
    if nat.timedOut now session then
      { nat with
        addrMap := nat.addrMap.erase session.key
        portMap := nat.portMap.erase entry.1 }
    else nat

/-- The section of `checkTimeout` under the write locks. -/
def TCPNat.deleteExpired (now : Int) (expired : List (UInt16 × Nat)) : TCPNat α :=
  expired.foldl (TCPNat.expire now) nat

/-! ## Threads -/

/-- What a call of `Lookup` or `LookupBack` returned. -/
inductive NatResult (α : Type)
  | port (key : TCPNatKey α) (port : UInt16)
  | failed (key : TCPNatKey α) (message : String)
  | session (port : UInt16) (session : Option Nat)
deriving DecidableEq

/-- Where a caller is. -/
inductive Caller (α : Type)
  /-- `Lookup`, before its probe. -/
  | lookup (key : TCPNatKey α)
  /-- `Lookup` found a port and calls `n.refresh`. -/
  | found (key : TCPNatKey α) (port : UInt16)
  /-- `Lookup` found nothing and waits for the write lock. -/
  | missed (key : TCPNatKey α)
  /-- `LookupBack`, before it reads `portMap`. -/
  | lookupBack (port : UInt16)
  /-- Has read a pointer and refreshes the session. -/
  | refreshing (session : Nat) (result : NatResult α)
  | returned (result : NatResult α)
deriving DecidableEq

/-- A new call. -/
def Caller.Starts : Caller α → Prop
  | .lookup _ => True
  | .lookupBack _ => True
  | _ => False

/-- What a caller does with a pointer it has read. -/
def Caller.withSession (session : Option Nat) (result : NatResult α) : Caller α :=
  match session with
  | none => .returned result
  | some session => .refreshing session result

/-- The next critical section of a caller. -/
def Caller.step (since now : Int) : Caller α → TCPNat α × Caller α
  | .lookup key =>
    match nat.probe key with
    | some port => (nat, .found key port)
    | none => (nat, .missed key)
  | .found key port =>
    (nat, .withSession (nat.portMap.lookup port) (.port key port))
  | .missed key =>
    match nat.insertLocked key since now with
    | (.ok port, nat) => (nat, .returned (.port key port))
    | (.error message, nat) => (nat, .returned (.failed key message))
  | .lookupBack port =>
    (nat, .withSession (nat.portMap.lookup port) (.session port (nat.portMap.lookup port)))
  | .refreshing session result =>
    (nat.refreshSession session since now, .returned result)
  | .returned result => (nat, .returned result)

end

/-- The goroutine of `loopCheckTimeout`. -/
inductive Checker
  | idle
  /-- Between the scan and the deletion. -/
  | scanned (now : Int) (expired : List (UInt16 × Nat))
deriving DecidableEq

structure NatState (α : Type) where
  nat : TCPNat α
  callers : List (Caller α)
  checker : Checker

/-- One critical section of one thread. -/
inductive NatStep : NatState α → NatState α → Prop
  | call (state : NatState α) (caller : Caller α) (starts : caller.Starts) :
      NatStep state { state with callers := state.callers ++ [caller] }
  | caller (state : NatState α) (i : Nat) (caller : Caller α)
      (since now : Int) (found : state.callers[i]? = some caller) :
      NatStep state
        { state with
          nat := (caller.step state.nat since now).1
          callers := state.callers.set i (caller.step state.nat since now).2 }
  -- A Go map is visited in any order.
  | scan (state : NatState α) (now : Int) (expired : List (UInt16 × Nat))
      (idle : state.checker = .idle)
      (visited : expired.Perm (state.nat.scan now)) :
      NatStep state
        { state with
          checker := if expired = [] then .idle else .scanned now expired }
  | delete (state : NatState α) (now : Int) (expired : List (UInt16 × Nat))
      (scanned : state.checker = .scanned now expired) :
      NatStep state
        { state with
          nat := state.nat.deleteExpired now expired
          checker := .idle }

/-- Any number of callers and the single timeout loop. -/
def natSystem (α : Type) [DecidableEq α] (timeout : Int) : TransitionSystem (NatState α) where
  initial state := state = ⟨newNat α timeout, [], .idle⟩
  step := NatStep

end SingTun.System
