import Dopedb.Library.Tasks
import Dopedb.Queries.StreamBatch

/-!
# The credit of one result stream

`desktop_stream_registry.rs`, seen through the entry of one operation: the producer dispatches a
page and waits, the renderer pulls and acknowledges it. Every call holds the registry's lock while
it touches the entry, and `dispatch` touches it twice, with the page stored in between. `history`
records the pages that became ready, were handed out and were acknowledged.
-/

namespace Dopedb.Queries

open Library

/-- The largest sequence. -/
def U64_MAX : Nat := 2 ^ 64 - 1

/-- `saturating_add(1)` of a sequence. -/
def saturatingSucc (n : Nat) : Nat := if n < U64_MAX then n + 1 else U64_MAX

/-- Pages are written to a result, or only kept until they are acknowledged. -/
inductive DesktopSqlStreamRetention where
  | durable | ephemeral
  deriving DecidableEq, Repr

/-- The entry of a stream. -/
structure StreamCredit where
  nextSequence : Nat := 0
  inFlight : Option Nat := none
  pulled : Bool := false
  cancelled : Bool := false
  ownerWebview : String
  capability : String
  retention : DesktopSqlStreamRetention
  started : Bool := false
  /-- A result writer is there. -/
  resultWriter : Bool := false
  ephemeralBatch : Option DesktopSqlStreamBatch := none
  durablePage : Option DesktopSqlStreamBatch := none
  changed : Nat := 0
  deriving DecidableEq

/-- What happened to pages and to the stream. -/
inductive StreamEvent where
  | dispatched (sequence : Nat) (batch : DesktopSqlStreamBatch)
  | pulled (capability ownerWebview : String) (batch : DesktopSqlStreamBatch)
  | acknowledged (sequence : Nat)
  | cancelled
  | completed
  deriving DecidableEq

/-- The entry, until it is removed, and what happened so far. -/
structure StreamState where
  stream : Option StreamCredit
  history : List StreamEvent := []

namespace StreamCredit

/-- The caller presents the stream's own webview and capability. -/
def owns (stream : StreamCredit) (capability ownerWebview : String) : Bool :=
  stream.capability = capability && stream.ownerWebview = ownerWebview

/-- The waiters are told of a change. -/
def signal (stream : StreamCredit) : StreamCredit :=
  { stream with changed := saturatingSucc stream.changed }

/-- An invalid request of the owner stops its own stream. -/
def rejectOwned (stream : StreamCredit) : StreamCredit :=
  { stream with cancelled := true }.signal

/-- The page that awaits its pull. -/
def slot (stream : StreamCredit) : Option DesktopSqlStreamBatch :=
  match stream.retention with
  | .durable => stream.durablePage
  | .ephemeral => stream.ephemeralBatch

/-- The page that awaits its pull is taken or put there. -/
def setSlot (stream : StreamCredit) (page : Option DesktopSqlStreamBatch) : StreamCredit :=
  match stream.retention with
  | .durable => { stream with durablePage := page }
  | .ephemeral => { stream with ephemeralBatch := page }

end StreamCredit

namespace StreamState

/-- The entry is replaced. -/
def put (state : StreamState) (stream : StreamCredit) (events : List StreamEvent) : StreamState :=
  { stream := some stream, history := state.history ++ events }

/-- `begin_reserved`. The result writer of a durable stream is begun with its pin. -/
def beginReserved (state : StreamState) (ownerWebview capability : String) (pinned : Bool)
    (writer : Except DesktopSqlStreamSinkError Unit) :
    StreamState × Except DesktopSqlStreamSinkError Unit :=
  match state.stream with
  | none => (state, .error .streamNotActive)
  | some stream =>
    if stream.owns capability ownerWebview = false then (state, .error .invalidAcknowledgement)
    else if stream.started then (state, .error .streamAlreadyActive)
    else if stream.cancelled then (state, .error .cancelled)
    else
      let stream := { stream with started := true }
      match stream.retention with
      | .ephemeral => (state.put stream [], .ok ())
      | .durable =>
        if pinned = false then (state.put stream [], .error .resultStoreUnavailable)
        else
          match writer with
          | .error error => (state.put stream [], .error error)
          | .ok _ => (state.put { stream with resultWriter := true } [], .ok ())

/-- `pull`. -/
def pull (state : StreamState) (sequence : Nat) (capability ownerWebview : String) :
    StreamState × Option DesktopSqlStreamBatch :=
  match state.stream with
  | none => (state, none)
  | some stream =>
    if stream.owns capability ownerWebview = false then (state, none)
    else if stream.cancelled ∨ stream.inFlight ≠ some sequence ∨ stream.pulled then
      (state.put stream.rejectOwned [.cancelled], none)
    else
      let taken := stream.setSlot none
      -- The page is taken even when it turns out to be another one.
      match stream.slot.filter fun batch => batch.sequence = sequence with
      | none => (state.put taken [], none)
      | some batch =>
        (state.put { taken with pulled := true } [.pulled capability ownerWebview batch],
          some batch)

/-- `acknowledge`. -/
def acknowledge (state : StreamState) (sequence : Nat) (capability ownerWebview : String) :
    StreamState × Bool :=
  match state.stream with
  | none => (state, false)
  | some stream =>
    if stream.owns capability ownerWebview = false then (state, false)
    else if stream.cancelled ∨ stream.inFlight ≠ some sequence ∨ stream.pulled = false then
      (state.put stream.rejectOwned [.cancelled], false)
    else
      let stream : StreamCredit :=
        { stream with
          inFlight := none
          pulled := false
          ephemeralBatch := none
          durablePage := none
          nextSequence := saturatingSucc stream.nextSequence }
      (state.put stream.signal [.acknowledged sequence], true)

/-- `cancel`. -/
def cancel (state : StreamState) (capability ownerWebview : String) : StreamState × Bool :=
  match state.stream with
  | none => (state, false)
  | some stream =>
    if stream.owns capability ownerWebview = false then (state, false)
    else (state.put stream.rejectOwned [.cancelled], true)

/-- `cancel_bound_by_capability`. The search goes through all streams and may find another one that
matches first. -/
def cancelBoundByCapability (state : StreamState) (capability ownerWebview : String)
    (foundFirst : Bool) : StreamState × Bool :=
  match state.stream with
  | none => (state, false)
  | some stream =>
    if stream.owns capability ownerWebview && foundFirst then
      (state.put stream.rejectOwned [.cancelled], true)
    else (state, false)

/-- `close`. -/
def close (state : StreamState) : StreamState × Bool :=
  ({ state with stream := none }, state.stream.isSome)

/-- `complete`. The result writer of a durable stream publishes its manifest. -/
def complete (state : StreamState) (writer : Except DesktopSqlStreamSinkError Unit) :
    StreamState × Except DesktopSqlStreamSinkError Unit :=
  match state.stream with
  | none => (state, .error .streamNotActive)
  | some stream =>
    let removed : StreamState := { state with stream := none }
    let completed : StreamState := { removed with history := state.history ++ [.completed] }
    if stream.cancelled then (removed, .error .cancelled)
    else if stream.inFlight.isSome then (removed, .error .invalidAcknowledgement)
    else if stream.ephemeralBatch.isSome ∨ stream.durablePage.isSome then
      (removed, .error .invalidAcknowledgement)
    else
      match stream.retention with
      | .ephemeral => (completed, .ok ())
      | .durable =>
        if stream.resultWriter = false then (removed, .error .resultStoreUnavailable)
        else
          match writer with
          | .error error => (removed, .error error)
          | .ok _ => (completed, .ok ())

/-- The first part of `dispatch`: the page is announced. -/
def announce (state : StreamState) (sequence : Nat) :
    StreamState × Except DesktopSqlStreamSinkError DesktopSqlStreamRetention :=
  match state.stream with
  | none => (state, .error .streamNotActive)
  | some stream =>
    if stream.cancelled then (state, .error .cancelled)
    else if stream.inFlight.isSome ∨ stream.nextSequence ≠ sequence then
      (state, .error .invalidAcknowledgement)
    else
      let announced := state.put { stream with inFlight := some sequence, pulled := false } []
      match stream.retention with
      | .ephemeral => (announced, .ok .ephemeral)
      | .durable =>
        if stream.resultWriter then (announced, .ok .durable)
        else (announced, .error .resultStoreUnavailable)

/-- The last part of `dispatch`: the page is ready for its pull. -/
def offer (state : StreamState) (sequence : Nat) (batch : DesktopSqlStreamBatch) :
    StreamState × Except DesktopSqlStreamSinkError Unit :=
  match state.stream with
  | none => (state, .error .streamNotActive)
  | some stream =>
    if stream.cancelled then (state, .error .cancelled)
    else if stream.inFlight ≠ some sequence then (state, .error .invalidAcknowledgement)
    else (state.put (stream.setSlot (some batch)) [.dispatched sequence batch], .ok ())

/-- What a waiter for an acknowledgement finds: an answer, or that it has to wait on. -/
def acknowledgement (state : StreamState) (sequence : Nat) :
    Option (Except DesktopSqlStreamSinkError Unit) :=
  match state.stream with
  | none => some (.error .streamNotActive)
  | some stream =>
    if stream.cancelled then some (.error .cancelled)
    else if stream.inFlight = none ∧ stream.nextSequence = saturatingSucc sequence then some (.ok ())
    else if stream.inFlight ≠ some sequence then some (.error .invalidAcknowledgement)
    else none

end StreamState

/-! ## Calls -/

/-- What a finished call answers. -/
inductive StreamAnswer where
  | result (result : Except DesktopSqlStreamSinkError Unit)
  | page (batch : Option DesktopSqlStreamBatch)
  | accepted (accepted : Bool)
  deriving DecidableEq

/-- Where a call is. A dispatch stores its page between the two times that it holds the lock. -/
inductive StreamCall where
  | beginReserved (ownerWebview capability : String) (pinned : Bool)
  | dispatch (sequence : Nat) (batch : DesktopSqlStreamBatch)
  | store (sequence : Nat) (batch : DesktopSqlStreamBatch) (retention : DesktopSqlStreamRetention)
  | offer (sequence : Nat) (batch : DesktopSqlStreamBatch)
  | waitForAck (sequence : Nat)
  | pull (sequence : Nat) (capability ownerWebview : String)
  | acknowledge (sequence : Nat) (capability ownerWebview : String)
  | cancel (capability ownerWebview : String)
  | cancelBoundByCapability (capability ownerWebview : String)
  | complete
  | close
  | done (answer : StreamAnswer)
  deriving DecidableEq

/-- What a call learns outside the lock: that the result writer, the receiver or the search did
what was asked, or that it failed, the time ran out or another stream was found. -/
inductive StreamInput where
  | ok
  | failed (error : DesktopSqlStreamSinkError)
  deriving DecidableEq, Repr

/-- The outcome of the result writer. -/
def StreamInput.outcome : StreamInput → Except DesktopSqlStreamSinkError Unit
  | .ok => .ok ()
  | .failed error => .error error

/-- A call goes on to its next await point or to its end. -/
def streamStep (state : StreamState) (call : StreamCall) (input : StreamInput) :
    StreamState × StreamCall :=
  match call with
  | .beginReserved ownerWebview capability pinned =>
    let (state, result) := state.beginReserved ownerWebview capability pinned input.outcome
    (state, .done (.result result))
  | .dispatch sequence batch =>
    match state.announce sequence with
    | (state, .error error) => (state, .done (.result (.error error)))
    | (state, .ok retention) => (state, .store sequence batch retention)
  | .store sequence batch retention =>
    if batch.fits = false then (state, .done (.result (.error .batchTooLarge)))
    else
      match retention, input with
      | .durable, .failed error => (state, .done (.result (.error error)))
      | _, _ => (state, .offer sequence batch)
  | .offer sequence batch =>
    match state.offer sequence batch, input with
    | (state, .error error), _ => (state, .done (.result (.error error)))
    | (state, .ok _), .ok => (state, .done (.result (.ok ())))
    | (state, .ok _), .failed _ => (state, .done (.result (.error .receiverDropped)))
  | .waitForAck sequence =>
    match state.acknowledgement sequence, input with
    | some result, _ => (state, .done (.result result))
    | none, .ok => (state, .waitForAck sequence)
    | none, .failed _ => (state, .done (.result (.error .acknowledgementTimedOut)))
  | .pull sequence capability ownerWebview =>
    let (state, page) := state.pull sequence capability ownerWebview
    (state, .done (.page page))
  | .acknowledge sequence capability ownerWebview =>
    let (state, accepted) := state.acknowledge sequence capability ownerWebview
    (state, .done (.accepted accepted))
  | .cancel capability ownerWebview =>
    let (state, accepted) := state.cancel capability ownerWebview
    (state, .done (.accepted accepted))
  | .cancelBoundByCapability capability ownerWebview =>
    let (state, accepted) := state.cancelBoundByCapability capability ownerWebview (input = .ok)
    (state, .done (.accepted accepted))
  | .complete =>
    let (state, result) := state.complete input.outcome
    (state, .done (.result result))
  | .close =>
    let (state, accepted) := state.close
    (state, .done (.accepted accepted))
  | .done answer => (state, .done answer)

/-- The stream and the calls that run over it. -/
abbrev StreamPool := Pool StreamState StreamCall

/-- A call goes on. -/
def streamResume : Resume StreamState StreamCall StreamInput := fun state call input =>
  let (state, call) := streamStep state call input
  some (state, call, [])

/-- Calls that start by themselves. The inner points of a dispatch do not. -/
def StreamCall.isCall : StreamCall → Bool
  | .store .. | .offer .. | .done _ => false
  | _ => true

/-- A move of the stream: a call starts, or one that runs goes on. -/
def streamMove (pool : StreamPool) : Move StreamCall StreamInput → StreamPool
  | .start call => if call.isCall then pool.move streamResume (.start call) else pool
  | .resume task input => pool.move streamResume (.resume task input)

/-- A stream that was reserved. -/
def reserved (ownerWebview capability : String) (retention : DesktopSqlStreamRetention) :
    StreamPool :=
  ⟨{ stream := some { ownerWebview, capability, retention } }, []⟩

end Dopedb.Queries
