import Dopedb.Library.Sha256
import Dopedb.Queries.ResultStore
import Dopedb.Queries.StreamProtocol

/-!
# The partial result of a cancelled stream

A durable stream of `desktop_stream_registry.rs` together with its result writer. `complete` and
`close` take the entry out of the registry under its lock, and publish under the lock of the writer
what the entry's writer has stored; a dispatch stores its page between the two times it holds the
registry's lock. `persisted` records the pages whose files were written, and `ended` that the call
which took the entry out has returned.
-/

namespace Dopedb.Queries

open Library

/-- The entry of a durable stream, the writer that the entry points to, and its directories. -/
structure DurableStream where
  credit : StreamState
  writer : Option DesktopSqlResultWriter := none
  store : ResultStore := {}
  persisted : List DesktopSqlStreamBatch := []
  ended : Bool := false

/-- What a call learns outside the registry: what the receiver, the search or the writer's
directory answers, whether the file was written or the files were moved, and the time. -/
structure DurableInput where
  outcome : StreamInput := .ok
  files : Bool := true
  now : DateTime := 0
  deriving DecidableEq, Repr

/-- The calls that only touch the entry, and neither begin nor end the stream. -/
inductive CreditCall where
  | dispatch (sequence : Nat) (batch : DesktopSqlStreamBatch)
  | offer (sequence : Nat) (batch : DesktopSqlStreamBatch)
  | waitForAck (sequence : Nat)
  | pull (sequence : Nat) (capability ownerWebview : String)
  | acknowledge (sequence : Nat) (capability ownerWebview : String)
  | cancel (capability ownerWebview : String)
  | cancelBoundByCapability (capability ownerWebview : String)
  deriving DecidableEq

/-- The same call, as one on the entry. -/
def CreditCall.call : CreditCall → StreamCall
  | .dispatch sequence batch => .dispatch sequence batch
  | .offer sequence batch => .offer sequence batch
  | .waitForAck sequence => .waitForAck sequence
  | .pull sequence capability ownerWebview => .pull sequence capability ownerWebview
  | .acknowledge sequence capability ownerWebview => .acknowledge sequence capability ownerWebview
  | .cancel capability ownerWebview => .cancel capability ownerWebview
  | .cancelBoundByCapability capability ownerWebview =>
    .cancelBoundByCapability capability ownerWebview

/-- Where a call is. -/
inductive DurableCall where
  | start (ownerWebview capability : String) (pin : Option PinnedConnection)
  | credit (call : CreditCall)
  | write (sequence : Nat) (batch : DesktopSqlStreamBatch)
  | complete (rowCount : Nat) (truncated : Bool) (durationMs : Nat)
  | publish (rowCount : Nat) (truncated : Bool) (durationMs : Nat)
  | close
  | publishCancelled
  | done (answer : StreamAnswer)
  deriving DecidableEq

/-- A call that ends without a page. -/
def DurableCall.ended (result : Except DesktopSqlStreamSinkError Unit) : DurableCall :=
  .done (.result result)

namespace DurableStream

/-- The entry is taken out. -/
def removed (state : DurableStream) : DurableStream :=
  { state with credit := { state.credit with stream := none } }

/-- `begin_reserved`. -/
def start (platform : ResultPlatform) (operationId : OperationId) (state : DurableStream)
    (ownerWebview capability : String) (pin : Option PinnedConnection)
    (files : Except DesktopSqlStreamSinkError Unit) : DurableStream × DurableCall :=
  let started := match pin with
    | none => Except.error DesktopSqlStreamSinkError.resultStoreUnavailable
    | some pin => DesktopSqlResultWriter.start platform state.store operationId pin ownerWebview
        capability files
  let (credit, result) := state.credit.beginReserved ownerWebview capability pin.isSome
    (started.map fun _ => ())
  match result, started with
  | .ok _, .ok (writer, store) =>
    ({ state with
        credit
        writer := some writer
        store }, .ended result)
  | _, _ => ({ state with credit }, .ended result)

/-- A call on the entry. A page of a durable stream is stored before it is offered. -/
def touch (state : DurableStream) (call : CreditCall) (input : StreamInput) :
    DurableStream × DurableCall :=
  match streamStep state.credit call.call input with
  | (credit, .store sequence batch _) => ({ state with credit }, .write sequence batch)
  | (credit, .waitForAck sequence) => ({ state with credit }, .credit (.waitForAck sequence))
  | (credit, .done answer) => ({ state with credit }, .done answer)
  | (credit, _) => ({ state with credit }, .credit call)

/-- The part of `dispatch` between the two times it holds the registry's lock. -/
def write (platform : ResultPlatform) (state : DurableStream) (sequence : Nat)
    (batch : DesktopSqlStreamBatch) (fileWritten : Bool) : DurableStream × DurableCall :=
  match state.writer with
  | none => (state, .ended (.error .resultStoreUnavailable))
  | some writer =>
    if batch.fits = false then (state, .ended (.error .batchTooLarge))
    else
      match writer.writePage platform state.store batch batch.encoded fileWritten with
      | (writer, store, .error error) =>
        ({ state with
            writer := some writer
            store }, .ended (.error error))
      | (writer, store, .ok _) =>
        ({ state with
            writer := some writer
            store
            persisted := state.persisted ++ [batch] }, .credit (.offer sequence batch))

/-- `complete`, under the lock of the registry and up to that of the writer. -/
def complete (state : DurableStream) (rowCount : Nat) (truncated : Bool) (durationMs : Nat) :
    DurableStream × DurableCall :=
  match state.credit.stream with
  | none => (state, .ended (.error .streamNotActive))
  | some stream =>
    let refused := { state.removed with ended := true }
    if stream.cancelled then (refused, .ended (.error .cancelled))
    else if stream.inFlight.isSome then (refused, .ended (.error .invalidAcknowledgement))
    else if stream.ephemeralBatch.isSome ∨ stream.durablePage.isSome then
      (refused, .ended (.error .invalidAcknowledgement))
    else
      match stream.retention with
      | .ephemeral => (refused, .ended (.ok ()))
      | .durable => (state.removed, .publish rowCount truncated durationMs)

/-- `complete`, under the lock of the writer. -/
def publish (platform : ResultPlatform) (state : DurableStream) (rowCount : Nat)
    (truncated : Bool) (durationMs : Nat) (now : DateTime) (filesMoved : Bool) :
    DurableStream × DurableCall :=
  match state.writer with
  | none => ({ state with ended := true }, .ended (.error .resultStoreUnavailable))
  | some writer =>
    let (writer, store, result) :=
      writer.complete platform state.store rowCount truncated durationMs now filesMoved
    ({ state with
        writer := some writer
        store
        ended := true }, .ended result)

/-- `close`, under the lock of the registry. -/
def close (state : DurableStream) : DurableStream × DurableCall :=
  match state.credit.stream with
  | none => (state, .done (.accepted false))
  | some stream =>
    if stream.cancelled then (state.removed, .publishCancelled)
    else ({ state.removed with ended := true }, .done (.accepted true))

/-- `close`, under the lock of the writer. What the writer answers is ignored. -/
def publishCancelled (platform : ResultPlatform) (state : DurableStream) (now : DateTime)
    (filesMoved : Bool) : DurableStream × DurableCall :=
  match state.writer with
  | none => ({ state with ended := true }, .done (.accepted true))
  | some writer =>
    let (writer, store, _) := writer.completeCancelled platform state.store now filesMoved
    ({ state with
        writer := some writer
        store
        ended := true }, .done (.accepted true))

end DurableStream

/-- A call goes through its next section. -/
def durableStep (platform : ResultPlatform) (operationId : OperationId) (state : DurableStream)
    (call : DurableCall) (input : DurableInput) : DurableStream × DurableCall :=
  match call with
  | .start ownerWebview capability pin =>
    state.start platform operationId ownerWebview capability pin input.outcome.outcome
  | .credit call => state.touch call input.outcome
  | .write sequence batch => state.write platform sequence batch input.files
  | .complete rowCount truncated durationMs => state.complete rowCount truncated durationMs
  | .publish rowCount truncated durationMs =>
    state.publish platform rowCount truncated durationMs input.now input.files
  | .close => state.close
  | .publishCancelled => state.publishCancelled platform input.now input.files
  | .done answer => (state, .done answer)

/-- The stream and the calls that run over it. -/
abbrev DurablePool := Pool DurableStream DurableCall

/-- A call goes on. -/
def durableResume (platform : ResultPlatform) (operationId : OperationId) :
    Resume DurableStream DurableCall DurableInput := fun state call input =>
  let (state, call) := durableStep platform operationId state call input
  some (state, call, [])

/-- Calls that start by themselves. The inner points of the others do not. -/
def DurableCall.isCall : DurableCall → Bool
  | .credit (.offer ..) | .write .. | .publish .. | .publishCancelled | .done _ => false
  | _ => true

/-- A move of the stream: a call starts, or one that runs goes on. -/
def durableMove (platform : ResultPlatform) (operationId : OperationId) (pool : DurablePool) :
    Move DurableCall DurableInput → DurablePool
  | .start call =>
    if call.isCall then pool.move (durableResume platform operationId) (.start call) else pool
  | .resume task input => pool.move (durableResume platform operationId) (.resume task input)

/-- A durable stream that was reserved. -/
def reservedDurable (ownerWebview capability : String) : DurablePool :=
  ⟨{ credit := { stream := some { ownerWebview, capability, retention := .durable } } }, []⟩

/-! ## The law of cancelled streams -/

section Law

variable (platform : ResultPlatform) (operationId : OperationId)
variable (ownerWebview capability : String)

/-- Once a cancelled stream has ended, its owner reads a result of exactly the pages that were
persisted. -/
def PartialLaw (pool : DurablePool) : Prop :=
  .cancelled ∈ pool.shared.credit.history → pool.shared.ended = true →
    HoldsPartial platform pool.shared.store operationId capability ownerWebview
      pool.shared.persisted

/-- The call that moves is one of `complete`. -/
def completesAt (pool : DurablePool) : Move DurableCall DurableInput → Bool
  | .start _ => false
  | .resume task _ =>
    match pool.tasks[task]? with
    | some (.complete ..) => true
    | _ => false

/-- What the call that moves publishes with, if it publishes a cancelled stream. -/
def publishesAt (pool : DurablePool) : Move DurableCall DurableInput → Option DurableInput
  | .start _ => none
  | .resume task input =>
    match pool.tasks[task]? with
    | some .publishCancelled => some input
    | _ => none

/-- Where this move ends a cancelled stream, `complete` does not find its entry, and what `close`
publishes can be read. -/
def EndsReadable (pool : DurablePool) (move : Move DurableCall DurableInput) : Prop :=
  .cancelled ∈ pool.shared.credit.history →
    (completesAt pool move = true → pool.shared.credit.stream = none) ∧
    ∀ input ∈ publishesAt pool move, ∃ writer ∈ pool.shared.writer,
      PublishesReadable platform writer pool.shared.persisted input.now input.files

/-- `serde_json` reads back the files of a cancelled stream that this move publishes. -/
def ReadsFiles (pool : DurablePool) (move : Move DurableCall DurableInput) : Prop :=
  ∀ input ∈ publishesAt pool move, ∀ writer ∈ pool.shared.writer,
    ReadsManifest platform (writer.manifest writer.rowCount true 0 input.now) ∧
      ∀ batch ∈ pool.shared.persisted, ReadsPage platform batch

instance (pool : DurablePool) (move : Move DurableCall DurableInput) :
    Decidable (EndsReadable platform pool move) := inferInstanceAs (Decidable (_ → _ ∧ _))

instance (pool : DurablePool) (move : Move DurableCall DurableInput) :
    Decidable (ReadsFiles platform pool move) :=
  inferInstanceAs (Decidable (∀ input ∈ publishesAt pool move, _))

/-- A call that is about to publish. -/
def DurableCall.publishing : DurableCall → Nat
  | .publish .. | .publishCancelled => 1
  | _ => 0

/-- The stream runs, one call is about to publish what it stored, or the call that took the entry
out has returned. -/
structure StreamInvariant (state : DurableStream) (publishing : Nat) : Prop where
  /-- A cancellation is kept as long as there is an entry, which is the owner's. -/
  entry : ∀ stream, state.credit.stream = some stream → stream.ownerWebview = ownerWebview ∧
    stream.capability = capability ∧ (.cancelled ∈ state.credit.history → stream.cancelled = true)
  /-- The writer is the owner's, and its partial directory holds what was persisted. -/
  writer : ∀ writer, state.writer = some writer → writer.operationId = operationId ∧
    writer.ownerWebview = ownerWebview ∧
    writer.capabilitySha256 = capabilityHash platform capability ∧
    (state.store.finalDirectory = none → writer.published = false ∧
      ∃ directory, state.store.partialDirectory = some directory ∧
        Stored platform writer directory state.persisted)
  unwritten : state.writer = none → state.persisted = [] ∧ state.store = {}
  phase : publishing + (if state.credit.stream.isSome then 1 else 0) +
    (if state.ended then 1 else 0) = 1
  unpublished : state.ended = false → state.store.finalDirectory = none
  moved : state.store.finalDirectory.isSome → state.store.partialDirectory = none

/-- The invariant of the calls on a durable stream. -/
structure DurableInvariant (pool : DurablePool) : Prop where
  state : StreamInvariant platform operationId ownerWebview capability pool.shared
    (total DurableCall.publishing pool.tasks)
  /-- What `complete` publishes was not cancelled. -/
  uncancelled : ∀ rowCount truncated durationMs,
    .publish rowCount truncated durationMs ∈ pool.tasks →
      .cancelled ∉ pool.shared.credit.history

end Law

/-! ## What a section does to the entry -/

/-- The part of a dispatch that holds the lock keeps the entry. -/
theorem dispatch_keeps {state : StreamState} {stream : StreamCredit}
    (hstream : state.stream = some stream) (sequence : Nat) (batch : DesktopSqlStreamBatch)
    (input : StreamInput) :
    (streamStep state (.dispatch sequence batch) input).1.stream.isSome = true := by
  simp only [streamStep, StreamState.announce, hstream]
  by_cases hcancelled : stream.cancelled = true
  · rw [if_pos hcancelled]
    simp [hstream]
  rw [if_neg hcancelled]
  by_cases hbusy : stream.inFlight.isSome = true ∨ stream.nextSequence ≠ sequence
  · rw [if_pos hbusy]
    simp [hstream]
  rw [if_neg hbusy]
  cases hretention : stream.retention with
  | ephemeral => rfl
  | durable =>
      cases hwriter : stream.resultWriter with
      | true => rfl
      | false => rfl

/-- A call on the entry keeps it. -/
theorem credit_call_keeps {state : StreamState} {stream : StreamCredit}
    (hstream : state.stream = some stream) (call : CreditCall) (input : StreamInput) :
    (streamStep state call.call input).1.stream.isSome = true := by
  cases call with
  | dispatch sequence batch => exact dispatch_keeps hstream sequence batch input
  | offer sequence batch =>
      simp only [CreditCall.call, streamStep, StreamState.offer, hstream]
      by_cases hcancelled : stream.cancelled = true
      · rw [if_pos hcancelled]
        simp [hstream]
      rw [if_neg hcancelled]
      by_cases hother : stream.inFlight ≠ some sequence
      · rw [if_pos hother]
        simp [hstream]
      rw [if_neg hother]
      cases input with
      | ok => rfl
      | failed error => rfl
  | waitForAck sequence =>
      simp only [CreditCall.call, streamStep]
      split <;> simp [hstream]
  | pull sequence capability ownerWebview =>
      simp only [CreditCall.call, streamStep, StreamState.pull, hstream]
      split
      · simp [hstream]
      split
      · rfl
      split
      · rfl
      · rfl
  | acknowledge sequence capability ownerWebview =>
      simp only [CreditCall.call, streamStep, StreamState.acknowledge, hstream]
      split
      · simp [hstream]
      split
      · rfl
      · rfl
  | cancel capability ownerWebview =>
      simp only [CreditCall.call, streamStep, StreamState.cancel, hstream]
      split
      · simp [hstream]
      · rfl
  | cancelBoundByCapability capability ownerWebview =>
      simp only [CreditCall.call, streamStep, StreamState.cancelBoundByCapability, hstream]
      split
      · rfl
      · simp [hstream]

/-- `begin_reserved` keeps the entry. -/
theorem begin_keeps {state : StreamState} {stream : StreamCredit}
    (hstream : state.stream = some stream) (ownerWebview capability : String) (pinned : Bool)
    (writer : Except DesktopSqlStreamSinkError Unit) :
    (state.beginReserved ownerWebview capability pinned writer).1.stream.isSome = true := by
  simp only [StreamState.beginReserved, hstream]
  split
  · simp [hstream]
  split
  · simp [hstream]
  split
  · simp [hstream]
  split
  · rfl
  split
  · rfl
  split
  · rfl
  · rfl

/-- What a call on the entry leaves of it: it stays the owner's, and a cancellation is kept. -/
def EntryKept (state state' : StreamState) : Prop :=
  (state.stream = none → state' = state) ∧
  ∀ stream, state.stream = some stream → ∃ stream', state'.stream = some stream' ∧
    stream'.ownerWebview = stream.ownerWebview ∧ stream'.capability = stream.capability ∧
    ((.cancelled ∈ state.history → stream.cancelled = true) →
      .cancelled ∈ state'.history → stream'.cancelled = true)

/-- Nothing changes. -/
theorem entry_kept_refl (state : StreamState) : EntryKept state state :=
  ⟨fun _ => rfl, fun stream hstream => ⟨stream, hstream, rfl, rfl, id⟩⟩

/-- A change that keeps the entry. -/
theorem kept_of_changed {state : StreamState} {stream : StreamCredit} {call : StreamCall}
    {next : StreamState × StreamCall} (h : Changed state stream call next)
    (hsome : next.1.stream.isSome = true) :
    ∃ stream', next.1.stream = some stream' ∧
      stream'.ownerWebview = stream.ownerWebview ∧ stream'.capability = stream.capability ∧
      ((.cancelled ∈ state.history → stream.cancelled = true) →
        .cancelled ∈ next.1.history → stream'.cancelled = true) := by
  obtain ⟨entry, events, hnext, hchange⟩ := h
  rw [hnext] at hsome ⊢
  have hslot : ∀ page, (stream.setSlot page).ownerWebview = stream.ownerWebview ∧
      (stream.setSlot page).capability = stream.capability ∧
      (stream.setSlot page).cancelled = stream.cancelled := by
    intro page
    unfold StreamCredit.setSlot
    cases stream.retention with
    | durable => exact ⟨rfl, rfl, rfl⟩
    | ephemeral => exact ⟨rfl, rfl, rfl⟩
  cases hchange with
  | kept same _ =>
      refine ⟨_, rfl, same.ownerWebview, same.capability, fun hbefore hmem => ?_⟩
      exact same.cancelled (hbefore (by simpa using hmem))
  | cancelled same marked _ =>
      exact ⟨_, rfl, same.ownerWebview, same.capability, fun _ _ => marked⟩
  | closed _ => simp at hsome
  | completed _ => simp at hsome
  | announced _ _ _ =>
      exact ⟨_, rfl, rfl, rfl, fun hbefore hmem => hbefore (by simpa using hmem)⟩
  | offered _ _ _ =>
      refine ⟨_, rfl, (hslot _).1, (hslot _).2.1, fun hbefore hmem => ?_⟩
      rw [(hslot _).2.2]
      exact hbefore (by simpa using hmem)
  | dropped _ _ _ =>
      refine ⟨_, rfl, (hslot _).1, (hslot _).2.1, fun hbefore hmem => ?_⟩
      rw [(hslot _).2.2]
      exact hbefore (by simpa using hmem)
  | pulled _ _ _ _ =>
      refine ⟨_, rfl, (hslot none).1, (hslot none).2.1, fun hbefore hmem => ?_⟩
      show (stream.setSlot none).cancelled = true
      rw [(hslot none).2.2]
      exact hbefore (by simpa using hmem)
  | acknowledged _ _ _ _ _ hcapability howner hcancelled _ =>
      exact ⟨_, rfl, howner, hcapability, fun hbefore hmem =>
        hcancelled (hbefore (by simpa using hmem))⟩

/-- A call on the entry keeps it the owner's, and keeps a cancellation. -/
theorem credit_call_kept (state : StreamState) (call : CreditCall) (input : StreamInput) :
    EntryKept state (streamStep state call.call input).1 := by
  refine ⟨fun hnone => (stream_step_closed hnone call.call input).1, fun stream hstream => ?_⟩
  exact kept_of_changed (stream_step_changed hstream call.call input)
    (credit_call_keeps hstream call input)

/-- So does `begin_reserved`. -/
theorem begin_kept (state : StreamState) (ownerWebview capability : String) (pinned : Bool)
    (writer : Except DesktopSqlStreamSinkError Unit) :
    EntryKept state (state.beginReserved ownerWebview capability pinned writer).1 := by
  refine ⟨fun hnone => ?_, fun stream hstream => ?_⟩
  · simp only [StreamState.beginReserved, hnone]
  · obtain ⟨input, hinput⟩ : ∃ input : StreamInput, input.outcome = writer := by
      cases writer with
      | error error => exact ⟨.failed error, rfl⟩
      | ok _ => exact ⟨.ok, rfl⟩
    have hchanged := begin_changed hstream ownerWebview capability pinned input
    have hstep : (streamStep state (.beginReserved ownerWebview capability pinned) input).1 =
        (state.beginReserved ownerWebview capability pinned writer).1 := by
      rw [← hinput]
      rfl
    have hkept := kept_of_changed hchanged
      (by rw [hstep]; exact begin_keeps hstream ownerWebview capability pinned writer)
    rwa [hstep] at hkept

/-! ## What a section does to the stream -/

section Steps

variable {platform : ResultPlatform} {operationId : OperationId}
variable {ownerWebview capability : String} {state : DurableStream} {publishing rest : Nat}

/-- Nothing is published, or the partial directory becomes the final one. -/
def Published (writer : DesktopSqlResultWriter) (store : ResultStore)
    (writer' : DesktopSqlResultWriter) (store' : ResultStore) : Prop :=
  writer' = writer ∧ store' = store ∨
  ∃ manifest directory, store.partialDirectory = some directory ∧
    writer' = { writer with published := true } ∧
    store' = { finalDirectory := some { directory with manifest := some manifest } }

/-- A writer of the caller that has just begun, where no directory was. -/
structure Begun (platform : ResultPlatform) (operationId : OperationId)
    (ownerWebview capability : String) (store : ResultStore) (writer : DesktopSqlResultWriter) :
    Prop where
  partialDirectory : store.partialDirectory = none
  finalDirectory : store.finalDirectory = none
  operation : writer.operationId = operationId
  owner : writer.ownerWebview = ownerWebview
  hash : writer.capabilitySha256 = capabilityHash platform capability
  published : writer.published = false
  stored : Stored platform writer {} []

/-- What a section of a call does. -/
inductive SectionEffect (platform : ResultPlatform) (operationId : OperationId)
    (state : DurableStream) (call : DurableCall) : DurableStream → DurableCall → Prop where
  /-- At most the entry changes, and stays. -/
  | touched {credit : StreamState} {call' : DurableCall} (kept : EntryKept state.credit credit)
      (before : call.publishing = 0) (after : call'.publishing = 0) :
      SectionEffect platform operationId state call { state with credit } call'
  /-- The owner begins the writer. -/
  | begun {credit : StreamState} {call' : DurableCall} {stream : StreamCredit}
      {writer : DesktopSqlResultWriter} (kept : EntryKept state.credit credit)
      (found : state.credit.stream = some stream)
      (begun : Begun platform operationId stream.ownerWebview stream.capability state.store writer)
      (before : call.publishing = 0) (after : call'.publishing = 0) :
      SectionEffect platform operationId state call
        { state with
          credit
          writer := some writer
          store := { partialDirectory := some {} } } call'
  /-- A page is not stored. -/
  | refused {call' : DurableCall} {writer writer' : DesktopSqlResultWriter}
      (found : state.writer = some writer) (same : SameButColumns writer writer')
      (before : call.publishing = 0) (after : call'.publishing = 0) :
      SectionEffect platform operationId state call { state with writer := some writer' } call'
  /-- A page is stored. -/
  | stored {call' : DurableCall} {writer writer' : DesktopSqlResultWriter}
      {directory directory' : ResultDirectory} {batch : DesktopSqlStreamBatch}
      (found : state.writer = some writer)
      (partialDirectory : state.store.partialDirectory = some directory)
      (same : writer'.operationId = writer.operationId ∧
        writer'.ownerWebview = writer.ownerWebview ∧
        writer'.capabilitySha256 = writer.capabilitySha256 ∧
        writer'.published = writer.published)
      (next : Stored platform writer directory state.persisted →
        Stored platform writer' directory' (state.persisted ++ [batch]))
      (before : call.publishing = 0) (after : call'.publishing = 0) :
      SectionEffect platform operationId state call
        { state with
          writer := some writer'
          store := { state.store with partialDirectory := some directory' }
          persisted := state.persisted ++ [batch] } call'
  /-- The entry is taken out, to publish what is stored. -/
  | taken {call' : DurableCall} {stream : StreamCredit}
      (found : state.credit.stream = some stream) (before : call.publishing = 0)
      (after : call'.publishing = 1)
      (uncancelled : call' ≠ .publishCancelled → stream.cancelled = false) :
      SectionEffect platform operationId state call state.removed call'
  /-- The entry is taken out, and nothing is published. -/
  | closed {call' : DurableCall} {stream : StreamCredit}
      (found : state.credit.stream = some stream) (before : call.publishing = 0)
      (after : call'.publishing = 0) :
      SectionEffect platform operationId state call { state.removed with ended := true } call'
  /-- What is stored is published, or not. -/
  | published {call' : DurableCall} {writer writer' : DesktopSqlResultWriter}
      {store : ResultStore} (found : state.writer = some writer)
      (published : Published writer state.store writer' store) (before : call.publishing = 1)
      (after : call'.publishing = 0) :
      SectionEffect platform operationId state call
        { state with
          writer := some writer'
          store
          ended := true } call'
  /-- Nothing is stored. -/
  | unwritten {call' : DurableCall} (none : state.writer = none) (before : call.publishing = 1)
      (after : call'.publishing = 0) :
      SectionEffect platform operationId state call
        { state with
          writer := Option.none
          ended := true } call'

/-- A section that changes nothing. -/
theorem same_effect {call call' : DurableCall} (before : call.publishing = 0)
    (after : call'.publishing = 0) : SectionEffect platform operationId state call state call' :=
  .touched (entry_kept_refl state.credit) before after

/-- A writer that is begun has stored nothing. -/
theorem writer_start_ok {store store' : ResultStore} {writer : DesktopSqlResultWriter}
    {pin : PinnedConnection} {files : Except DesktopSqlStreamSinkError Unit}
    (h : DesktopSqlResultWriter.start platform store operationId pin ownerWebview capability
      files = .ok (writer, store')) :
    store' = { partialDirectory := some {} } ∧
      Begun platform operationId ownerWebview capability store writer := by
  unfold DesktopSqlResultWriter.start at h
  by_cases htaken : store.partialDirectory.isSome = true ∨ store.finalDirectory.isSome = true
  · rw [if_pos htaken] at h
    exact nomatch h
  rw [if_neg htaken] at h
  have hpartialDirectory : store.partialDirectory = none := by
    cases hdirectory : store.partialDirectory with
    | none => rfl
    | some directory => exact absurd (.inl (by rw [hdirectory]; rfl)) htaken
  have hfinal : store.finalDirectory = none := by
    cases hdirectory : store.finalDirectory with
    | none => rfl
    | some directory => exact absurd (.inr (by rw [hdirectory]; rfl)) htaken
  cases files with
  | error error => exact nomatch h
  | ok _ =>
      obtain ⟨rfl, rfl⟩ := Prod.mk.inj (Except.ok.inj h)
      refine ⟨by rw [hfinal], hpartialDirectory, hfinal, rfl, rfl, rfl, rfl, trivial, rfl, rfl, ?_⟩
      intro i batch hget
      exact absurd hget (by simp)

/-- Only the owner begins a stream. -/
theorem begin_reserved_owner {credit : StreamState} {ownerWebview' capability' : String}
    {pinned : Bool} {writer : Except DesktopSqlStreamSinkError Unit}
    (h : (credit.beginReserved ownerWebview' capability' pinned writer).2 = .ok ()) :
    ∃ stream, credit.stream = some stream ∧ stream.capability = capability' ∧
      stream.ownerWebview = ownerWebview' := by
  unfold StreamState.beginReserved at h
  cases hstream : credit.stream with
  | none =>
      rw [hstream] at h
      exact nomatch h
  | some stream =>
      rw [hstream] at h
      dsimp only at h
      cases howns : stream.owns capability' ownerWebview' with
      | false =>
          rw [if_pos howns] at h
          exact nomatch h
      | true =>
          simp only [StreamCredit.owns, Bool.and_eq_true, decide_eq_true_eq] at howns
          exact ⟨stream, rfl, howns.1, howns.2⟩

/-- `begin_reserved`. -/
theorem start_effect (ownerWebview' capability' : String) (pin : Option PinnedConnection)
    (files : Except DesktopSqlStreamSinkError Unit) {call : DurableCall}
    (hcall : call.publishing = 0) :
    SectionEffect platform operationId state call
      (state.start platform operationId ownerWebview' capability' pin files).1
      (state.start platform operationId ownerWebview' capability' pin files).2 := by
  unfold DurableStream.start
  dsimp only
  generalize hstarted : (match pin with
    | none => Except.error DesktopSqlStreamSinkError.resultStoreUnavailable
    | some pin => DesktopSqlResultWriter.start platform state.store operationId pin ownerWebview'
        capability' files) = started
  have hkept := begin_kept state.credit ownerWebview' capability' pin.isSome
    (started.map fun _ => ())
  cases hresult : (state.credit.beginReserved ownerWebview' capability' pin.isSome
      (started.map fun _ => ())).2 with
  | error error => exact .touched hkept hcall rfl
  | ok _ =>
      cases started with
      | error error => exact .touched hkept hcall rfl
      | ok pair =>
          obtain ⟨writer, store⟩ := pair
          cases pin with
          | none => exact nomatch hstarted
          | some pin =>
              obtain ⟨rfl, hbegun⟩ := writer_start_ok hstarted
              obtain ⟨stream, hstream, rfl, rfl⟩ := begin_reserved_owner hresult
              exact .begun hkept hstream hbegun hcall rfl

/-- A dispatch stores its page, or leaves what is stored. -/
theorem write_effect (sequence : Nat) (batch : DesktopSqlStreamBatch) (fileWritten : Bool)
    {call : DurableCall} (hcall : call.publishing = 0) :
    SectionEffect platform operationId state call
      (state.write platform sequence batch fileWritten).1
      (state.write platform sequence batch fileWritten).2 := by
  unfold DurableStream.write
  cases hwriter : state.writer with
  | none => exact same_effect hcall rfl
  | some writer =>
      dsimp only
      cases hfits : batch.fits with
      | false => exact same_effect hcall rfl
      | true =>
          rw [if_neg (by simp)]
          rcases @write_page_cases platform writer
              state.store batch fileWritten with
            ⟨writer', error, hcolumns, hwrite⟩ | ⟨directory, hdirectory, hbatch, hwrite⟩
          · rw [hwrite]
            exact .refused hwriter hcolumns hcall rfl
          · rw [hwrite]
            exact .stored hwriter hdirectory ⟨rfl, rfl, rfl, rfl⟩
              (fun hstored => hstored.snoc hbatch) hcall rfl

/-- `complete`, up to where it publishes. -/
theorem complete_effect (rowCount : Nat) (truncated : Bool) (durationMs : Nat)
    {call : DurableCall} (hcall : call.publishing = 0) :
    SectionEffect platform operationId state call
      (state.complete rowCount truncated durationMs).1
      (state.complete rowCount truncated durationMs).2 := by
  unfold DurableStream.complete
  cases hstream : state.credit.stream with
  | none => exact same_effect hcall rfl
  | some stream =>
      dsimp only
      by_cases hcancelled : stream.cancelled = true
      · rw [if_pos hcancelled]
        exact .closed hstream hcall rfl
      rw [if_neg hcancelled]
      split
      · exact .closed hstream hcall rfl
      split
      · exact .closed hstream hcall rfl
      split
      · exact .closed hstream hcall rfl
      · exact .taken hstream hcall rfl fun _ => Bool.not_eq_true _ ▸ hcancelled

/-- `complete` of a writer publishes, or changes nothing. -/
theorem writer_complete_published (writer : DesktopSqlResultWriter) (store : ResultStore)
    (rowCount : Nat) (truncated : Bool) (durationMs : Nat) (now : DateTime) (filesMoved : Bool) :
    Published writer store
      (writer.complete platform store rowCount truncated durationMs now filesMoved).1
      (writer.complete platform store rowCount truncated durationMs now filesMoved).2.1 := by
  unfold DesktopSqlResultWriter.complete
  split
  · exact .inl ⟨rfl, rfl⟩
  dsimp only
  split
  · exact .inl ⟨rfl, rfl⟩
  cases hdirectory : store.partialDirectory with
  | none => exact .inl ⟨rfl, rfl⟩
  | some directory =>
      cases filesMoved with
      | false => exact .inl ⟨rfl, rfl⟩
      | true => exact .inr ⟨_, directory, hdirectory, rfl, rfl⟩

/-- So does `complete_cancelled`. -/
theorem writer_cancelled_published (writer : DesktopSqlResultWriter) (store : ResultStore)
    (now : DateTime) (filesMoved : Bool) :
    Published writer store (writer.completeCancelled platform store now filesMoved).1
      (writer.completeCancelled platform store now filesMoved).2.1 := by
  unfold DesktopSqlResultWriter.completeCancelled
  split
  · exact .inl ⟨rfl, rfl⟩
  · exact writer_complete_published writer store _ _ _ now filesMoved

/-- Every section of a call does one of these. -/
theorem section_effect (call : DurableCall) (input : DurableInput) :
    SectionEffect platform operationId state call
      (durableStep platform operationId state call input).1
      (durableStep platform operationId state call input).2 := by
  cases call with
  | start ownerWebview' capability' pin =>
      exact start_effect ownerWebview' capability' pin input.outcome.outcome rfl
  | credit call =>
      have hkept := credit_call_kept state.credit call input.outcome
      show SectionEffect _ _ _ _ (state.touch call input.outcome).1
        (state.touch call input.outcome).2
      unfold DurableStream.touch
      split
      all_goals
        rename_i heq
        rw [heq] at hkept
        exact .touched hkept rfl rfl
  | write sequence batch => exact write_effect sequence batch input.files rfl
  | complete rowCount truncated durationMs =>
      exact complete_effect rowCount truncated durationMs rfl
  | publish rowCount truncated durationMs =>
      show SectionEffect _ _ _ _
        (state.publish platform rowCount truncated durationMs input.now input.files).1
        (state.publish platform rowCount truncated durationMs input.now input.files).2
      unfold DurableStream.publish
      cases hwriter : state.writer with
      | none => exact .unwritten hwriter rfl rfl
      | some writer => exact .published hwriter (writer_complete_published ..) rfl rfl
  | close =>
      show SectionEffect _ _ _ _ state.close.1 state.close.2
      unfold DurableStream.close
      cases hstream : state.credit.stream with
      | none => exact same_effect rfl rfl
      | some stream =>
          dsimp only
          split
          · exact .taken hstream rfl rfl fun hother => absurd rfl hother
          · exact .closed hstream rfl rfl
  | publishCancelled =>
      show SectionEffect _ _ _ _ (state.publishCancelled platform input.now input.files).1
        (state.publishCancelled platform input.now input.files).2
      unfold DurableStream.publishCancelled
      cases hwriter : state.writer with
      | none => exact .unwritten hwriter rfl rfl
      | some writer => exact .published hwriter (writer_cancelled_published ..) rfl rfl
  | done answer => exact same_effect rfl rfl

/-! ## The invariant -/

/-- Calls on the entry do not touch the result. -/
theorem StreamInvariant.credit
    (h : StreamInvariant platform operationId ownerWebview capability state publishing)
    {credit : StreamState} (hkept : EntryKept state.credit credit) :
    StreamInvariant platform operationId ownerWebview capability { state with credit }
      publishing := by
  have hsome : credit.stream.isSome = state.credit.stream.isSome := by
    cases hstream : state.credit.stream with
    | none => rw [hkept.1 hstream, hstream]
    | some stream =>
        obtain ⟨stream', hstream', -⟩ := hkept.2 stream hstream
        rw [hstream']
        rfl
  refine ⟨?_, h.writer, h.unwritten, ?_, h.unpublished, h.moved⟩
  · intro stream' hstream'
    have hstream' : credit.stream = some stream' := hstream'
    cases hstream : state.credit.stream with
    | none =>
        rw [hkept.1 hstream, hstream] at hstream'
        exact absurd hstream' (by simp)
    | some stream =>
        obtain ⟨stream'', hafter, howner, hcapability, hcancelled⟩ := hkept.2 stream hstream
        obtain rfl := Option.some.inj (hafter.symm.trans hstream')
        obtain ⟨howner', hcapability', hcancelled'⟩ := h.entry stream hstream
        exact ⟨howner.trans howner', hcapability.trans hcapability', hcancelled hcancelled'⟩
  · show publishing + (if credit.stream.isSome then 1 else 0) + _ = 1
    rw [hsome]
    exact h.phase

/-- The stream has no entry while a call is about to publish and after it has ended. -/
theorem StreamInvariant.no_entry
    (h : StreamInvariant platform operationId ownerWebview capability state publishing)
    (hend : 0 < publishing ∨ state.ended = true) : state.credit.stream = none := by
  have hphase := h.phase
  cases hstream : state.credit.stream with
  | none => rfl
  | some stream =>
      rw [hstream, Option.isSome_some, if_pos rfl] at hphase
      rcases hend with hpublishing | hended
      · omega
      · rw [hended, if_pos rfl] at hphase
        omega

/-- After the stream has ended no call is about to publish. -/
theorem StreamInvariant.ended_idle
    (h : StreamInvariant platform operationId ownerWebview capability state publishing)
    (hended : state.ended = true) : publishing = 0 := by
  have hphase := h.phase
  rw [hended, if_pos rfl] at hphase
  omega

/-- While the stream has its entry it has not ended, and no call is about to publish. -/
theorem StreamInvariant.running
    (h : StreamInvariant platform operationId ownerWebview capability state publishing)
    {stream : StreamCredit} (hstream : state.credit.stream = some stream) :
    publishing = 0 ∧ state.ended = false := by
  have hphase := h.phase
  rw [hstream, Option.isSome_some, if_pos rfl] at hphase
  cases hended : state.ended with
  | false => exact ⟨by omega, rfl⟩
  | true =>
      rw [hended, if_pos rfl] at hphase
      omega

/-- While the partial directory is there nothing was published. -/
theorem StreamInvariant.not_final
    (h : StreamInvariant platform operationId ownerWebview capability state publishing)
    {directory : ResultDirectory} (hdirectory : state.store.partialDirectory = some directory) :
    state.store.finalDirectory = none := by
  cases hfinal : state.store.finalDirectory with
  | none => rfl
  | some published =>
      have hmoved := h.moved (by rw [hfinal]; rfl)
      exact absurd (hmoved.symm.trans hdirectory) (by simp)

/-- A writer has begun only where none was. -/
theorem StreamInvariant.begun
    (h : StreamInvariant platform operationId ownerWebview capability state publishing)
    {stream : StreamCredit} (hstream : state.credit.stream = some stream)
    {writer : DesktopSqlResultWriter}
    (hbegun : Begun platform operationId stream.ownerWebview stream.capability state.store writer)
    {credit : StreamState} (hkept : EntryKept state.credit credit) :
    StreamInvariant platform operationId ownerWebview capability
      { state with
        credit
        writer := some writer
        store := { partialDirectory := some {} } } publishing := by
  obtain ⟨howner, hcapability, -⟩ := h.entry stream hstream
  have hnone : state.writer = none := by
    cases hwriter : state.writer with
    | none => rfl
    | some other =>
        obtain ⟨-, directory, hdirectory, -⟩ :=
          (h.writer other hwriter).2.2.2 hbegun.finalDirectory
        exact absurd (hbegun.partialDirectory.symm.trans hdirectory) (by simp)
  have hpersisted : state.persisted = [] := (h.unwritten hnone).1
  have hcredit := h.credit hkept
  refine ⟨hcredit.entry, ?_, nofun, hcredit.phase, fun _ => rfl, nofun⟩
  intro other hother
  obtain rfl := Option.some.inj hother
  refine ⟨hbegun.operation, hbegun.owner.trans howner, ?_, fun _ => ⟨hbegun.published, {}, rfl, ?_⟩⟩
  · rw [hbegun.hash, hcapability]
  · show Stored platform writer {} state.persisted
    rw [hpersisted]
    exact hbegun.stored

/-- A call that was about to publish has returned. -/
theorem StreamInvariant.published
    (h : StreamInvariant platform operationId ownerWebview capability state (1 + rest))
    {writer writer' : DesktopSqlResultWriter} {store : ResultStore}
    (hwriter : state.writer = some writer)
    (hpublished : Published writer state.store writer' store) :
    StreamInvariant platform operationId ownerWebview capability
      { state with
        writer := some writer'
        store
        ended := true } (0 + rest) := by
  obtain ⟨hoperation, howner, hcapability, hstored⟩ := h.writer writer hwriter
  have hstream := h.no_entry (.inl (by omega))
  have hphase : 0 + rest + (if state.credit.stream.isSome then 1 else 0) + 1 = 1 := by
    have hphase := h.phase
    rw [hstream] at hphase ⊢
    simp only [Option.isSome_none, Bool.false_eq_true, if_false] at hphase ⊢
    omega
  rcases hpublished with ⟨rfl, rfl⟩ | ⟨manifest, directory, hdirectory, rfl, rfl⟩
  · refine ⟨h.entry, ?_, nofun, hphase, nofun, h.moved⟩
    intro other hother
    obtain rfl := Option.some.inj hother
    exact ⟨hoperation, howner, hcapability, hstored⟩
  · refine ⟨h.entry, ?_, nofun, hphase, nofun, fun _ => rfl⟩
    intro other hother
    obtain rfl := Option.some.inj hother
    exact ⟨hoperation, howner, hcapability, nofun⟩

/-- A section of a call keeps the invariant. -/
theorem StreamInvariant.effect {call call' : DurableCall} {state' : DurableStream}
    (h : StreamInvariant platform operationId ownerWebview capability state
      (call.publishing + rest))
    (heffect : SectionEffect platform operationId state call state' call') :
    StreamInvariant platform operationId ownerWebview capability state'
      (call'.publishing + rest) := by
  cases heffect with
  | touched kept before after =>
      rw [after, ← before]
      exact h.credit kept
  | begun kept found begun before after =>
      rw [after, ← before]
      exact h.begun found begun kept
  | @refused _ writer writer' found same before after =>
      rw [after, ← before]
      obtain ⟨columns, rfl⟩ := same
      obtain ⟨hoperation, howner, hcapability, hstored⟩ := h.writer writer found
      refine ⟨h.entry, ?_, nofun, h.phase, h.unpublished, h.moved⟩
      intro other hother
      obtain rfl := Option.some.inj hother
      refine ⟨hoperation, howner, hcapability, fun hfinal => ?_⟩
      obtain ⟨hpublished, directory, hdirectory, hstored⟩ := hstored hfinal
      exact ⟨hpublished, directory, hdirectory, hstored.same ⟨columns, rfl⟩⟩
  | @stored _ writer writer' directory directory' batch found hdirectory same next before after =>
      rw [after, ← before]
      have hfinal := h.not_final hdirectory
      obtain ⟨hoperation, howner, hcapability, hstored⟩ := h.writer writer found
      obtain ⟨hpublished, other, hother, hstored⟩ := hstored hfinal
      obtain rfl := Option.some.inj (hdirectory.symm.trans hother)
      refine ⟨h.entry, ?_, nofun, h.phase, h.unpublished, ?_⟩
      · intro other hother
        obtain rfl := Option.some.inj hother
        exact ⟨same.1.trans hoperation, same.2.1.trans howner, same.2.2.1.trans hcapability,
          fun _ => ⟨same.2.2.2.trans hpublished, directory', rfl, next hstored⟩⟩
      · intro hsome
        have hsome : state.store.finalDirectory.isSome = true := hsome
        rw [hfinal] at hsome
        exact nomatch hsome
  | taken found before after uncancelled =>
      obtain ⟨hidle, hended⟩ := h.running found
      refine ⟨nofun, h.writer, h.unwritten, ?_, h.unpublished, h.moved⟩
      -- the entry leaves, and this call is the one that publishes from now on
      show call'.publishing + rest + 0 + (if state.ended then 1 else 0) = 1
      rw [after, hended]
      simp only [Bool.false_eq_true, if_false]
      omega
  | closed found before after =>
      obtain ⟨hidle, hended⟩ := h.running found
      refine ⟨nofun, h.writer, h.unwritten, ?_, nofun, h.moved⟩
      show call'.publishing + rest + 0 + 1 = 1
      omega
  | published found hpublished before after =>
      rw [before] at h
      rw [after]
      exact h.published found hpublished
  | unwritten hnone before after =>
      rw [before] at h
      have hstream := h.no_entry (.inl (by omega))
      refine ⟨h.entry, nofun, fun _ => h.unwritten hnone, ?_, nofun, h.moved⟩
      have hphase := h.phase
      show call'.publishing + rest + (if state.credit.stream.isSome then 1 else 0) + 1 = 1
      rw [hstream] at hphase ⊢
      simp only [Option.isSome_none, Bool.false_eq_true, if_false] at hphase ⊢
      omega

/-- Without an entry nothing is recorded. -/
theorem SectionEffect.history {call call' : DurableCall} {state' : DurableStream}
    (heffect : SectionEffect platform operationId state call state' call')
    (hstream : state.credit.stream = none) :
    state'.credit.history = state.credit.history := by
  cases heffect with
  | touched kept before after => exact congrArg StreamState.history (kept.1 hstream)
  | begun kept found begun before after => exact congrArg StreamState.history (kept.1 hstream)
  | refused found same before after => rfl
  | stored found hdirectory same next before after => rfl
  | taken found before after uncancelled => rfl
  | closed found before after => rfl
  | published found hpublished before after => rfl
  | unwritten hnone before after => rfl

/-- What `complete` goes on to publish was not cancelled. -/
theorem StreamInvariant.publish_uncancelled {call call' : DurableCall} {state' : DurableStream}
    (h : StreamInvariant platform operationId ownerWebview capability state publishing)
    (heffect : SectionEffect platform operationId state call state' call')
    (hpublishing : call'.publishing = 1) (hcomplete : call' ≠ .publishCancelled) :
    .cancelled ∉ state'.credit.history := by
  cases heffect with
  | @taken _ stream found before after uncancelled =>
      intro hmem
      have hcancelled := (h.entry stream found).2.2 hmem
      rw [uncancelled hcomplete] at hcancelled
      exact nomatch hcancelled
  | touched kept before after => omega
  | begun kept found begun before after => omega
  | refused found same before after => omega
  | stored found hdirectory same next before after => omega
  | closed found before after => omega
  | published found hpublished before after => omega
  | unwritten hnone before after => omega

/-- After the stream has ended, and its files were moved, nothing is stored any more. -/
theorem StreamInvariant.ended_keeps {call call' : DurableCall} {state' : DurableStream}
    (h : StreamInvariant platform operationId ownerWebview capability state publishing)
    (hended : state.ended = true) (hpartialDirectory : state.store.partialDirectory = none)
    (hcall : call.publishing = 0)
    (heffect : SectionEffect platform operationId state call state' call') :
    state'.store = state.store ∧ state'.persisted = state.persisted := by
  have hstream := h.no_entry (.inr hended)
  cases heffect with
  | touched kept before after => exact ⟨rfl, rfl⟩
  | begun kept found begun before after => exact absurd (hstream.symm.trans found) (by simp)
  | refused found same before after => exact ⟨rfl, rfl⟩
  | stored found hdirectory same next before after =>
      exact absurd (hpartialDirectory.symm.trans hdirectory) (by simp)
  | taken found before after uncancelled => exact ⟨rfl, rfl⟩
  | closed found before after => exact ⟨rfl, rfl⟩
  | published found hpublished before after => omega
  | unwritten hnone before after => omega

end Steps

/-! ## Runs -/

section Runs

variable {platform : ResultPlatform} {operationId : OperationId}
variable {ownerWebview capability : String} {pool : DurablePool}

/-- A move of a task that is there. -/
theorem durable_resume (task : Nat) (input : DurableInput) {call : DurableCall}
    (htask : pool.tasks[task]? = some call) :
    durableMove platform operationId pool (.resume task input) =
      ⟨(durableStep platform operationId pool.shared call input).1,
        pool.tasks.set task (durableStep platform operationId pool.shared call input).2⟩ := by
  simp only [durableMove, Pool.move, htask, durableResume, List.append_nil]

/-- A move of no task changes nothing, and one that starts a call leaves the stream as it is. -/
theorem durable_move_cases (move : Move DurableCall DurableInput) :
    (durableMove platform operationId pool move = pool ∧
      (∀ task input, move = .resume task input → pool.tasks[task]? = none)) ∨
    (∃ call, move = .start call ∧ call.isCall = true ∧
      durableMove platform operationId pool move =
        { pool with tasks := pool.tasks ++ [call] }) ∨
    ∃ task input call, move = .resume task input ∧ pool.tasks[task]? = some call := by
  cases move with
  | start call =>
      cases hcall : call.isCall with
      | true =>
          refine .inr (.inl ⟨call, rfl, hcall, ?_⟩)
          simp only [durableMove, hcall, if_true]
          rfl
      | false =>
          refine .inl ⟨?_, fun _ _ habsurd => nomatch habsurd⟩
          simp only [durableMove, hcall, Bool.false_eq_true, if_false]
  | resume task input =>
      cases htask : pool.tasks[task]? with
      | none =>
          refine .inl ⟨by simp only [durableMove, Pool.move, htask], ?_⟩
          intro task' input' heq
          obtain ⟨rfl, rfl⟩ := Move.resume.inj heq
          exact htask
      | some call => exact .inr (.inr ⟨task, input, call, rfl, htask⟩)

/-- A call that starts does not publish yet. -/
theorem publishing_of_is_call {call : DurableCall} (h : call.isCall = true) :
    call.publishing = 0 := by
  cases call with
  | publish => exact nomatch h
  | publishCancelled => exact nomatch h
  | _ => rfl

/-- The invariant as one task sees it. -/
theorem DurableInvariant.task
    (h : DurableInvariant platform operationId ownerWebview capability pool) {task : Nat}
    {call : DurableCall} (htask : pool.tasks[task]? = some call) :
    ∃ rest, total DurableCall.publishing pool.tasks = call.publishing + rest ∧
      StreamInvariant platform operationId ownerWebview capability pool.shared
        (call.publishing + rest) := by
  have hle := weight_le_total DurableCall.publishing htask
  refine ⟨total DurableCall.publishing pool.tasks - call.publishing, by omega, ?_⟩
  have hsum : call.publishing + (total DurableCall.publishing pool.tasks - call.publishing) =
      total DurableCall.publishing pool.tasks := by omega
  rw [hsum]
  exact h.state

/-- A move keeps the invariant. -/
theorem DurableInvariant.move
    (h : DurableInvariant platform operationId ownerWebview capability pool)
    (move : Move DurableCall DurableInput) :
    DurableInvariant platform operationId ownerWebview capability
      (durableMove platform operationId pool move) := by
  rcases @durable_move_cases platform operationId pool
      move with
    ⟨hsame, -⟩ | ⟨call, -, hcall, hmoved⟩ | ⟨task, input, call, rfl, htask⟩
  · rwa [hsame]
  · rw [hmoved]
    refine ⟨?_, ?_⟩
    · show StreamInvariant _ _ _ _ _ (total DurableCall.publishing (pool.tasks ++ [call]))
      rw [total_append, total_cons, total_nil, publishing_of_is_call hcall]
      exact h.state
    · intro rowCount truncated durationMs hmem
      rcases List.mem_append.mp hmem with hold | hnew
      · exact h.uncancelled rowCount truncated durationMs hold
      · rw [← List.mem_singleton.mp hnew] at hcall
        exact nomatch hcall
  · obtain ⟨rest, htotal, hstate⟩ := h.task htask
    rw [durable_resume task input htask]
    refine ⟨?_, ?_⟩
    · have hset := total_set DurableCall.publishing htask
        (durableStep platform operationId pool.shared call input).2
      have hsum : total DurableCall.publishing (pool.tasks.set task
          (durableStep platform operationId pool.shared call input).2) =
            (durableStep platform operationId pool.shared call input).2.publishing + rest := by
        omega
      show StreamInvariant _ _ _ _ _ (total DurableCall.publishing (pool.tasks.set task _))
      rw [hsum]
      exact hstate.effect (section_effect call input)
    · intro rowCount truncated durationMs hmem
      rcases List.mem_or_eq_of_mem_set hmem with hold | hnew
      · -- While it is about to publish there is no entry that could be cancelled.
        obtain ⟨other, hother⟩ := List.mem_iff_getElem?.mp hold
        have hpositive := weight_le_total DurableCall.publishing hother
        have hstream := h.state.no_entry (.inl hpositive)
        show .cancelled ∉ (durableStep platform operationId pool.shared call input).1.credit.history
        rw [(section_effect call input).history hstream]
        exact h.uncancelled rowCount truncated durationMs hold
      · exact hstate.publish_uncancelled (section_effect call input) (by rw [← hnew]; rfl)
          (by rw [← hnew]; nofun)

/-- Without a final directory no result is read. -/
theorem not_holds_unpublished {store : ResultStore} (hfinal : store.finalDirectory = none)
    (batches : List DesktopSqlStreamBatch) :
    ¬ HoldsPartial platform store operationId capability ownerWebview batches := by
  rintro ⟨_, _, hload, -⟩
  simp [loadAuthorizedManifest, hfinal] at hload

/-- A section of a stream that has not ended, and does not end in it, is outside the law. -/
theorem law_of_running {pool' : DurablePool} (hended : pool'.shared.ended = false) :
    PartialLaw platform operationId ownerWebview capability pool' := by
  intro _ habsurd
  rw [hended] at habsurd
  exact nomatch habsurd

/-- A section leaves the stream running unless it is one that may end it. -/
theorem running_step {state : DurableStream} (hended : state.ended = false) (call : DurableCall)
    (input : DurableInput)
    (hcomplete : ∀ rowCount truncated durationMs, call ≠ .complete rowCount truncated durationMs)
    (hclose : call ≠ .close) (hpublishing : call.publishing = 0) :
    (durableStep platform operationId state call input).1.ended = false := by
  cases call with
  | start ownerWebview' capability' pin =>
      show (state.start platform operationId ownerWebview' capability' pin
        input.outcome.outcome).1.ended = false
      unfold DurableStream.start
      dsimp only
      split
      · exact hended
      · exact hended
  | credit call =>
      show (state.touch call input.outcome).1.ended = false
      unfold DurableStream.touch
      split
      all_goals exact hended
  | write sequence batch =>
      show (state.write platform sequence batch input.files).1.ended = false
      unfold DurableStream.write
      split
      · exact hended
      split
      · exact hended
      split
      · exact hended
      · exact hended
  | complete rowCount truncated durationMs => exact absurd rfl (hcomplete _ _ _)
  | publish rowCount truncated durationMs => exact nomatch hpublishing
  | close => exact absurd rfl hclose
  | publishCancelled => exact nomatch hpublishing
  | done answer => exact hended

/-- A section of a stream that has ended keeps the law. -/
theorem law_of_ended {state : DurableStream} {publishing : Nat}
    (h : StreamInvariant platform operationId ownerWebview capability state publishing)
    (hended : state.ended = true)
    (hlaw : .cancelled ∈ state.credit.history →
      HoldsPartial platform state.store operationId capability ownerWebview state.persisted)
    (call : DurableCall) (hcall : call.publishing = 0) (input : DurableInput)
    (tasks : List DurableCall) :
    PartialLaw platform operationId ownerWebview capability
      ⟨(durableStep platform operationId state call input).1, tasks⟩ := by
  intro hcancelled _
  have hcancelled : .cancelled ∈
      (durableStep platform operationId state call input).1.credit.history := hcancelled
  rw [(section_effect call input).history (h.no_entry (.inr hended))] at hcancelled
  have hholds := hlaw hcancelled
  have hfinal : state.store.finalDirectory.isSome = true := by
    cases hfinal : state.store.finalDirectory with
    | none => exact absurd hholds (not_holds_unpublished hfinal _)
    | some directory => rfl
  obtain ⟨hstore, hpersisted⟩ :=
    h.ended_keeps hended (h.moved hfinal) hcall (section_effect call input)
  show HoldsPartial platform (durableStep platform operationId state call input).1.store
    operationId capability ownerWebview
    (durableStep platform operationId state call input).1.persisted
  rw [hstore, hpersisted]
  exact hholds

/-- `complete` keeps the law exactly when it does not find the entry of a cancelled stream. -/
theorem complete_law_iff {state : DurableStream} {publishing : Nat}
    (h : StreamInvariant platform operationId ownerWebview capability state publishing)
    (hended : state.ended = false) (rowCount : Nat) (truncated : Bool) (durationMs : Nat)
    (tasks : List DurableCall) :
    PartialLaw platform operationId ownerWebview capability
        ⟨(state.complete rowCount truncated durationMs).1, tasks⟩ ↔
      (.cancelled ∈ state.credit.history → state.credit.stream = none) := by
  unfold DurableStream.complete
  cases hstream : state.credit.stream with
  | none => exact ⟨fun _ _ => rfl, fun _ => law_of_running hended⟩
  | some stream =>
      obtain ⟨-, -, hcancelled⟩ := h.entry stream hstream
      dsimp only
      cases hflag : stream.cancelled with
      | true =>
          rw [if_pos rfl]
          constructor
          · intro hlaw hmem
            exact absurd (hlaw hmem rfl) (not_holds_unpublished (h.unpublished hended) _)
          · intro hnone hmem _
            exact absurd (hnone hmem) (by simp)
      | false =>
          -- A stream that is not marked was not cancelled, and the law asks nothing of it.
          have huncancelled : .cancelled ∉ state.credit.history := by
            intro hmem
            rw [hcancelled hmem] at hflag
            exact nomatch hflag
          rw [if_neg (by simp)]
          refine ⟨fun _ hmem => absurd hmem huncancelled, fun _ hmem => ?_⟩
          split at hmem
          · exact absurd hmem huncancelled
          split at hmem
          · exact absurd hmem huncancelled
          split at hmem
          · exact absurd hmem huncancelled
          · exact absurd hmem huncancelled

/-- `close` keeps the law up to where it publishes. -/
theorem close_law {state : DurableStream} {publishing : Nat}
    (h : StreamInvariant platform operationId ownerWebview capability state publishing)
    (hended : state.ended = false) (tasks : List DurableCall) :
    PartialLaw platform operationId ownerWebview capability ⟨state.close.1, tasks⟩ := by
  unfold DurableStream.close
  cases hstream : state.credit.stream with
  | none => exact law_of_running hended
  | some stream =>
      obtain ⟨-, -, hcancelled⟩ := h.entry stream hstream
      dsimp only
      cases hflag : stream.cancelled with
      | true => exact law_of_running hended
      | false =>
          intro hmem _
          have hmem : .cancelled ∈ state.credit.history := hmem
          rw [hcancelled hmem] at hflag
          exact nomatch hflag

/-- What `close` publishes of a cancelled stream keeps the law exactly when it can be read. -/
theorem publish_cancelled_law_iff {state : DurableStream} {publishing : Nat}
    (h : StreamInvariant platform operationId ownerWebview capability state publishing)
    (hended : state.ended = false) (input : DurableInput)
    (hreads : ∀ writer ∈ state.writer,
      ReadsManifest platform (writer.manifest writer.rowCount true 0 input.now) ∧
        ∀ batch ∈ state.persisted, ReadsPage platform batch)
    (tasks : List DurableCall) :
    PartialLaw platform operationId ownerWebview capability
        ⟨(state.publishCancelled platform input.now input.files).1, tasks⟩ ↔
      (.cancelled ∈ state.credit.history → ∃ writer ∈ state.writer,
        PublishesReadable platform writer state.persisted input.now input.files) := by
  have hfinal := h.unpublished hended
  unfold DurableStream.publishCancelled
  cases hwriter : state.writer with
  | none =>
      constructor
      · intro hlaw hmem
        exact absurd (hlaw hmem rfl) (not_holds_unpublished hfinal _)
      · intro hreadable hmem
        obtain ⟨writer, habsurd, -⟩ := hreadable hmem
        exact nomatch habsurd
  | some writer =>
      obtain ⟨rfl, howner, hcapability, hstored⟩ := h.writer writer hwriter
      obtain ⟨hpublished, directory, hpartialDirectory, hstored⟩ := hstored hfinal
      obtain ⟨hmanifest, hpages⟩ := hreads writer hwriter
      have hiff := @complete_cancelled_iff _ _ _ _ _ _ _ input.now hstored hpartialDirectory hfinal hpublished
        howner hcapability hmanifest hpages input.files
      constructor
      · exact fun hlaw hmem => ⟨writer, rfl, hiff.mp (hlaw hmem rfl)⟩
      · intro hreadable hmem _
        obtain ⟨other, hother, hreadable⟩ := hreadable hmem
        obtain rfl := Option.some.inj hother
        exact hiff.mpr hreadable

/-- A move that neither completes nor publishes ends nothing. -/
theorem quiet_readable {move : Move DurableCall DurableInput}
    (hcompletes : completesAt pool move = false) (hpublishes : publishesAt pool move = none) :
    EndsReadable platform pool move := by
  intro _
  rw [hcompletes, hpublishes]
  exact ⟨nofun, nofun⟩

/-- A move keeps the law exactly when it ends no cancelled stream unreadably. -/
theorem partial_law_iff
    (h : DurableInvariant platform operationId ownerWebview capability pool)
    (hlaw : PartialLaw platform operationId ownerWebview capability pool)
    (move : Move DurableCall DurableInput) (hreads : ReadsFiles platform pool move) :
    PartialLaw platform operationId ownerWebview capability
        (durableMove platform operationId pool move) ↔ EndsReadable platform pool move := by
  rcases @durable_move_cases platform operationId pool
      move with
    ⟨hsame, hnone⟩ | ⟨call, rfl, -, hmoved⟩ | ⟨task, input, call, rfl, htask⟩
  · rw [hsame]
    refine ⟨fun _ => ?_, fun _ => hlaw⟩
    cases move with
    | start call => exact quiet_readable rfl rfl
    | resume task input => simp [EndsReadable, completesAt, publishesAt, hnone task input rfl]
  · rw [hmoved]
    exact ⟨fun _ => quiet_readable rfl rfl, fun _ => hlaw⟩
  · obtain ⟨rest, -, hstate⟩ := h.task htask
    rw [durable_resume task input htask]
    -- what a stream left when it ended stays, whoever calls afterwards
    cases hended : pool.shared.ended with
    | true =>
        have hidle : call.publishing = 0 := by
          have hzero := hstate.ended_idle hended
          omega
        have hkeeps := law_of_ended hstate hended (fun hmem => hlaw hmem hended) call hidle input
          (pool.tasks.set task (durableStep platform operationId pool.shared call input).2)
        refine ⟨fun _ _ => ⟨fun _ => hstate.no_entry (.inr hended), ?_⟩, fun _ => hkeeps⟩
        intro input' hinput
        cases call with
        | publishCancelled => exact nomatch hidle
        | _ =>
            simp only [publishesAt, htask] at hinput
            exact nomatch hinput
    | false =>
        have hquiet : (∀ rowCount truncated durationMs,
            call ≠ .complete rowCount truncated durationMs) → call ≠ .publishCancelled →
            EndsReadable platform pool (.resume task input) := by
          intro hcomplete hpublish
          refine quiet_readable ?_ ?_
          · simp only [completesAt, htask]
            split
            · rename_i heq
              exact absurd (Option.some.inj heq) (hcomplete _ _ _)
            · rfl
          · simp only [publishesAt, htask]
            split
            · rename_i heq
              exact absurd (Option.some.inj heq) hpublish
            · rfl
        -- only `complete` and `publishCancelled` end a stream with a result of their own
        cases call with
        | complete rowCount truncated durationMs =>
            refine (complete_law_iff hstate hended rowCount truncated durationMs _).trans ?_
            simp [EndsReadable, completesAt, publishesAt, htask]
        | publishCancelled =>
            have hpublishes : publishesAt pool (.resume task input) = some input := by
              simp only [publishesAt, htask]
            refine (publish_cancelled_law_iff hstate hended input
              (hreads input hpublishes) _).trans ?_
            simp [EndsReadable, completesAt, publishesAt, htask]
        | close => exact ⟨fun _ => hquiet (fun _ _ _ => nofun) nofun,
            fun _ => close_law hstate hended _⟩
        | publish rowCount truncated durationMs =>
            refine ⟨fun _ => hquiet (fun _ _ _ => nofun) nofun, fun _ hmem => ?_⟩
            have hstream := hstate.no_entry (.inl (Nat.lt_of_lt_of_le Nat.zero_lt_one
              (Nat.le_add_right 1 rest)))
            have hmem : .cancelled ∈ (durableStep platform operationId pool.shared
              (.publish rowCount truncated durationMs) input).1.credit.history := hmem
            rw [(section_effect _ input).history hstream] at hmem
            exact absurd hmem
              (h.uncancelled rowCount truncated durationMs (List.mem_of_getElem? htask))
        | start ownerWebview' capability' pin =>
            exact ⟨fun _ => hquiet (fun _ _ _ => nofun) nofun, fun _ => law_of_running
              (running_step hended _ input (fun _ _ _ => nofun) nofun rfl)⟩
        | credit call =>
            exact ⟨fun _ => hquiet (fun _ _ _ => nofun) nofun, fun _ => law_of_running
              (running_step hended _ input (fun _ _ _ => nofun) nofun rfl)⟩
        | write sequence batch =>
            exact ⟨fun _ => hquiet (fun _ _ _ => nofun) nofun, fun _ => law_of_running
              (running_step hended _ input (fun _ _ _ => nofun) nofun rfl)⟩
        | done answer =>
            exact ⟨fun _ => hquiet (fun _ _ _ => nofun) nofun, fun _ => law_of_running hended⟩

/-- A stream that was reserved. -/
theorem reserved_durable_invariant (platform : ResultPlatform) (operationId : OperationId)
    (ownerWebview capability : String) :
    DurableInvariant platform operationId ownerWebview capability
      (reservedDurable ownerWebview capability) where
  state :=
    { entry := by
        intro stream hstream
        obtain rfl := Option.some.inj hstream
        exact ⟨rfl, rfl, fun hmem => absurd hmem List.not_mem_nil⟩
      writer := fun writer hwriter => nomatch hwriter
      unwritten := fun _ => ⟨rfl, rfl⟩
      phase := rfl
      unpublished := fun _ => rfl
      moved := fun habsurd => nomatch habsurd }
  uncancelled := fun _ _ _ hmem => absurd hmem List.not_mem_nil

/-- In every run of a durable stream, whoever calls and however the calls interleave, every
cancelled stream that has ended left its owner a result of exactly the pages that were persisted,
exactly when none was ended by `complete`, and what `close` published could be read. -/
theorem partial_result_iff (platform : ResultPlatform) (operationId : OperationId)
    (ownerWebview capability : String) (moves : List (Move DurableCall DurableInput))
    (hreads : EachCall (durableMove platform operationId) (ReadsFiles platform)
      (reservedDurable ownerWebview capability) moves) :
    EachCall (durableMove platform operationId)
        (fun pool move => PartialLaw platform operationId ownerWebview capability
          (durableMove platform operationId pool move))
        (reservedDurable ownerWebview capability) moves ↔
      EachCall (durableMove platform operationId) (EndsReadable platform)
        (reservedDurable ownerWebview capability) moves :=
  each_call_iff_of
    (P := fun pool => DurableInvariant platform operationId ownerWebview capability pool ∧
      PartialLaw platform operationId ownerWebview capability pool)
    (fun _ move h hreads => partial_law_iff h.1 h.2 move hreads)
    (fun _ move h hlaw => ⟨h.1.move move, hlaw⟩)
    ⟨reserved_durable_invariant platform operationId ownerWebview capability,
      law_of_running rfl⟩ hreads

/-- The law holds at the end of a run in which every move keeps it. -/
theorem law_at_end {moves : List (Move DurableCall DurableInput)}
    (h : EachCall (durableMove platform operationId)
      (fun pool move => PartialLaw platform operationId ownerWebview capability
        (durableMove platform operationId pool move))
      (reservedDurable ownerWebview capability) moves) :
    PartialLaw platform operationId ownerWebview capability
      (run (durableMove platform operationId) (reservedDurable ownerWebview capability) moves) :=
  run_invariant_of (law_of_running rfl) (fun _ _ _ hlaw => hlaw) h

end Runs

/-! ## A cancelled stream of one page -/

/-- The operation, its connection and the capability of its owner. -/
def sampleOperation : OperationId := ⟨"0d9c5a3e-8d0f-4a35-9f0f-5f5b1c1f2a77"⟩

def samplePin : PinnedConnection where
  workspaceId := ⟨"3f2a9e10-44bb-4a2c-8f6e-0a1b2c3d4e5f"⟩
  accountScope := "local"
  connectionId := ⟨"6b1f0e52-90a3-4c55-8d4e-0f6f2f1c7a01"⟩
  connectionRevision := 4

def sampleOwner : String := "5f70bf18a086007016e948b04aed3b82103a36bea41755b6cddfaf10ace3c6ef"

/-- Its only page. -/
def samplePage : DesktopSqlStreamBatch where
  operationId := sampleOperation
  sequence := 0
  rowStart := 0
  columns := ["n"]
  rows := [[.int 1]]
  decodeFailures := []

/-- A platform that reads nothing. -/
def blindPlatform : ResultPlatform where
  sha256 bytes := Sha256.digest (bytes.map UInt8.toNat)
  instantText _ := "2026-10-01T08:00:00Z"
  readManifest _ := none
  readPage _ := none
  readFloat := id

/-- The manifest of its partial result. -/
def sampleManifest : ResultManifest where
  schemaVersion := RESULT_STORE_SCHEMA_VERSION
  operationId := sampleOperation
  workspaceId := samplePin.workspaceId
  accountScope := samplePin.accountScope
  connectionId := samplePin.connectionId
  connectionRevision := samplePin.connectionRevision
  ownerWebview := "main"
  capabilitySha256 := capabilityHash blindPlatform sampleOwner
  columns := samplePage.columns
  pageRows := RESULT_PAGE_ROWS
  pages := [DesktopSqlResultWriter.pageMeta blindPlatform 0 samplePage samplePage.encoded]
  rowCount := 1
  truncated := true
  durationMs := 0
  completedAt := 0

/-- The platform, which reads the two files of this stream. -/
def samplePlatform : ResultPlatform :=
  { blindPlatform with
    readManifest := fun _ => some sampleManifest
    readPage := fun _ => some samplePage }

/-- The page is stored, pulled and acknowledged, and then the stream is cancelled. -/
def cancelledMoves : List (Move DurableCall DurableInput) :=
  [.start (.start "main" sampleOwner (some samplePin)), .resume 0 {},
    .start (.credit (.dispatch 0 samplePage)), .resume 1 {}, .resume 1 {}, .resume 1 {},
    .start (.credit (.pull 0 sampleOwner "main")), .resume 2 {},
    .start (.credit (.acknowledge 0 sampleOwner "main")), .resume 3 {},
    .start (.credit (.cancel sampleOwner "main")), .resume 4 {}]

set_option maxRecDepth 100000 in
/-- `complete` ends the stream first, and the page is lost. -/
theorem completed_page_lost :
    ¬ EachCall (durableMove samplePlatform sampleOperation)
      (fun pool move => PartialLaw samplePlatform sampleOperation "main" sampleOwner
        (durableMove samplePlatform sampleOperation pool move))
      (reservedDurable "main" sampleOwner)
      (cancelledMoves ++ [.start (.complete 1 false 12), .resume 5 {}, .start .close,
        .resume 6 {}]) := by
  intro h
  have hend : ∀ state, (run (durableMove samplePlatform sampleOperation)
      (reservedDurable "main" sampleOwner) (cancelledMoves ++ [.start (.complete 1 false 12),
        .resume 5 {}, .start .close, .resume 6 {}])).shared = state →
      .cancelled ∈ state.credit.history ∧ state.ended = true ∧
        state.store.finalDirectory.isNone = true := by
    intro state hstate
    rw [← hstate]
    decide
  obtain ⟨hcancelled, hended, hfinal⟩ := hend _ rfl
  exact not_holds_unpublished (Option.isNone_iff_eq_none.mp hfinal) _
    (law_at_end h hcancelled hended)

set_option maxRecDepth 100000 in
/-- `close` ends the stream first, and the page can be read. -/
theorem closed_page_kept :
    EachCall (durableMove samplePlatform sampleOperation)
      (fun pool move => PartialLaw samplePlatform sampleOperation "main" sampleOwner
        (durableMove samplePlatform sampleOperation pool move))
      (reservedDurable "main" sampleOwner)
      (cancelledMoves ++ [.start .close, .resume 5 {}, .resume 5 {}]) :=
  (partial_result_iff samplePlatform sampleOperation "main" sampleOwner _
    (by decide)).mpr (by decide)

end Dopedb.Queries
