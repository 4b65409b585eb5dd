import Dopedb.Agents.SessionReplay

/-!
# Storing a conversation

The worker of `acp/persistence.rs`, which cuts the events of a session into batches and folds the
streamed text of a message into one row across them, and the rows of `agent_acp_events` that
`store/agent_acp.rs` writes and trims. Summaries and the pruning of old sessions are left out.
-/

namespace Dopedb.Agents

open Library

/-! ## Batches -/

/-- `MAX_EVENT_BYTES`. -/
def MAX_EVENT_BYTES : Nat := 512 * 1024

/-- `MAX_PERSIST_BATCH_EVENTS`. -/
def MAX_PERSIST_BATCH_EVENTS : Nat := 64

/-- `MAX_PERSIST_BATCH_BYTES`. -/
def MAX_PERSIST_BATCH_BYTES : Nat := 256 * 1024

/-- `OpenRun`. -/
structure OpenRun where
  event : AcpSessionEvent
  persistedSequence : Option Nat := none
  dirty : Bool := true
  deriving DecidableEq

/-- `PersistBatch`. -/
structure PersistBatch where
  writes : List AcpSessionEvent := []
  replaced : List Nat := []
  deriving DecidableEq

/-- `PersistBatch::flush_run`. -/
def PersistBatch.flushRun (batch : PersistBatch) (run : OpenRun) : PersistBatch × OpenRun :=
  if run.dirty then
    ({
      writes := batch.writes ++ [run.event]
      replaced := batch.replaced ++
        (run.persistedSequence.filter fun previous => previous ≠ run.event.sequence).toList },
      { run with
        persistedSequence := some run.event.sequence
        dirty := false })
  else (batch, run)

/-- The run of a batch is flushed, when there is one. -/
def PersistBatch.flushOpen (batch : PersistBatch) (run : Option OpenRun) : PersistBatch :=
  match run with
  | none => batch
  | some finished => (batch.flushRun finished).1

/-- `PersistBatch::add`. -/
def PersistBatch.add (batch : PersistBatch) (run : Option OpenRun) (event : AcpSessionEvent) :
    PersistBatch × Option OpenRun :=
  if isTextChunk event.payload then
    match run.bind fun current => (mergeChunk current.event event).map fun folded =>
        { current with
          event := folded
          dirty := true } with
    | some continued => (batch, some continued)
    | none => (batch.flushOpen run, some { event })
  else
    let flushed := batch.flushOpen run
    ({ flushed with writes := flushed.writes ++ [event] }, none)

/-! ## Rows -/

/-- `MAX_PERSISTED_EVENTS`. -/
def MAX_PERSISTED_EVENTS : Nat := 512

/-- `MAX_PERSISTED_BYTES`. -/
def MAX_PERSISTED_BYTES : Nat := 4 * 1024 * 1024

/-- The bytes of the payloads of rows. -/
def rowBytes (rows : List AcpSessionEvent) : Nat := (rows.map fun row => payloadBytes row.payload).sum

/-- A row is inserted in the order of the sequences, or replaces the one of its sequence. -/
def upsertRow (rows : List AcpSessionEvent) (row : AcpSessionEvent) : List AcpSessionEvent :=
  rows.filter (fun other => decide (other.sequence < row.sequence)) ++
    row :: rows.filter fun other => decide (row.sequence < other.sequence)

/-- Rows beyond the newest ones are deleted. -/
def trimCount (rows : List AcpSessionEvent) : List AcpSessionEvent :=
  rows.drop (rows.length - MAX_PERSISTED_EVENTS)

/-- A row is deleted when it and the rows after it have too many bytes. -/
def trimBytes : List AcpSessionEvent → List AcpSessionEvent
  | [] => []
  | row :: rest =>
    if rowBytes (row :: rest) > MAX_PERSISTED_BYTES then trimBytes rest else row :: trimBytes rest

/-- Why a call fails. -/
inductive PersistError where
  | sessionBoundary | replayLimit | sequenceRange | storage
  deriving DecidableEq, Repr

/-- The first event or sequence that a call refuses. -/
def checkBatch (sessionId : String) (batch : PersistBatch) : Option PersistError :=
  if batch.replaced.any fun sequence => decide (2 ^ 63 ≤ sequence) then some .sequenceRange
  else
    batch.writes.findSome? fun event =>
      if event.sessionId ≠ sessionId then some .sessionBoundary
      else if payloadBytes event.payload > MAX_EVENT_BYTES then some .replayLimit
      else if 2 ^ 63 ≤ event.sequence then some .sequenceRange
      else none

/-- `persist_agent_acp_event_batch`. -/
def persistAgentAcpEventBatch (sessionId : String) (batch : PersistBatch)
    (rows : List AcpSessionEvent) : Except PersistError (List AcpSessionEvent) :=
  if batch.writes.isEmpty then .ok rows
  else
    match checkBatch sessionId batch with
    | some error => .error error
    | none =>
      let kept := rows.filter fun row => row.sequence ∉ batch.replaced
      .ok (trimBytes (trimCount (batch.writes.foldl upsertRow kept)))

/-- `focus_agent_acp_session`. -/
def focusAgentAcpSession (rows : List AcpSessionEvent) (afterSequence : Option Nat) :
    AcpSessionFocus :=
  focusEvents rows afterSequence

/-! ## The worker -/

/-- What `run_worker` keeps, with the batch that it collects. -/
structure PersistWorker where
  run : Option OpenRun := none
  batch : PersistBatch := {}
  requestCount : Nat := 0
  bytes : Nat := 0
  deriving DecidableEq

/-- The worker takes an event, and finishes the batch at a boundary, at a limit or at its deadline. -/
def PersistWorker.receive (worker : PersistWorker) (event : AcpSessionEvent) (deadline : Bool) :
    PersistWorker × Option PersistBatch :=
  let added := worker.batch.add worker.run event
  let requestCount := worker.requestCount + 1
  let bytes := worker.bytes + eventBytes event
  if isBoundary event.payload || deadline || MAX_PERSIST_BATCH_EVENTS ≤ requestCount ||
      MAX_PERSIST_BATCH_BYTES ≤ bytes then
    ({ run := added.2.map fun current => (added.1.flushRun current).2 },
      some (added.1.flushOpen added.2))
  else
    ({
      run := added.2
      batch := added.1
      requestCount
      bytes }, none)

/-! ## What a batch makes of the rows -/

/-- The rows that the batch and its open run replace. -/
def PersistWorker.replacing (worker : PersistWorker) : List Nat :=
  worker.batch.replaced ++ (worker.run.bind (·.persistedSequence)).toList

/-- The rows that the batch and its open run write. -/
def PersistWorker.writing (worker : PersistWorker) : List AcpSessionEvent :=
  worker.batch.writes ++ (worker.run.map (·.event)).toList

/-- The rows that a call leaves, when the batch is finished now and nothing is trimmed. -/
def PersistWorker.view (worker : PersistWorker) (rows : List AcpSessionEvent) :
    List AcpSessionEvent :=
  (rows.filter fun row => row.sequence ∉ worker.replacing) ++ worker.writing

/-- A run that has nothing new was written by the last call, and its batch is empty; a run that has
something new is past the row that was written for it. -/
def PersistWorker.Consistent (worker : PersistWorker) : Prop :=
  ∀ run, worker.run = some run →
    (run.dirty = false → worker.batch = {} ∧ run.persistedSequence = some run.event.sequence) ∧
    (run.dirty = true → ∀ previous, run.persistedSequence = some previous →
      previous ≠ run.event.sequence)

/-- The worker after an event was added to its batch. -/
def PersistWorker.take (worker : PersistWorker) (event : AcpSessionEvent) : PersistWorker :=
  { worker with
    run := (worker.batch.add worker.run event).2
    batch := (worker.batch.add worker.run event).1 }

/-- What an added event does to the batch. -/
inductive Taken (worker : PersistWorker) (event : AcpSessionEvent) : Prop where
  | continued (run : OpenRun) (folded : AcpSessionEvent) (hrun : worker.run = some run)
      (hmerge : mergeChunk run.event event = some folded)
      (htake : worker.take event = { worker with
        run := some { run with
          event := folded
          dirty := true } })
  | reopened (run : OpenRun) (hrun : worker.run = some run) (hclean : run.dirty = false)
      (hapart : isTextChunk event.payload = true → mergeChunk run.event event = none)
      (hreplacing : (worker.take event).replacing = [])
      (hwriting : (worker.take event).writing = [event])
      (hrun' : ∀ run', (worker.take event).run = some run' → run' = { event })
  | added (hapart : ∀ run, worker.run = some run → run.dirty = true ∧
        (isTextChunk event.payload = true → mergeChunk run.event event = none))
      (hreplacing : (worker.take event).replacing = worker.replacing)
      (hwriting : (worker.take event).writing = worker.writing ++ [event])
      (hrun' : ∀ run', (worker.take event).run = some run' → run' = { event })

/-- What streams text is a chunk. -/
theorem chunk_of_streamed {payload : AcpSessionEventPayload} {kind text : String}
    {messageId : Option Json} (h : streamedText payload = some (kind, messageId, text)) :
    isTextChunk payload = true := by
  cases payload with
  | sessionUpdate update =>
      obtain ⟨hstreamed, hkind, _⟩ := streamed_text_iff.mp h
      simp [isTextChunk, isBoundary, hkind, hstreamed]
  | userMessage text attachments => cases h
  | sessionConfiguration configOptions => cases h
  | permissionRequest requestId toolCall options => cases h
  | permissionResponse requestId optionId => cases h
  | turnEnd stopReason => cases h
  | status lifecycle => cases h
  | error message => cases h

/-- A boundary is not folded. -/
theorem merge_chunk_boundary {target next : AcpSessionEvent}
    (h : isTextChunk next.payload = false) : mergeChunk target next = none := by
  cases hmerge : mergeChunk target next with
  | none => rfl
  | some folded =>
      obtain ⟨taken, htaken, _⟩ := Option.map_eq_some_iff.mp hmerge
      obtain ⟨kind, messageId, before, after, _, hnext, _⟩ := (append_text_chunk_spec htaken).text
      rw [chunk_of_streamed hnext] at h
      cases h

/-- A flushed run is written, and its row before is replaced. -/
theorem PersistBatch.flush_dirty {batch : PersistBatch} {run : OpenRun} (hdirty : run.dirty = true)
    (hpast : ∀ previous, run.persistedSequence = some previous → previous ≠ run.event.sequence) :
    batch.flushRun run =
      ({
        writes := batch.writes ++ [run.event]
        replaced := batch.replaced ++ run.persistedSequence.toList },
        { run with
          persistedSequence := some run.event.sequence
          dirty := false }) := by
  unfold PersistBatch.flushRun
  rw [if_pos hdirty]
  cases hpersisted : run.persistedSequence with
  | none => rfl
  | some previous => simp [Option.filter, hpast previous hpersisted]

/-- An added event continues the open run, or is written after what there was. -/
theorem PersistWorker.Consistent.taken {worker : PersistWorker} (h : worker.Consistent)
    (event : AcpSessionEvent) : Taken worker event := by
  cases hrun : worker.run with
  | none =>
      refine .added (by simp [hrun]) ?_ ?_ ?_
      · unfold PersistWorker.take PersistBatch.add PersistWorker.replacing PersistBatch.flushOpen
        rw [hrun]
        split
        · simp
        · simp
      · unfold PersistWorker.take PersistBatch.add PersistWorker.writing PersistBatch.flushOpen
        rw [hrun]
        split
        · simp
        · simp
      · unfold PersistWorker.take PersistBatch.add
        rw [hrun]
        intro run' hrun'
        split at hrun'
        · simpa using hrun'.symm
        · cases hrun'
  | some run =>
      obtain ⟨hclean, hpast⟩ := h run hrun
      -- a chunk of the same message continues the run, another event closes it
      cases hmerge : mergeChunk run.event event with
      | some folded =>
          refine .continued run folded hrun hmerge ?_
          have hchunk : isTextChunk event.payload = true := by
            by_contra hboundary
            rw [merge_chunk_boundary (by simpa using hboundary)] at hmerge
            cases hmerge
          unfold PersistWorker.take PersistBatch.add
          rw [if_pos hchunk, hrun]
          simp [hmerge]
      | none =>
          have hadd : worker.batch.add worker.run event =
              if isTextChunk event.payload then
                ((worker.batch.flushRun run).1, some { event })
              else
                ({ (worker.batch.flushRun run).1 with
                  writes := (worker.batch.flushRun run).1.writes ++ [event] }, none) := by
            unfold PersistBatch.add PersistBatch.flushOpen
            rw [hrun]
            simp [hmerge]
          have hrun' : ∀ run', (worker.take event).run = some run' → run' = { event } := by
            intro run' hrun'
            unfold PersistWorker.take at hrun'
            rw [hadd] at hrun'
            split at hrun'
            · simpa using hrun'.symm
            · cases hrun'
          -- only a run with something that was not written yet is flushed
          cases hdirty : run.dirty with
          | false =>
              obtain ⟨hempty, _⟩ := hclean hdirty
              have hflush : worker.batch.flushRun run = ({}, run) := by
                unfold PersistBatch.flushRun
                rw [hempty]
                simp [hdirty]
              rw [hflush] at hadd
              refine .reopened run hrun hdirty (fun _ => hmerge) ?_ ?_ hrun'
              · unfold PersistWorker.take PersistWorker.replacing
                rw [hadd]
                split
                · rfl
                · rfl
              · unfold PersistWorker.take PersistWorker.writing
                rw [hadd]
                split
                · rfl
                · rfl
          | true =>
              rw [PersistBatch.flush_dirty hdirty (hpast hdirty)] at hadd
              refine .added ?_ ?_ ?_ hrun'
              · intro other hother
                rw [hrun] at hother
                cases hother
                exact ⟨hdirty, fun _ => hmerge⟩
              · unfold PersistWorker.take PersistWorker.replacing
                rw [hadd, hrun]
                split
                · simp
                · simp
              · unfold PersistWorker.take PersistWorker.writing
                rw [hadd, hrun]
                split
                · simp
                · simp

/-- After an event was taken, the open run is new. -/
theorem Taken.dirty {worker : PersistWorker} {event : AcpSessionEvent} (h : Taken worker event)
    {run : OpenRun} (hrun : (worker.take event).run = some run) : run.dirty = true := by
  cases h with
  | continued earlier folded hearlier hmerge htake =>
      rw [htake] at hrun
      cases hrun
      rfl
  | reopened earlier hearlier hclean hapart hreplacing hwriting hrun' =>
      rw [hrun' run hrun]
  | added hapart hreplacing hwriting hrun' =>
      rw [hrun' run hrun]

/-- After an event was taken, the open run is past the row that was written for it. -/
theorem Taken.past {worker : PersistWorker} {event : AcpSessionEvent} (h : Taken worker event)
    (hpast : ∀ run previous, worker.run = some run → run.persistedSequence = some previous →
      previous < event.sequence) {run : OpenRun} (hrun : (worker.take event).run = some run)
    {previous : Nat} (hprevious : run.persistedSequence = some previous) :
    previous < event.sequence ∧ run.event.sequence = event.sequence := by
  cases h with
  | continued earlier folded hearlier hmerge htake =>
      rw [htake] at hrun
      cases hrun
      exact ⟨hpast earlier previous hearlier hprevious, merge_chunk_sequence _ _ _ hmerge⟩
  | reopened earlier hearlier hclean hapart hreplacing hwriting hrun' =>
      rw [hrun' run hrun] at hprevious
      cases hprevious
  | added hapart hreplacing hwriting hrun' =>
      rw [hrun' run hrun] at hprevious
      cases hprevious

/-- After an event was taken, the worker is consistent. -/
theorem Taken.consistent {worker : PersistWorker} {event : AcpSessionEvent} (h : Taken worker event)
    (hpast : ∀ run previous, worker.run = some run → run.persistedSequence = some previous →
      previous < event.sequence) : (worker.take event).Consistent := by
  intro run hrun
  refine ⟨?_, ?_⟩
  · intro hclean
    rw [h.dirty hrun] at hclean
    cases hclean
  · intro _ previous hprevious
    obtain ⟨hlt, hsame⟩ := h.past hpast hrun hprevious
    omega

/-- A worker without an open run has taken a boundary. -/
theorem boundary_of_take {worker : PersistWorker} {event : AcpSessionEvent}
    (hrun : (worker.take event).run = none) : isTextChunk event.payload = false := by
  cases hchunk : isTextChunk event.payload with
  | false => rfl
  | true =>
      unfold PersistWorker.take PersistBatch.add at hrun
      rw [if_pos hchunk] at hrun
      split at hrun
      · cases hrun
      · cases hrun

/-- A run whose row is written. -/
def OpenRun.written (run : OpenRun) : OpenRun :=
  { run with
    persistedSequence := some run.event.sequence
    dirty := false }

/-- The worker keeps collecting, or finishes the batch with everything that it took. -/
theorem receive_cases {worker : PersistWorker} {event : AcpSessionEvent} (htaken : Taken worker event)
    (hconsistent : (worker.take event).Consistent) (deadline : Bool) :
    (∃ requestCount bytes, (worker.take event).run ≠ none ∧ worker.receive event deadline =
      ({ worker.take event with
        requestCount
        bytes }, none)) ∨
    worker.receive event deadline =
      ({ run := (worker.take event).run.map OpenRun.written }, some {
        writes := (worker.take event).writing
        replaced := (worker.take event).replacing }) := by
  unfold PersistWorker.receive
  simp only
  split
  · right
    cases hrun : (worker.batch.add worker.run event).2 with
    | none =>
        have hnone : (worker.take event).run = none := hrun
        simp only [PersistWorker.writing, PersistWorker.replacing, hnone, PersistBatch.flushOpen]
        simp [PersistWorker.take]
    | some run =>
        have hsome : (worker.take event).run = some run := hrun
        have hdirty := htaken.dirty hsome
        have hflush := @PersistBatch.flush_dirty (worker.batch.add worker.run event).1 run hdirty
          ((hconsistent run hsome).2 hdirty)
        simp only [PersistWorker.writing, PersistWorker.replacing, hsome, PersistBatch.flushOpen,
          Option.map_some, hflush]
        simp [PersistWorker.take, OpenRun.written]
  · next hopen =>
      left
      refine ⟨_, _, ?_, rfl⟩
      intro hnone
      have hboundary := boundary_of_take hnone
      simp only [isTextChunk, Bool.not_eq_false'] at hboundary
      simp [hboundary] at hopen

end Dopedb.Agents
