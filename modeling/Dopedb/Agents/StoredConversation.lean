import Dopedb.Agents.EventPersistence
import Dopedb.Library.Runs

/-!
# Stored conversations

A run of a session: events are pushed, the worker cuts them into batches as the deadlines fall, calls
may fail, and the live and the stored conversation are read. `stored_once` is the main result; it is
about the runs in which no call that replaces a stored row fails, nothing is over the limit of one
row, and a focus without a sequence finds everything within the limits of the history.
-/

namespace Dopedb.Agents

open Library

/-! ## Runs -/

/-- A session with its replay, its worker and its rows. `history`, `persisted` and `failed` record
what was pushed, what the last call had to write and whether a call failed; no step reads them. -/
structure StoredConversation where
  sessionId : String
  nextSequence : Nat
  replay : ReplayBuffer := {}
  worker : PersistWorker := {}
  rows : List AcpSessionEvent := []
  history : List AcpSessionEvent := []
  persisted : List AcpSessionEvent := []
  failed : Bool := false
  deriving DecidableEq

/-- What happens to a session. An event comes with the end of its batch by a deadline, and with a
call that fails for a reason of the database. -/
inductive ConversationStep where
  | push (payload : AcpSessionEventPayload) (createdAt : String) (deadline lost : Bool)
  | focus (afterSequence : Option Nat)
  | storedFocus (afterSequence : Option Nat)
  deriving DecidableEq

namespace StoredConversation

/-- The event that `push_unlocked` makes of a payload. -/
def event (conversation : StoredConversation) (payload : AcpSessionEventPayload)
    (createdAt : String) : AcpSessionEvent where
  sessionId := conversation.sessionId
  sequence := conversation.nextSequence
  createdAt
  payload

/-- The call of `run_worker` that finishes the batch of an event, with its batch. -/
def call (conversation : StoredConversation) (payload : AcpSessionEventPayload)
    (createdAt : String) (deadline lost : Bool) :
    Option (PersistBatch × Except PersistError (List AcpSessionEvent)) :=
  (conversation.worker.receive (conversation.event payload createdAt) deadline).2.map fun batch =>
    (batch, if lost then .error .storage
      else persistAgentAcpEventBatch conversation.sessionId batch conversation.rows)

/-- A session after a step. -/
def step (conversation : StoredConversation) : ConversationStep → StoredConversation
  | .push payload createdAt deadline lost =>
    let event := conversation.event payload createdAt
    let pushed := { conversation with
      nextSequence := conversation.nextSequence + 1
      replay := conversation.replay.push event (eventBytes event)
      worker := (conversation.worker.receive event deadline).1
      history := conversation.history ++ [event] }
    match conversation.call payload createdAt deadline lost with
    | none => pushed
    | some (_, .error _) => { pushed with
        persisted := pushed.history
        failed := true }
    | some (_, .ok rows) => { pushed with
        rows
        persisted := pushed.history }
  | .focus _ => conversation
  | .storedFocus _ => conversation

/-- A session that starts from the rows that were stored before, or from none. -/
def start (sessionId : String) (rows : List AcpSessionEvent) : StoredConversation where
  sessionId
  nextSequence := ((rows.getLast?.map (·.sequence)).getD 0) + 1
  replay := .fromEvents rows
  rows
  history := rows
  persisted := rows

end StoredConversation

/-! ## The condition -/

/-- The rows are within the limits of the store. -/
def persistFits (rows : List AcpSessionEvent) : Bool :=
  decide (rows.length ≤ MAX_PERSISTED_EVENTS) && decide (rowBytes rows ≤ MAX_PERSISTED_BYTES)

/-- The row that takes an event: its own, or the open run when it continues that. -/
def rowTaking (worker : PersistWorker) (event : AcpSessionEvent) : AcpSessionEvent :=
  (worker.run.bind fun run => mergeChunk run.event event).getD event

/-- No event or row that takes one is over its limit, no call that replaces a stored row fails, and a
focus without a sequence finds everything within the limits; the stored one finds no call failed. -/
def PersistSound (conversation : StoredConversation) : ConversationStep → Prop
  | .push payload createdAt deadline lost =>
    let event := conversation.event payload createdAt
    payloadBytes payload ≤ MAX_EVENT_BYTES ∧ eventBytes event ≤ MAX_REPLAY_BYTES ∧
      payloadBytes (rowTaking conversation.worker event).payload ≤ MAX_EVENT_BYTES ∧
      ∀ batch error, conversation.call payload createdAt deadline lost = some (batch, .error error) →
        ∀ row ∈ conversation.rows, row.sequence ∉ batch.replaced
  | .focus afterSequence => afterSequence = none →
    replayFits (foldStream mergeReplay (replayItems conversation.history)) = true
  | .storedFocus afterSequence => conversation.failed = false ∧ (afterSequence = none →
    persistFits (foldStream mergeChunk conversation.persisted) = true)

/-- The rows that an ended session left: its own, folded and within the limits. -/
structure LeftRows (sessionId : String) (rows : List AcpSessionEvent) : Prop where
  session : ∀ row ∈ rows, row.sessionId = sessionId
  increasing : Increasing rows
  folded : foldStream mergeChunk rows = rows
  fits : persistFits rows = true
  payload : ∀ row ∈ rows, payloadBytes row.payload ≤ MAX_EVENT_BYTES
  bytes : ∀ row ∈ rows, eventBytes row ≤ MAX_REPLAY_BYTES
  ended : ∀ last ∈ rows.getLast?, isTextChunk last.payload = false

/-! ## Trimming -/

/-- Trimming keeps the newest rows that fit. -/
theorem trim_eq (rows : List AcpSessionEvent) :
    trimBytes (trimCount rows) = newestFitting persistFits rows := by
  induction rows with
  | nil => rfl
  | cons row rest ih =>
      unfold newestFitting
      by_cases hcount : (row :: rest).length ≤ MAX_PERSISTED_EVENTS
      · have hall : ∀ rows : List AcpSessionEvent, rows.length ≤ MAX_PERSISTED_EVENTS →
            trimCount rows = rows := by
          intro rows hrows
          unfold trimCount
          rw [Nat.sub_eq_zero_of_le hrows, List.drop_zero]
        have hrest : rest.length ≤ MAX_PERSISTED_EVENTS := by
          rw [List.length_cons] at hcount
          omega
        rw [hall _ hcount]
        rw [hall _ hrest] at ih
        unfold trimBytes
        by_cases hbytes : rowBytes (row :: rest) > MAX_PERSISTED_BYTES
        · have hfits : ¬persistFits (row :: rest) = true := by
            simp only [persistFits, Bool.and_eq_true, decide_eq_true_eq]
            omega
          rw [if_pos hbytes, if_neg hfits, ih]
        · have hfits : persistFits (row :: rest) = true := by
            simp only [persistFits, Bool.and_eq_true, decide_eq_true_eq]
            omega
          have hkept : trimBytes rest = rest := by
            rw [ih]
            refine newest_fitting_of_fits ?_
            simp only [persistFits, Bool.and_eq_true, decide_eq_true_eq]
            have hmore : rowBytes rest ≤ rowBytes (row :: rest) := by
              simp [rowBytes]
            omega
          rw [if_neg hbytes, if_pos hfits, hkept]
      · have hfits : ¬persistFits (row :: rest) = true := by
          simp only [persistFits, Bool.and_eq_true, decide_eq_true_eq]
          omega
        have hdrop : trimCount (row :: rest) = trimCount rest := by
          unfold trimCount
          rw [List.length_cons] at hcount ⊢
          have hsucc : rest.length + 1 - MAX_PERSISTED_EVENTS =
              (rest.length - MAX_PERSISTED_EVENTS) + 1 := by omega
          rw [hsucc, List.drop_succ_cons]
        rw [hdrop, if_neg hfits]
        exact ih

/-- Rows at the front do not make rows fit that do not. -/
theorem not_fits_more {before kept kept' : List AcpSessionEvent}
    (hlength : kept.length ≤ kept'.length) (hbytes : rowBytes kept ≤ rowBytes kept')
    (h : persistFits (before ++ kept) = false) : persistFits (before ++ kept') = false := by
  rw [Bool.eq_false_iff] at h ⊢
  intro hfits
  refine h ?_
  simp only [persistFits, rowBytes, Bool.and_eq_true, decide_eq_true_eq, List.length_append,
    List.map_append, List.sum_append] at hfits hbytes ⊢
  omega

/-- A row in the limit of one row is kept when it is the last. -/
theorem persist_fits_singleton {row : AcpSessionEvent}
    (h : payloadBytes row.payload ≤ MAX_EVENT_BYTES) : persistFits [row] = true := by
  unfold MAX_EVENT_BYTES at h
  have hbytes : rowBytes [row] = payloadBytes row.payload := by simp [rowBytes]
  simp only [persistFits, List.length_singleton, hbytes, Bool.and_eq_true, decide_eq_true_eq,
    MAX_PERSISTED_EVENTS, MAX_PERSISTED_BYTES]
  exact ⟨by simp, by omega⟩

/-- Rows that were written after all others are inserted at the end. -/
theorem upsert_rows {rows writes : List AcpSessionEvent} (h : Increasing (rows ++ writes)) :
    writes.foldl upsertRow rows = rows ++ writes := by
  induction writes generalizing rows with
  | nil => simp
  | cons row writes ih =>
      have hbefore : ∀ other ∈ rows, other.sequence < row.sequence := by
        intro other hother
        exact (List.pairwise_append.mp h).2.2 other hother row List.mem_cons_self
      have hinsert : upsertRow rows row = rows ++ [row] := by
        unfold upsertRow
        rw [List.filter_eq_self.mpr, List.filter_eq_nil_iff.mpr]
        · intro other hother
          have hlt := hbefore other hother
          simp only [decide_eq_true_eq]
          omega
        · intro other hother
          exact decide_eq_true (hbefore other hother)
      rw [List.foldl_cons, hinsert, ih]
      · simp
      · simpa using h

/-! ## The invariant -/

/-- The batch replaces nothing, or the last row by one that is no shorter. -/
def ReplacesLast (rows : List AcpSessionEvent) (worker : PersistWorker) : Prop :=
  worker.replacing = [] ∨ ∃ front stored first more, rows = front ++ [stored] ∧
    worker.replacing = [stored.sequence] ∧ worker.writing = first :: more ∧
    payloadBytes stored.payload ≤ payloadBytes first.payload

/-- While no call has failed, the rows are the newest of the folded stream, and the batch makes the
rows of what was pushed since. -/
structure Faithful (conversation : StoredConversation) : Prop where
  rows : conversation.rows =
    newestFitting persistFits (foldStream mergeChunk conversation.persisted)
  view : conversation.worker.view (foldStream mergeChunk conversation.persisted) =
    foldStream mergeChunk conversation.history
  replaces : ReplacesLast (foldStream mergeChunk conversation.persisted) conversation.worker
  clean : ∀ run, conversation.worker.run = some run → run.dirty = false →
    foldStream mergeChunk conversation.persisted = foldStream mergeChunk conversation.history
  idle : conversation.worker.run = none →
    ∀ last ∈ (foldStream mergeChunk conversation.history).getLast?,
      isTextChunk last.payload = false
  sizes : ∀ row ∈ foldStream mergeChunk conversation.persisted,
    payloadBytes row.payload ≤ MAX_EVENT_BYTES
  persisted : ∃ later, conversation.history = conversation.persisted ++ later

/-- What holds of a session at every moment of a run that meets the condition. -/
structure ConversationInv (conversation : StoredConversation) : Prop where
  session : ∀ event ∈ conversation.history, event.sessionId = conversation.sessionId
  increasing : Increasing conversation.history
  fresh : ∀ event ∈ conversation.history, event.sequence < conversation.nextSequence
  replay : conversation.replay = .fromEvents conversation.history
  bytes : ∀ event ∈ conversation.history, eventBytes event ≤ MAX_REPLAY_BYTES
  worker : conversation.worker.Consistent
  past : ∀ run previous, conversation.worker.run = some run →
    run.persistedSequence = some previous → previous < conversation.nextSequence
  writes : ∀ row ∈ conversation.worker.writing,
    payloadBytes row.payload ≤ MAX_EVENT_BYTES ∧ row.sessionId = conversation.sessionId
  once : ReadsOnce mergeChunk conversation.history conversation.rows
  viewed : ReadsOnce mergeChunk conversation.history (conversation.worker.view conversation.rows)
  faithful : conversation.failed = false → Faithful conversation

/-- An idle worker writes nothing. -/
theorem view_idle (rows : List AcpSessionEvent) : ({} : PersistWorker).view rows = rows := by
  simp [PersistWorker.view, PersistWorker.replacing, PersistWorker.writing]

/-- The last row of the rows of an open run is its event. -/
theorem view_run {worker : PersistWorker} {run : OpenRun} (hrun : worker.run = some run)
    (rows : List AcpSessionEvent) :
    worker.view rows = (rows.filter (fun row => row.sequence ∉ worker.replacing) ++
      worker.batch.writes) ++ [run.event] := by
  simp [PersistWorker.view, PersistWorker.writing, hrun]

/-- The open run of a worker has another event. -/
theorem view_continued (worker : PersistWorker) {run : OpenRun} (hrun : worker.run = some run)
    (folded : AcpSessionEvent) (rows : List AcpSessionEvent) :
    ({ worker with
      run := some { run with
        event := folded
        dirty := true } } : PersistWorker).view rows =
      (rows.filter (fun row => row.sequence ∉ worker.replacing) ++
        worker.batch.writes) ++ [folded] := by
  simp [PersistWorker.view, PersistWorker.replacing, PersistWorker.writing, hrun]

/-- The rows read the stream with the event that was taken. -/
theorem ConversationInv.view_take {conversation : StoredConversation}
    (inv : ConversationInv conversation) (event : AcpSessionEvent) :
    ReadsOnce mergeChunk (conversation.history ++ [event])
      ((conversation.worker.take event).view conversation.rows) := by
  cases inv.worker.taken event with
  | continued run folded hrun hmerge htake =>
      have hviewed := inv.viewed
      rw [view_run hrun] at hviewed
      rw [htake, view_continued _ hrun]
      exact hviewed.merged hmerge
  | reopened run hrun hclean hapart hreplacing hwriting hrun' =>
      unfold PersistWorker.view
      rw [hreplacing, hwriting]
      simpa using inv.once.opened event
  | added hapart hreplacing hwriting hrun' =>
      unfold PersistWorker.view
      rw [hreplacing, hwriting, ← List.append_assoc]
      exact inv.viewed.opened event

/-- A row that takes a chunk is a chunk. -/
theorem chunk_of_merge {target next folded : AcpSessionEvent}
    (h : mergeChunk target next = some folded) : isTextChunk target.payload = true := by
  obtain ⟨taken, htaken, _⟩ := Option.map_eq_some_iff.mp h
  obtain ⟨kind, messageId, before, after, htarget, _⟩ := (append_text_chunk_spec htaken).text
  exact chunk_of_streamed htarget

/-- While no call has failed, the batch with the event taken makes the rows of the stream. -/
theorem ConversationInv.view_take_faithful {conversation : StoredConversation}
    (inv : ConversationInv conversation) (hfaithful : Faithful conversation)
    (event : AcpSessionEvent) :
    (conversation.worker.take event).view (foldStream mergeChunk conversation.persisted) =
      foldStream mergeChunk (conversation.history ++ [event]) := by
  rw [fold_stream_append_singleton]
  have hview := hfaithful.view
  cases inv.worker.taken event with
  | continued run folded hrun hmerge htake =>
      rw [htake, view_continued _ hrun, ← hview, view_run hrun, push_folded_merge hmerge]
  | reopened run hrun hclean hapart hreplacing hwriting hrun' =>
      have hlast : ∀ last ∈ (foldStream mergeChunk conversation.history).getLast?,
          mergeChunk last event = none := by
        intro last hlast
        rw [← hview, view_run hrun, List.getLast?_append_of_ne_nil _ (by simp)] at hlast
        cases hlast
        cases hchunk : isTextChunk event.payload with
        | true => exact hapart hchunk
        | false => exact merge_chunk_boundary hchunk
      rw [push_folded_open hlast, ← hfaithful.clean run hrun hclean]
      unfold PersistWorker.view
      rw [hreplacing, hwriting]
      simp
  | added hapart hreplacing hwriting hrun' =>
      have hlast : ∀ last ∈ (foldStream mergeChunk conversation.history).getLast?,
          mergeChunk last event = none := by
        intro last hlast
        cases hchunk : isTextChunk event.payload with
        | false => exact merge_chunk_boundary hchunk
        | true =>
            cases hrun : conversation.worker.run with
            | none =>
                have hboundary := hfaithful.idle hrun last hlast
                cases hmerge : mergeChunk last event with
                | none => rfl
                | some folded =>
                    exact absurd (chunk_of_merge hmerge) (by simp [hboundary])
            | some run =>
                rw [← hview, view_run hrun, List.getLast?_append_of_ne_nil _ (by simp)] at hlast
                cases hlast
                exact (hapart run hrun).2 hchunk
      rw [push_folded_open hlast, ← hview]
      unfold PersistWorker.view
      rw [hreplacing, hwriting, List.append_assoc]

/-- What is written with an event taken is within the limit of a row. -/
theorem ConversationInv.writes_take {conversation : StoredConversation}
    (inv : ConversationInv conversation) {event : AcpSessionEvent}
    (hsession : event.sessionId = conversation.sessionId)
    (hpayload : payloadBytes event.payload ≤ MAX_EVENT_BYTES)
    (hrow : payloadBytes (rowTaking conversation.worker event).payload ≤ MAX_EVENT_BYTES) :
    ∀ row ∈ (conversation.worker.take event).writing,
      payloadBytes row.payload ≤ MAX_EVENT_BYTES ∧ row.sessionId = conversation.sessionId := by
  have hwrites := inv.writes
  cases inv.worker.taken event with
  | continued run folded hrun hmerge htake =>
      intro row hmem
      rw [htake] at hmem
      simp only [PersistWorker.writing, Option.map_some, Option.toList_some, List.mem_append,
        List.mem_singleton] at hmem
      obtain hold | rfl := hmem
      · exact hwrites row (List.mem_append_left _ hold)
      · simp only [rowTaking, hrun, Option.bind_some, hmerge, Option.getD_some] at hrow
        obtain ⟨taken, htaken, rfl⟩ := Option.map_eq_some_iff.mp hmerge
        refine ⟨hrow, (append_text_chunk_spec htaken).sessionId.trans ?_⟩
        exact (hwrites run.event (by simp [PersistWorker.writing, hrun])).2
  | reopened run hrun hclean hapart hreplacing hwriting hrun' =>
      intro row hmem
      rw [hwriting, List.mem_singleton] at hmem
      rw [hmem]
      exact ⟨hpayload, hsession⟩
  | added hapart hreplacing hwriting hrun' =>
      intro row hmem
      rw [hwriting] at hmem
      obtain hold | hnew := List.mem_append.mp hmem
      · exact hwrites row hold
      · rw [List.mem_singleton.mp hnew]
        exact ⟨hpayload, hsession⟩

/-- With an event taken, the batch still replaces nothing but the last row. -/
theorem ReplacesLast.take {rows : List AcpSessionEvent} {worker : PersistWorker}
    (h : ReplacesLast rows worker) {event : AcpSessionEvent} (htaken : Taken worker event) :
    ReplacesLast rows (worker.take event) := by
  cases htaken with
  | continued run folded hrun hmerge htake =>
      have hreplacing : (worker.take event).replacing = worker.replacing := by
        rw [htake]
        simp [PersistWorker.replacing, hrun]
      obtain hnone | ⟨front, stored, first, more, hrows, hlast, hwriting, hsize⟩ := h
      · exact .inl (hreplacing.trans hnone)
      · have hwritten : (worker.take event).writing = worker.batch.writes ++ [folded] := by
          rw [htake]
          simp [PersistWorker.writing]
        have hgrows : payloadBytes run.event.payload ≤ payloadBytes folded.payload := by
          obtain ⟨taken, htaken, rfl⟩ := Option.map_eq_some_iff.mp hmerge
          exact (append_text_chunk_spec htaken).grows
        simp only [PersistWorker.writing, hrun, Option.map_some, Option.toList_some] at hwriting
        cases hwrites : worker.batch.writes with
        | nil =>
            rw [hwrites] at hwriting hwritten
            cases hwriting
            exact .inr ⟨front, stored, folded, [], hrows, hreplacing.trans hlast, hwritten,
              hsize.trans hgrows⟩
        | cons head rest =>
            rw [hwrites] at hwriting hwritten
            obtain ⟨hhead, _⟩ := List.cons.inj hwriting
            rw [← hhead] at hsize
            exact .inr ⟨front, stored, head, rest ++ [folded], hrows, hreplacing.trans hlast,
              hwritten, hsize⟩
  | reopened run hrun hclean hapart hreplacing hwriting hrun' => exact .inl hreplacing
  | added hapart hreplacing hwriting hrun' =>
      obtain hnone | ⟨front, stored, first, more, hrows, hlast, hwrites, hsize⟩ := h
      · exact .inl (hreplacing.trans hnone)
      · refine .inr ⟨front, stored, first, more ++ [event], hrows, hreplacing.trans hlast, ?_, hsize⟩
        rw [hwriting, hwrites]
        rfl

/-- Trimming before a call makes no difference after it. -/
theorem newest_view {rows : List AcpSessionEvent} {worker : PersistWorker}
    (h : ReplacesLast rows worker) (hincreasing : Increasing rows)
    (hsizes : ∀ row ∈ rows, payloadBytes row.payload ≤ MAX_EVENT_BYTES) :
    newestFitting persistFits (worker.view (newestFitting persistFits rows)) =
      newestFitting persistFits (worker.view rows) := by
  obtain ⟨dropped, hdropped⟩ := @newest_fitting_suffix _ persistFits rows
  obtain hnone | ⟨front, stored, first, more, hrows, hlast, hwriting, hsize⟩ := h
  · have hview : ∀ rows, worker.view rows = rows ++ worker.writing := by
      intro rows
      simp [PersistWorker.view, hnone]
    rw [hview, hview]
    conv_rhs => rw [hdropped]
    rw [List.append_assoc]
    refine (newest_fitting_again hdropped rfl ?_).symm
    intro before hbefore
    refine not_fits_more (by simp) ?_ hbefore
    simp [rowBytes]
  · -- the row that is replaced is the last, and is never trimmed
    obtain ⟨kept, hkept⟩ := newest_fitting_last
      (persist_fits_singleton (hsizes stored (by simp [hrows]))) front
    rw [← hrows] at hkept
    have hfront : front = dropped ++ kept := by
      rw [hkept, hrows, ← List.append_assoc] at hdropped
      exact List.append_inj_left' hdropped rfl
    have hapart : ∀ other ∈ front, other.sequence ≠ stored.sequence := by
      intro other hother
      rw [hrows] at hincreasing
      have hlt := (List.pairwise_append.mp hincreasing).2.2 other hother stored
        (List.mem_singleton.mpr rfl)
      omega
    have hview : ∀ part, (∀ other ∈ part, other ∈ front) →
        worker.view (part ++ [stored]) = part ++ (first :: more) := by
      intro part hpart
      unfold PersistWorker.view
      rw [hlast, hwriting, List.filter_append, List.filter_eq_self.mpr]
      · simp
      · intro other hother
        simpa using hapart other (hpart other hother)
    rw [hkept, hview kept fun other hother => hfront ▸ List.mem_append_right _ hother]
    conv_rhs => rw [hrows]
    rw [hview front fun _ hother => hother, hfront, List.append_assoc]
    have hsplit : rows = dropped ++ (kept ++ [stored]) := by
      rw [hrows, hfront, List.append_assoc]
    refine (newest_fitting_again hsplit hkept ?_).symm
    intro before hbefore
    refine not_fits_more (by simp) ?_ hbefore
    simp only [rowBytes, List.map_append, List.sum_append, List.map_cons, List.sum_cons,
      List.map_nil, List.sum_nil]
    omega

/-- The rows behind a finished batch whose open run is written. -/
theorem view_written (run : Option OpenRun) (rows : List AcpSessionEvent) :
    ({ run := run.map OpenRun.written } : PersistWorker).view rows =
      match run with
      | none => rows
      | some current =>
        (rows.filter fun row => row.sequence ≠ current.event.sequence) ++ [current.event] := by
  cases run with
  | none => exact view_idle rows
  | some current =>
      simp [PersistWorker.view, PersistWorker.replacing, PersistWorker.writing, OpenRun.written]

/-- A call that is not refused leaves the newest of the rows that its batch makes. -/
theorem persist_eq {sessionId : String} {worker : PersistWorker} {rows after : List AcpSessionEvent}
    (hwriting : worker.writing ≠ []) (hincreasing : Increasing (worker.view rows))
    (h : persistAgentAcpEventBatch sessionId {
      writes := worker.writing
      replaced := worker.replacing } rows = .ok after) :
    after = newestFitting persistFits (worker.view rows) := by
  unfold persistAgentAcpEventBatch at h
  rw [if_neg (by simpa using hwriting)] at h
  split at h
  · cases h
  · rw [← Except.ok.inj h, trim_eq, upsert_rows hincreasing]
    rfl

/-- Something is written with an event taken. -/
theorem Taken.writing_ne_nil {worker : PersistWorker} {event : AcpSessionEvent}
    (h : Taken worker event) : (worker.take event).writing ≠ [] := by
  cases h with
  | continued run folded hrun hmerge htake =>
      rw [htake]
      simp [PersistWorker.writing]
  | reopened run hrun hclean hapart hreplacing hwriting hrun' =>
      rw [hwriting]
      simp
  | added hapart hreplacing hwriting hrun' =>
      rw [hwriting]
      simp

/-- Without an open run, the event that was taken is written last. -/
theorem Taken.last {worker : PersistWorker} {event : AcpSessionEvent} (h : Taken worker event)
    (hrun : (worker.take event).run = none) :
    ∃ front, (worker.take event).writing = front ++ [event] := by
  cases h with
  | continued run folded hearlier hmerge htake =>
      rw [htake] at hrun
      cases hrun
  | reopened run hearlier hclean hapart hreplacing hwriting hrun' => exact ⟨[], hwriting⟩
  | added hapart hreplacing hwriting hrun' => exact ⟨_, hwriting⟩

/-- What a push does to everything but the worker and the rows. -/
structure Pushed (conversation after : StoredConversation) (event : AcpSessionEvent) : Prop where
  sessionId : after.sessionId = conversation.sessionId
  nextSequence : after.nextSequence = conversation.nextSequence + 1
  replay : after.replay = conversation.replay.push event (eventBytes event)
  history : after.history = conversation.history ++ [event]

/-- The worker goes on collecting with the event taken. -/
structure Collects (conversation after : StoredConversation) (taken : PersistWorker) : Prop where
  unfinished : taken.run ≠ none
  view : ∀ rows, after.worker.view rows = taken.view rows
  run : after.worker.run = taken.run
  consistent : after.worker.Consistent
  writing : after.worker.writing = taken.writing
  replaces : ∀ rows, ReplacesLast rows taken → ReplacesLast rows after.worker
  rows : after.rows = conversation.rows
  persisted : after.persisted = conversation.persisted
  failed : after.failed = conversation.failed

/-- The worker has finished its batch, with the event taken, by a call. -/
structure Finishes (after : StoredConversation) (taken : PersistWorker) : Prop where
  worker : after.worker = { run := taken.run.map OpenRun.written }
  persisted : after.persisted = after.history

/-- A push leaves the worker collecting, or finishes its batch by a call. -/
theorem push_cases {conversation : StoredConversation} (inv : ConversationInv conversation)
    (payload : AcpSessionEventPayload) (createdAt : String) (deadline lost : Bool) :
    Pushed conversation (conversation.step (.push payload createdAt deadline lost))
        (conversation.event payload createdAt) ∧
      let event := conversation.event payload createdAt
      let after := conversation.step (.push payload createdAt deadline lost)
      let taken := conversation.worker.take event
      Collects conversation after taken ∨
      (Finishes after taken ∧
        ((∃ error, conversation.call payload createdAt deadline lost = some ({
            writes := taken.writing
            replaced := taken.replacing }, .error error) ∧ after.rows = conversation.rows ∧
            after.failed = true) ∨
          (persistAgentAcpEventBatch conversation.sessionId {
            writes := taken.writing
            replaced := taken.replacing } conversation.rows = .ok after.rows ∧
            after.failed = conversation.failed))) := by
  have hpast : ∀ run previous, conversation.worker.run = some run →
      run.persistedSequence = some previous →
        previous < (conversation.event payload createdAt).sequence := inv.past
  have htaken := inv.worker.taken (conversation.event payload createdAt)
  have hconsistent := htaken.consistent hpast
  -- the event is collected, or the batch that it is in is written
  obtain ⟨requestCount, bytes, hrun, hreceive⟩ | hreceive := receive_cases htaken hconsistent deadline
  · have hcall : conversation.call payload createdAt deadline lost = none := by
      unfold StoredConversation.call
      rw [hreceive]
      rfl
    have hafter : conversation.step (.push payload createdAt deadline lost) = { conversation with
        nextSequence := conversation.nextSequence + 1
        replay := conversation.replay.push (conversation.event payload createdAt)
          (eventBytes (conversation.event payload createdAt))
        worker := { conversation.worker.take (conversation.event payload createdAt) with
          requestCount
          bytes }
        history := conversation.history ++ [conversation.event payload createdAt] } := by
      unfold StoredConversation.step
      simp only [hcall, hreceive]
    rw [hafter]
    exact ⟨⟨rfl, rfl, rfl, rfl⟩, .inl ⟨hrun, fun _ => rfl, rfl, hconsistent, rfl, fun _ h => h, rfl,
      rfl, rfl⟩⟩
  · have hworker : (conversation.worker.receive (conversation.event payload createdAt) deadline).1 =
        { run := (conversation.worker.take (conversation.event payload createdAt)).run.map
            OpenRun.written } := by
      rw [hreceive]
    cases hcall : conversation.call payload createdAt deadline lost with
    | none =>
        unfold StoredConversation.call at hcall
        rw [hreceive] at hcall
        cases hcall
    | some made =>
        obtain ⟨batch, outcome⟩ := made
        have hmade := hcall
        unfold StoredConversation.call at hmade
        rw [hreceive, Option.map_some, Option.some.injEq, Prod.mk.injEq] at hmade
        obtain ⟨rfl, houtcome⟩ := hmade
        cases outcome with
        | error error =>
            -- a failed call leaves the rows, and the worker forgets the batch
            have hafter : conversation.step (.push payload createdAt deadline lost) =
                { conversation with
                  nextSequence := conversation.nextSequence + 1
                  replay := conversation.replay.push (conversation.event payload createdAt)
                    (eventBytes (conversation.event payload createdAt))
                  worker := { run := (conversation.worker.take
                    (conversation.event payload createdAt)).run.map OpenRun.written }
                  history := conversation.history ++ [conversation.event payload createdAt]
                  persisted := conversation.history ++ [conversation.event payload createdAt]
                  failed := true } := by
              unfold StoredConversation.step
              simp only [hcall, hworker]
            rw [hafter]
            exact ⟨⟨rfl, rfl, rfl, rfl⟩, .inr ⟨⟨rfl, rfl⟩, .inl ⟨error, rfl, rfl, rfl⟩⟩⟩
        | ok rows =>
            have hafter : conversation.step (.push payload createdAt deadline lost) =
                { conversation with
                  nextSequence := conversation.nextSequence + 1
                  replay := conversation.replay.push (conversation.event payload createdAt)
                    (eventBytes (conversation.event payload createdAt))
                  worker := { run := (conversation.worker.take
                    (conversation.event payload createdAt)).run.map OpenRun.written }
                  history := conversation.history ++ [conversation.event payload createdAt]
                  rows
                  persisted := conversation.history ++ [conversation.event payload createdAt] } := by
              unfold StoredConversation.step
              simp only [hcall, hworker]
            rw [hafter]
            refine ⟨⟨rfl, rfl, rfl, rfl⟩, .inr ⟨⟨rfl, rfl⟩, .inr ⟨?_, rfl⟩⟩⟩
            split at houtcome
            · cases houtcome
            · exact houtcome

/-- The stream with a pushed event increases. -/
theorem ConversationInv.increasing_push {conversation : StoredConversation}
    (inv : ConversationInv conversation) (payload : AcpSessionEventPayload) (createdAt : String) :
    Increasing (conversation.history ++ [conversation.event payload createdAt]) := by
  refine List.pairwise_append.mpr ⟨inv.increasing, List.pairwise_singleton _ _, ?_⟩
  intro first hfirst second hsecond
  rw [List.mem_singleton.mp hsecond]
  exact inv.fresh first hfirst

/-- The rows behind a finished batch are among those that it made. -/
theorem view_written_sublist {worker : PersistWorker} {rows kept : List AcpSessionEvent}
    (hkept : kept.Sublist (rows.filter fun row => row.sequence ∉ worker.replacing) ∨
      kept.Sublist (worker.view rows)) :
    (({ run := worker.run.map OpenRun.written } : PersistWorker).view kept).Sublist
      (worker.view rows) := by
  rw [view_written]
  have hpart : kept.Sublist (worker.view rows) := by
    obtain hbefore | hafter := hkept
    · exact hbefore.trans (List.sublist_append_left _ _)
    · exact hafter
  cases hrun : worker.run with
  | none => exact hpart
  | some run =>
      have hview := view_run hrun rows
      rw [hview] at hpart ⊢
      refine List.Sublist.append ?_ (List.Sublist.refl _)
      -- all rows but the last have another sequence
      have hfilter := hpart.filter fun row => decide (row.sequence ≠ run.event.sequence)
      refine hfilter.trans ?_
      rw [List.filter_append]
      have hlast : [run.event].filter
          (fun row => decide (row.sequence ≠ run.event.sequence)) = [] := by
        simp
      rw [hlast, List.append_nil]
      exact List.filter_sublist

/-! ### What every push keeps -/

section

variable {conversation after : StoredConversation} {event : AcpSessionEvent}

/-- The history after a push is the one before it and the event. -/
theorem Pushed.mem_history (hpushed : Pushed conversation after event) {other : AcpSessionEvent}
    (h : other ∈ after.history) : other ∈ conversation.history ∨ other = event := by
  rw [hpushed.history] at h
  obtain hold | hnew := List.mem_append.mp h
  · exact .inl hold
  · exact .inr (List.mem_singleton.mp hnew)

/-- Every event is one of the session. -/
theorem Pushed.session (hpushed : Pushed conversation after event)
    (inv : ConversationInv conversation) (hevent : event.sessionId = conversation.sessionId) :
    ∀ other ∈ after.history, other.sessionId = after.sessionId := by
  intro other hother
  rw [hpushed.sessionId]
  obtain hold | rfl := hpushed.mem_history hother
  · exact inv.session other hold
  · exact hevent

/-- Every event comes before the next sequence. -/
theorem Pushed.fresh (hpushed : Pushed conversation after event) (inv : ConversationInv conversation)
    (hevent : event.sequence = conversation.nextSequence) :
    ∀ other ∈ after.history, other.sequence < after.nextSequence := by
  intro other hother
  rw [hpushed.nextSequence]
  obtain hold | rfl := hpushed.mem_history hother
  · exact Nat.lt_succ_of_lt (inv.fresh other hold)
  · rw [hevent]
    exact Nat.lt_succ_self _

/-- The replay is the one of the history. -/
theorem Pushed.replays (hpushed : Pushed conversation after event)
    (inv : ConversationInv conversation) : after.replay = .fromEvents after.history := by
  rw [hpushed.replay, hpushed.history, inv.replay]
  simp [ReplayBuffer.fromEvents]

/-- Every event is within the limit of the replay. -/
theorem Pushed.bytes (hpushed : Pushed conversation after event) (inv : ConversationInv conversation)
    (hevent : eventBytes event ≤ MAX_REPLAY_BYTES) :
    ∀ other ∈ after.history, eventBytes other ≤ MAX_REPLAY_BYTES := by
  intro other hother
  obtain hold | rfl := hpushed.mem_history hother
  · exact inv.bytes other hold
  · exact hevent

/-- The rows of the stream so far are within the limit of a row. -/
theorem Pushed.sizes (hpushed : Pushed conversation after event) (inv : ConversationInv conversation)
    (hfaithful : Faithful conversation)
    (hwrites : ∀ row ∈ (conversation.worker.take event).writing,
      payloadBytes row.payload ≤ MAX_EVENT_BYTES) :
    ∀ row ∈ foldStream mergeChunk after.history, payloadBytes row.payload ≤ MAX_EVENT_BYTES := by
  intro row hrow
  rw [hpushed.history, ← inv.view_take_faithful hfaithful] at hrow
  obtain hold | hnew := List.mem_append.mp hrow
  · exact hfaithful.sizes row (List.mem_filter.mp hold).1
  · exact hwrites row hnew

/-! ### A push that is collected -/

/-- Faithful rows stay so while the worker goes on collecting. -/
theorem Collects.faithful (hcollects : Collects conversation after (conversation.worker.take event))
    (hpushed : Pushed conversation after event) (inv : ConversationInv conversation)
    (hfaithful : Faithful conversation) : Faithful after where
  rows := by rw [hcollects.rows, hcollects.persisted, hfaithful.rows]
  view := by
    rw [hcollects.view, hcollects.persisted, hpushed.history]
    exact inv.view_take_faithful hfaithful event
  replaces := by
    rw [hcollects.persisted]
    exact hcollects.replaces _ (hfaithful.replaces.take (inv.worker.taken event))
  clean := by
    -- an open run that has taken an event is not clean
    intro run hrun hclean
    rw [hcollects.run] at hrun
    rw [(inv.worker.taken event).dirty hrun] at hclean
    cases hclean
  idle := by
    intro hnone
    rw [hcollects.run] at hnone
    exact absurd hnone hcollects.unfinished
  sizes := by
    rw [hcollects.persisted]
    exact hfaithful.sizes
  persisted := by
    obtain ⟨later, hlater⟩ := hfaithful.persisted
    rw [hcollects.persisted, hpushed.history, hlater]
    exact ⟨later ++ [event], by simp⟩

/-! ### A push that finishes the batch -/

/-- The worker has written its open run. -/
theorem Finishes.consistent {taken : PersistWorker} (hfinishes : Finishes after taken) :
    after.worker.Consistent := by
  rw [hfinishes.worker]
  intro run hrun
  obtain ⟨earlier, -, rfl⟩ := Option.map_eq_some_iff.mp hrun
  exact ⟨fun _ => ⟨rfl, rfl⟩, fun hdirty => by cases hdirty⟩

/-- The sequence of the open run comes before the next one. -/
theorem Finishes.past (hfinishes : Finishes after (conversation.worker.take event))
    (hpushed : Pushed conversation after event) (inv : ConversationInv conversation)
    (hfresh : ∀ other ∈ after.history, other.sequence < after.nextSequence) :
    ∀ run previous, after.worker.run = some run → run.persistedSequence = some previous →
      previous < after.nextSequence := by
  intro run previous hrun hprevious
  rw [hfinishes.worker] at hrun
  obtain ⟨earlier, hearlier, rfl⟩ := Option.map_eq_some_iff.mp hrun
  cases hprevious
  have hlast : earlier.event ∈ (conversation.worker.take event).view conversation.rows := by
    rw [view_run hearlier]
    exact List.mem_append_right _ (List.mem_singleton.mpr rfl)
  obtain ⟨segments, hsegments, hflatten⟩ :=
    (inv.view_take event).sublist (List.singleton_sublist.mpr hlast)
  obtain ⟨segment, rfl, hfolds⟩ := rows_of_singleton hsegments
  obtain ⟨item, hitem, hkey⟩ := folds_key_mem merge_chunk_sequence hfolds
  rw [← hkey]
  refine hfresh item ?_
  rw [hpushed.history]
  exact hflatten.subset (by simpa using hitem)

/-- What is still to be written was to be written before. -/
theorem Finishes.writes (hfinishes : Finishes after (conversation.worker.take event))
    (hpushed : Pushed conversation after event)
    (hwrites : ∀ row ∈ (conversation.worker.take event).writing,
      payloadBytes row.payload ≤ MAX_EVENT_BYTES ∧ row.sessionId = conversation.sessionId) :
    ∀ row ∈ after.worker.writing,
      payloadBytes row.payload ≤ MAX_EVENT_BYTES ∧ row.sessionId = after.sessionId := by
  intro row hwritten
  rw [hfinishes.worker] at hwritten
  simp only [PersistWorker.writing, List.nil_append, Option.mem_toList] at hwritten
  obtain ⟨run, hrun, rfl⟩ := Option.map_eq_some_iff.mp hwritten
  obtain ⟨earlier, hearlier, rfl⟩ := Option.map_eq_some_iff.mp hrun
  rw [hpushed.sessionId]
  refine hwrites _ ?_
  simp [PersistWorker.writing, hearlier, OpenRun.written]

/-- The rows that a worker with a written run makes of the stream are those of the stream. -/
theorem view_written_stream {worker : PersistWorker} {rows stream : List AcpSessionEvent}
    (hview : worker.view rows = stream) (hincreasing : Increasing stream) :
    ({ run := worker.run.map OpenRun.written } : PersistWorker).view stream = stream := by
  subst hview
  rw [view_written]
  cases hrun : worker.run with
  | none => rfl
  | some run =>
      rw [view_run hrun] at hincreasing ⊢
      simp only
      -- all rows but the last come before it
      rw [List.filter_append, List.filter_eq_self.mpr]
      · simp
      · intro other hother
        have hlt := (List.pairwise_append.mp hincreasing).2.2 other hother run.event
          (List.mem_singleton.mpr rfl)
        simp only [decide_eq_true_eq, ne_eq]
        omega

/-- A worker with a written run replaces the last row of the stream by itself. -/
theorem replaces_written {worker : PersistWorker} {rows stream : List AcpSessionEvent}
    (hview : worker.view rows = stream) :
    ReplacesLast stream { run := worker.run.map OpenRun.written } := by
  subst hview
  cases hrun : worker.run with
  | none => exact .inl rfl
  | some run =>
      exact .inr ⟨_, run.event, run.event, [], view_run hrun _, rfl, rfl, Nat.le_refl _⟩

/-- The rows are faithful after a call that stored its batch. -/
theorem Finishes.faithful (hfinishes : Finishes after (conversation.worker.take event))
    (hpushed : Pushed conversation after event) (inv : ConversationInv conversation)
    (hfaithful : Faithful conversation)
    (hwrites : ∀ row ∈ (conversation.worker.take event).writing,
      payloadBytes row.payload ≤ MAX_EVENT_BYTES)
    (hincreasing : Increasing (conversation.history ++ [event]))
    (hnewest : after.rows =
      newestFitting persistFits ((conversation.worker.take event).view conversation.rows)) :
    Faithful after := by
  have htaken := inv.worker.taken event
  have hstream := inv.view_take_faithful hfaithful event
  have hbefore : Increasing (foldStream mergeChunk conversation.persisted) := by
    obtain ⟨later, hlater⟩ := hfaithful.persisted
    have hhistory := inv.increasing
    rw [hlater] at hhistory
    exact (@fold_stream_reads _ mergeChunk conversation.persisted).increasing merge_chunk_sequence
      (List.pairwise_append.mp hhistory).1
  have hafter : Increasing (foldStream mergeChunk (conversation.history ++ [event])) :=
    (@fold_stream_reads _ mergeChunk _).increasing merge_chunk_sequence hincreasing
  exact {
    rows := by
      rw [hnewest, hfaithful.rows, newest_view (hfaithful.replaces.take htaken) hbefore
        hfaithful.sizes, hstream, hfinishes.persisted, hpushed.history]
    view := by
      rw [hfinishes.worker, hfinishes.persisted, hpushed.history]
      exact view_written_stream hstream hafter
    replaces := by
      rw [hfinishes.worker, hfinishes.persisted, hpushed.history]
      exact replaces_written hstream
    clean := fun _ _ _ => by rw [hfinishes.persisted]
    idle := by
      intro hnone last hlast
      rw [hfinishes.worker, Option.map_eq_none_iff] at hnone
      obtain ⟨front, hfront⟩ := htaken.last hnone
      rw [hpushed.history, ← hstream] at hlast
      unfold PersistWorker.view at hlast
      rw [hfront, ← List.append_assoc, List.getLast?_append_of_ne_nil _ (by simp)] at hlast
      cases hlast
      exact boundary_of_take hnone
    sizes := by
      rw [hfinishes.persisted]
      exact hpushed.sizes inv hfaithful hwrites
    persisted := ⟨[], by rw [hfinishes.persisted, List.append_nil]⟩ }

end

/-- A push that meets the condition keeps the invariant. -/
theorem ConversationInv.push {conversation : StoredConversation}
    (inv : ConversationInv conversation) {payload : AcpSessionEventPayload} {createdAt : String}
    {deadline lost : Bool}
    (hsound : PersistSound conversation (.push payload createdAt deadline lost)) :
    ConversationInv (conversation.step (.push payload createdAt deadline lost)) := by
  obtain ⟨hpayload, hbytes, hrow, hrefused⟩ := hsound
  have hincreasing := inv.increasing_push payload createdAt
  have hview := inv.view_take (conversation.event payload createdAt)
  have hwrites := inv.writes_take rfl hpayload hrow
  have hpast : ∀ run previous, conversation.worker.run = some run →
      run.persistedSequence = some previous →
        previous < (conversation.event payload createdAt).sequence := inv.past
  have htaken := inv.worker.taken (conversation.event payload createdAt)
  obtain ⟨hpushed, hcases⟩ := push_cases inv payload createdAt deadline lost
  generalize conversation.step (.push payload createdAt deadline lost) = after at hpushed hcases ⊢
  have hfresh := hpushed.fresh inv rfl
  obtain hcollects | ⟨hfinishes, hcalled⟩ := hcases
  · exact {
      session := hpushed.session inv rfl
      increasing := hpushed.history ▸ hincreasing
      fresh := hfresh
      replay := hpushed.replays inv
      bytes := hpushed.bytes inv hbytes
      worker := hcollects.consistent
      past := by
        intro run previous hrun hprevious
        rw [hcollects.run] at hrun
        rw [hpushed.nextSequence]
        exact Nat.lt_succ_of_lt (htaken.past hpast hrun hprevious).1
      writes := by
        rw [hcollects.writing, hpushed.sessionId]
        exact hwrites
      once := by
        rw [hpushed.history, hcollects.rows]
        exact inv.once.more _
      viewed := by
        rw [hpushed.history, hcollects.rows, hcollects.view]
        exact hview
      faithful := by
        intro hunfailed
        rw [hcollects.failed] at hunfailed
        exact hcollects.faithful hpushed inv (inv.faithful hunfailed) }
  -- whether the call stored its batch decides only about the rows
  · have hrows : ReadsOnce mergeChunk after.history after.rows ∧
        ReadsOnce mergeChunk after.history (after.worker.view after.rows) ∧
        (after.failed = false → Faithful after) := by
      rw [hpushed.history, hfinishes.worker]
      obtain ⟨error, hcall, hrows, hfailed⟩ | ⟨hcall, hfailed⟩ := hcalled
      · have hunreplaced : conversation.rows.filter (fun row => row.sequence ∉
            (conversation.worker.take (conversation.event payload createdAt)).replacing) =
            conversation.rows := by
          refine List.filter_eq_self.mpr ?_
          intro row hrowMem
          simpa using hrefused _ _ hcall row hrowMem
        rw [hrows, hfailed]
        refine ⟨inv.once.more _, hview.sublist (view_written_sublist (.inl ?_)), nofun⟩
        rw [hunreplaced]
      · have hnewest := persist_eq htaken.writing_ne_nil
          (hview.increasing merge_chunk_sequence hincreasing) hcall
        have hsub : after.rows.Sublist
            ((conversation.worker.take (conversation.event payload createdAt)).view
              conversation.rows) := by
          rw [hnewest]
          exact newest_fitting_sublist _
        refine ⟨hview.sublist hsub, hview.sublist (view_written_sublist (.inr hsub)), ?_⟩
        intro hunfailed
        rw [hfailed] at hunfailed
        exact hfinishes.faithful hpushed inv (inv.faithful hunfailed)
          (fun row hwritten => (hwrites row hwritten).1) hincreasing hnewest
    exact {
      session := hpushed.session inv rfl
      increasing := hpushed.history ▸ hincreasing
      fresh := hfresh
      replay := hpushed.replays inv
      bytes := hpushed.bytes inv hbytes
      worker := hfinishes.consistent
      past := hfinishes.past hpushed inv hfresh
      writes := hfinishes.writes hpushed hwrites
      once := hrows.1
      viewed := hrows.2.1
      faithful := hrows.2.2 }

/-- Every step that meets the condition keeps the invariant. -/
theorem ConversationInv.step {conversation : StoredConversation}
    (inv : ConversationInv conversation) (step : ConversationStep)
    (hsound : PersistSound conversation step) : ConversationInv (conversation.step step) := by
  cases step with
  | push payload createdAt deadline lost => exact inv.push hsound
  | focus afterSequence => exact inv
  | storedFocus afterSequence => exact inv

/-- The invariant holds at first. -/
theorem LeftRows.inv {sessionId : String} {rows : List AcpSessionEvent}
    (h : LeftRows sessionId rows) : ConversationInv (.start sessionId rows) where
  session := h.session
  increasing := h.increasing
  fresh := by
    intro event hevent
    show event.sequence < ((rows.getLast?.map (·.sequence)).getD 0) + 1
    cases hlast : rows.getLast? with
    | none =>
        have hempty : event ∈ rows := hevent
        rw [List.getLast?_eq_none_iff.mp hlast] at hempty
        cases hempty
    | some last =>
        obtain ⟨front, hfront⟩ := List.getLast?_eq_some_iff.mp hlast
        have hmem : event ∈ front ++ [last] := hfront ▸ hevent
        have hincreasing := h.increasing
        rw [hfront] at hincreasing
        obtain hold | hnew := List.mem_append.mp hmem
        · have hlt := (List.pairwise_append.mp hincreasing).2.2 event hold last
            (List.mem_singleton.mpr rfl)
          exact Nat.lt_succ_of_lt hlt
        · rw [List.mem_singleton.mp hnew]
          exact Nat.lt_succ_self _
  replay := rfl
  bytes := h.bytes
  worker := fun run hrun => by cases hrun
  past := fun run previous hrun => by cases hrun
  writes := fun row hrow => by cases hrow
  once := by
    have hreads := @fold_stream_reads _ mergeChunk rows
    rw [h.folded] at hreads
    exact hreads
  viewed := by
    have hreads := @fold_stream_reads _ mergeChunk rows
    rw [h.folded] at hreads
    exact (view_idle rows).symm ▸ hreads
  faithful := fun _ => {
    rows := by
      show rows = newestFitting persistFits (foldStream mergeChunk rows)
      rw [h.folded, newest_fitting_of_fits h.fits]
    view := view_idle _
    replaces := .inl rfl
    clean := fun run hrun => by cases hrun
    idle := by
      intro _ last hlast
      have hrows : (foldStream mergeChunk rows).getLast? = some last := hlast
      rw [h.folded] at hrows
      exact h.ended last hrows
    sizes := by
      intro row hrow
      have hrows : row ∈ foldStream mergeChunk rows := hrow
      rw [h.folded] at hrows
      exact h.payload row hrows
    persisted := ⟨[], (List.append_nil _).symm⟩ }

/-! ## Laws of a run -/

/-- What holds of a session over a run: the stored rows read what was pushed at most once and in its
order, no call is refused for a size, the rows are the newest of the folded stream while no call has
failed, and a focus that is not marked truncated has lost nothing. -/
structure ConversationLaws (start : StoredConversation) (steps : List ConversationStep) : Prop where
  once : ∀ before rest, steps = before ++ rest →
    let conversation := run StoredConversation.step start before
    ReadsOnce mergeChunk conversation.history conversation.rows
  sized : ∀ before payload createdAt deadline lost rest,
    steps = before ++ .push payload createdAt deadline lost :: rest →
    let conversation := run StoredConversation.step start before
    ∀ batch, conversation.call payload createdAt deadline lost ≠
      some (batch, .error .replayLimit)
  newest : ∀ before rest, steps = before ++ rest →
    let conversation := run StoredConversation.step start before
    conversation.failed = false → conversation.rows =
      newestFitting persistFits (foldStream mergeChunk conversation.persisted)
  focus : ∀ before afterSequence rest, steps = before ++ .focus afterSequence :: rest →
    let conversation := run StoredConversation.step start before
    (conversation.replay.focus afterSequence).replayTruncated = false →
    FocusComplete conversation.history afterSequence
      (conversation.replay.focus afterSequence).events
  storedFocus : ∀ before afterSequence rest, steps = before ++ .storedFocus afterSequence :: rest →
    let conversation := run StoredConversation.step start before
    (focusAgentAcpSession conversation.rows afterSequence).replayTruncated = false →
    FocusComplete conversation.persisted afterSequence
      (focusAgentAcpSession conversation.rows afterSequence).events

/-- What is written is never refused for its size. -/
theorem ConversationInv.not_refused {conversation : StoredConversation}
    (inv : ConversationInv conversation) {payload : AcpSessionEventPayload} {createdAt : String}
    {deadline lost : Bool}
    (hsound : PersistSound conversation (.push payload createdAt deadline lost))
    (batch : PersistBatch) : conversation.call payload createdAt deadline lost ≠
      some (batch, .error .replayLimit) := by
  intro hcall
  obtain ⟨hpayload, _, hrow, _⟩ := hsound
  have hwrites := @ConversationInv.writes_take _ inv (conversation.event payload createdAt) rfl
    hpayload hrow
  have htaken := inv.worker.taken (conversation.event payload createdAt)
  unfold StoredConversation.call at hcall
  obtain ⟨made, hmade, houtcome⟩ := Option.map_eq_some_iff.mp hcall
  have hbatch : made = {
      writes := (conversation.worker.take (conversation.event payload createdAt)).writing
      replaced := (conversation.worker.take (conversation.event payload createdAt)).replacing } := by
    obtain ⟨requestCount, bytes, _, hreceive⟩ | hreceive := receive_cases htaken
      (htaken.consistent inv.past) deadline
    · rw [hreceive] at hmade
      cases hmade
    · rw [hreceive] at hmade
      exact (Option.some.inj hmade).symm
  have hresult := congrArg Prod.snd houtcome
  simp only at hresult
  split at hresult
  · cases hresult
  · unfold persistAgentAcpEventBatch at hresult
    split at hresult
    · cases hresult
    · split at hresult
      · next error hcheck =>
          cases hresult
          unfold checkBatch at hcheck
          split at hcheck
          · cases hcheck
          · obtain ⟨event, hevent, hfound⟩ := List.exists_of_findSome?_eq_some hcheck
            rw [hbatch] at hevent
            split at hfound
            · cases hfound
            · split at hfound
              · next hsize => exact absurd (hwrites event hevent).1 (Nat.not_le_of_lt hsize)
              · split at hfound
                · cases hfound
                · cases hfound
      · cases hresult

/-- A stored focus that meets the condition has lost nothing when it is not marked truncated. -/
theorem ConversationInv.stored_focus {conversation : StoredConversation}
    (inv : ConversationInv conversation) {afterSequence : Option Nat}
    (hsound : PersistSound conversation (.storedFocus afterSequence))
    (huntruncated : (focusAgentAcpSession conversation.rows afterSequence).replayTruncated = false) :
    FocusComplete conversation.persisted afterSequence
      (focusAgentAcpSession conversation.rows afterSequence).events := by
  obtain ⟨hunfailed, habsent⟩ := hsound
  have hfaithful := inv.faithful hunfailed
  obtain ⟨dropped, hdropped⟩ := @newest_fitting_suffix _ persistFits
    (foldStream mergeChunk conversation.persisted)
  have hincreasing : Increasing conversation.persisted := by
    obtain ⟨later, hlater⟩ := hfaithful.persisted
    have hhistory := inv.increasing
    rw [hlater] at hhistory
    exact (List.pairwise_append.mp hhistory).1
  refine focus_complete hincreasing (hfaithful.rows ▸ hdropped) ?_ ?_ huntruncated
  · intro hnonempty hrows
    have hnewest := hfaithful.rows
    obtain hnil | ⟨front, last, hfold⟩ :=
      List.eq_nil_or_concat (foldStream mergeChunk conversation.persisted)
    · obtain ⟨segments, hsegments, hflatten⟩ :=
        @fold_stream_rows _ mergeChunk conversation.persisted
      rw [hnil] at hsegments
      cases hsegments
      exact hnonempty hflatten.symm
    · obtain ⟨kept, hkept⟩ := @newest_fitting_last _ persistFits last
        (persist_fits_singleton (hfaithful.sizes last (by simp [hfold]))) front
      rw [hfold, List.concat_eq_append] at hnewest
      rw [hnewest, hkept] at hrows
      simp at hrows
  · intro hnone
    rw [newest_fitting_of_fits (habsent hnone)] at hdropped
    have hlength := congrArg List.length hdropped
    rw [List.length_append] at hlength
    exact List.eq_nil_of_length_eq_zero (by omega)

/-- In every run that meets the condition, a stored conversation holds each text once. -/
theorem stored_once (sessionId : String) (rows : List AcpSessionEvent)
    (steps : List ConversationStep) (hrows : LeftRows sessionId rows)
    (hsound : EachCall StoredConversation.step PersistSound (.start sessionId rows) steps) :
    ConversationLaws (.start sessionId rows) steps := by
  have hinv : ∀ before rest, steps = before ++ rest →
      ConversationInv (run StoredConversation.step (.start sessionId rows) before) := by
    intro before rest hsteps
    rw [hsteps] at hsound
    exact run_invariant_of hrows.inv (fun _ step inv => inv.step step)
      (each_call_of_append hsound).1
  have hnext : ∀ before step rest, steps = before ++ step :: rest →
      PersistSound (run StoredConversation.step (.start sessionId rows) before) step := by
    intro before step rest hsteps
    rw [hsteps] at hsound
    exact (each_call_of_append hsound).2.1
  exact {
    once := fun before rest hsteps => (hinv before rest hsteps).once
    sized := fun before payload createdAt deadline lost rest hsteps =>
      (hinv before _ hsteps).not_refused (hnext before _ rest hsteps)
    newest := fun before rest hsteps hunfailed =>
      ((hinv before rest hsteps).faithful hunfailed).rows
    focus := by
      intro before afterSequence rest hsteps conversation huntruncated
      have inv := hinv before _ hsteps
      have hsoundFocus := hnext before _ rest hsteps
      have hreplay : conversation.replay = .fromEvents conversation.history := inv.replay
      rw [hreplay] at huntruncated ⊢
      exact live_focus_complete inv.increasing inv.bytes hsoundFocus huntruncated
    storedFocus := fun before afterSequence rest hsteps =>
      (hinv before _ hsteps).stored_focus (hnext before _ rest hsteps) }

/-! ## A rewrite that fails -/

/-- A chunk of an answer. -/
def answerChunk (text : String) : AcpSessionEventPayload :=
  .sessionUpdate (.obj [("sessionUpdate", .str "agent_message_chunk"),
    ("content", .obj [("type", .str "text"), ("text", .str text)])])

/-- A session without rows. -/
theorem left_no_rows (sessionId : String) : LeftRows sessionId [] where
  session := fun row hrow => by cases hrow
  increasing := .nil
  folded := rfl
  fits := rfl
  payload := fun row hrow => by cases hrow
  bytes := fun row hrow => by cases hrow
  ended := fun last hlast => by cases hlast

/-- A push meets the condition when nothing is over a limit and its call succeeds. -/
theorem sound_of_accepted {conversation : StoredConversation} {payload : AcpSessionEventPayload}
    {createdAt : String} {deadline lost : Bool}
    (hsizes : payloadBytes payload ≤ MAX_EVENT_BYTES ∧
      eventBytes (conversation.event payload createdAt) ≤ MAX_REPLAY_BYTES ∧
      payloadBytes (rowTaking conversation.worker
        (conversation.event payload createdAt)).payload ≤ MAX_EVENT_BYTES)
    (hcall : ((conversation.call payload createdAt deadline lost).all fun made =>
      made.2.toOption.isSome) = true) :
    PersistSound conversation (.push payload createdAt deadline lost) := by
  refine ⟨hsizes.1, hsizes.2.1, hsizes.2.2, ?_⟩
  intro batch error herror
  rw [herror] at hcall
  cases hcall

/-- An answer in two batches, and a focus of each kind. -/
def answeredSteps : List ConversationStep :=
  [.push (answerChunk "a") "t1" true false, .push (answerChunk "b") "t2" true false,
    .push (.turnEnd "end_turn") "t3" false false, .focus none, .storedFocus none]

set_option maxRecDepth 100000 in
/-- The answer is stored as one row. -/
theorem answered_stored_once :
    ConversationLaws (.start "session-1" []) answeredSteps ∧
      (run StoredConversation.step (.start "session-1" []) answeredSteps).rows.map (·.sequence) =
        [2, 3] := by
  refine ⟨stored_once "session-1" [] answeredSteps (left_no_rows _) ⟨?_, ?_, ?_, ?_, ?_, trivial⟩, ?_⟩
  · exact sound_of_accepted (by decide) (by decide)
  · exact sound_of_accepted (by decide) (by decide)
  · exact sound_of_accepted (by decide) (by decide)
  · exact fun _ => by decide
  · exact ⟨by decide, fun _ => by decide⟩
  · decide

/-- The length of the text that an event streams. -/
def streamedLength (event : AcpSessionEvent) : Nat :=
  ((streamedText event.payload).map fun streamed => streamed.2.2.length).getD 0

/-- A fold adds up the lengths of the texts. -/
theorem streamed_length_merge (row item row' : AcpSessionEvent)
    (h : mergeChunk row item = some row') :
    streamedLength row' = streamedLength row + streamedLength item := by
  obtain ⟨taken, htaken, rfl⟩ := Option.map_eq_some_iff.mp h
  obtain ⟨kind, messageId, before, after, hbefore, hafter, hfolded, _⟩ :=
    (append_text_chunk_spec htaken).text
  simp [streamedLength, hbefore, hafter, hfolded]

/-- The second call of an answer fails, and the third succeeds. -/
def lostRewrite : List ConversationStep :=
  [.push (answerChunk "a") "t1" true false, .push (answerChunk "b") "t2" true true,
    .push (answerChunk "c") "t3" true false]

set_option maxRecDepth 100000 in
/-- After a rewrite that failed, the next one replaces a row that was never stored and leaves the
one that was: the stored conversation holds the beginning of the answer twice. -/
theorem lost_rewrite_stores_twice :
    LeftRows "session-1" [] ∧ ¬ConversationLaws (.start "session-1" []) lostRewrite := by
  refine ⟨left_no_rows _, ?_⟩
  intro hlaws
  have hreads := hlaws.once lostRewrite [] rfl
  have hlength := hreads.measure_le streamedLength streamed_length_merge
  revert hlength
  decide

end Dopedb.Agents
