import Dopedb.Agents.SessionEvents

/-!
# The replay of a live conversation

`ReplayBuffer` and the focus of `acp_session.rs`. `ReplayOf` says that the buffer is the newest part
of the folded stream, which is what a focus gives.
-/

namespace Dopedb.Agents

open Library

/-- `MAX_REPLAY_EVENTS`. -/
def MAX_REPLAY_EVENTS : Nat := 512

/-- `MAX_REPLAY_BYTES`. -/
def MAX_REPLAY_BYTES : Nat := 4 * 1024 * 1024

/-- An event of the replay with its bytes. -/
structure ReplayEvent where
  event : AcpSessionEvent
  bytes : Nat
  deriving DecidableEq

/-- `ReplayBuffer`. -/
structure ReplayBuffer where
  events : List ReplayEvent := []
  bytes : Nat := 0
  deriving DecidableEq

/-- An entry that takes a chunk. -/
def mergeReplay (last item : ReplayEvent) : Option ReplayEvent :=
  (appendTextChunk last.event item.event).map fun taken =>
    { event := taken.1
      bytes := last.bytes + taken.2 }

/-- The loop that evicts the oldest entries. -/
def evict : List ReplayEvent → Nat → ReplayBuffer
  | [], bytes => { bytes := if bytes > MAX_REPLAY_BYTES then 0 else bytes }
  | oldest :: rest, bytes =>
    if (oldest :: rest).length > MAX_REPLAY_EVENTS || bytes > MAX_REPLAY_BYTES then
      evict rest (bytes - oldest.bytes)
    else
      { events := oldest :: rest
        bytes }

/-- `ReplayBuffer::push`. -/
def ReplayBuffer.push (buffer : ReplayBuffer) (event : AcpSessionEvent) (bytes : Nat) :
    ReplayBuffer :=
  match buffer.events.getLast?.bind fun last => appendTextChunk last.event event with
  | some (folded, added) =>
    { events := buffer.events.dropLast ++ (buffer.events.getLast?.map fun last =>
        { event := folded
          bytes := last.bytes + added }).toList
      bytes := buffer.bytes + added }
  | none =>
    evict (buffer.events ++ [{
      event
      bytes }]) (buffer.bytes + bytes)

/-- `ReplayBuffer::from_events`. -/
def ReplayBuffer.fromEvents (events : List AcpSessionEvent) : ReplayBuffer :=
  events.foldl (fun buffer event => buffer.push event (eventBytes event)) {}

/-- `AcpSessionFocus`, as far as the events go. -/
structure AcpSessionFocus where
  events : List AcpSessionEvent
  replayTruncated : Bool
  deriving DecidableEq

/-- The events after a sequence, and whether some may be missing. -/
def focusEvents (events : List AcpSessionEvent) (afterSequence : Option Nat) : AcpSessionFocus where
  events := events.filter fun event => afterSequence.all fun after => decide (after < event.sequence)
  replayTruncated := afterSequence.any fun after =>
    (events.head?.map (·.sequence)).any fun first => decide (after + 1 < first)

/-- `AcpSession::focus`. -/
def ReplayBuffer.focus (buffer : ReplayBuffer) (afterSequence : Option Nat) : AcpSessionFocus :=
  focusEvents (buffer.events.map (·.event)) afterSequence

/-! ## The buffer is the newest part of the folded stream -/

/-- The entries of a stream before they are folded. -/
def replayItems (history : List AcpSessionEvent) : List ReplayEvent :=
  history.map fun event =>
    { event
      bytes := eventBytes event }

/-- The bytes of the entries. -/
def replayBytes (entries : List ReplayEvent) : Nat := (entries.map (·.bytes)).sum

/-- The entries are within the limits of the replay. -/
def replayFits (entries : List ReplayEvent) : Bool :=
  decide (entries.length ≤ MAX_REPLAY_EVENTS) && decide (replayBytes entries ≤ MAX_REPLAY_BYTES)

/-- The buffer holds the newest entries of the folded stream, and never none of them. -/
structure ReplayOf (history : List AcpSessionEvent) (buffer : ReplayBuffer) : Prop where
  newest : ∃ evicted, foldStream mergeReplay (replayItems history) = evicted ++ buffer.events
  bytes : buffer.bytes = replayBytes buffer.events
  kept : history ≠ [] → buffer.events ≠ []

/-- Evicting leaves the newest entries that fit. -/
theorem evict_eq (entries : List ReplayEvent) :
    evict entries (replayBytes entries) =
      { events := newestFitting replayFits entries
        bytes := replayBytes (newestFitting replayFits entries) } := by
  induction entries with
  | nil => rfl
  | cons oldest rest ih =>
      unfold evict newestFitting
      have hrest : replayBytes (oldest :: rest) - oldest.bytes = replayBytes rest := by
        simp [replayBytes]
      by_cases hfits : replayFits (oldest :: rest) = true
      · have hkept : ((oldest :: rest).length > MAX_REPLAY_EVENTS ||
            replayBytes (oldest :: rest) > MAX_REPLAY_BYTES) ≠ true := by
          simp only [replayFits, Bool.and_eq_true, decide_eq_true_eq] at hfits
          simp only [Bool.or_eq_true, decide_eq_true_eq, ne_eq]
          omega
        rw [if_neg hkept, if_pos hfits]
      · have hevicted : ((oldest :: rest).length > MAX_REPLAY_EVENTS ||
            replayBytes (oldest :: rest) > MAX_REPLAY_BYTES) = true := by
          simp only [replayFits, Bool.and_eq_true, decide_eq_true_eq] at hfits
          simp only [Bool.or_eq_true, decide_eq_true_eq]
          omega
        rw [if_pos hevicted, if_neg hfits, hrest, ih]

/-- A pushed event is folded into the last entry, or evicts the oldest ones. -/
theorem ReplayBuffer.push_cases (buffer : ReplayBuffer) (event : AcpSessionEvent) (bytes : Nat) :
    (∃ front last folded, buffer.events = front ++ [last] ∧
      mergeReplay last
        { event
          bytes } = some folded ∧
      buffer.push event bytes =
        { events := front ++ [folded]
          bytes := buffer.bytes + (folded.bytes - last.bytes) } ∧ last.bytes ≤ folded.bytes) ∨
    ((∀ last ∈ buffer.events.getLast?, mergeReplay last
        { event
          bytes } = none) ∧
      buffer.push event bytes = evict (buffer.events ++ [{
        event
        bytes }]) (buffer.bytes + bytes)) := by
  unfold ReplayBuffer.push
  cases hlast : buffer.events.getLast? with
  | none => exact .inr ⟨by simp, rfl⟩
  | some last =>
      obtain ⟨front, hfront⟩ := List.getLast?_eq_some_iff.mp hlast
      rw [Option.bind_some]
      cases htaken : appendTextChunk last.event event with
      | none =>
          refine .inr ⟨?_, rfl⟩
          intro other hother
          cases hother
          simp [mergeReplay, htaken]
      | some taken =>
          refine .inl ⟨front, last, _, hfront, by simp [mergeReplay, htaken]; rfl, ?_, by simp⟩
          simp [hfront]

/-- The entries of a stream that has one event more. -/
theorem replay_items_append (history : List AcpSessionEvent) (event : AcpSessionEvent) :
    replayItems (history ++ [event]) = replayItems history ++ [{
      event
      bytes := eventBytes event }] := by
  simp [replayItems]

/-- A pushed event leaves the newest entries, when it is within the limits itself. -/
theorem ReplayOf.push {history : List AcpSessionEvent} {buffer : ReplayBuffer}
    (h : ReplayOf history buffer) {event : AcpSessionEvent}
    (hsize : eventBytes event ≤ MAX_REPLAY_BYTES) :
    ReplayOf (history ++ [event]) (buffer.push event (eventBytes event)) := by
  obtain ⟨evicted, hfold⟩ := h.newest
  obtain ⟨front, last, folded, hevents, hmerge, hpush, hgrows⟩ | ⟨hopens, hpush⟩ :=
    buffer.push_cases event (eventBytes event)
  · rw [hpush]
    exact {
      newest := by
        refine ⟨evicted, ?_⟩
        rw [replay_items_append, fold_stream_append_singleton, hfold, hevents, ← List.append_assoc,
          push_folded_merge hmerge, List.append_assoc]
      bytes := by
        have hbytes := h.bytes
        rw [hevents] at hbytes
        simp only [replayBytes, List.map_append, List.sum_append, List.map_cons, List.map_nil,
          List.sum_cons, List.sum_nil] at hbytes ⊢
        omega
      kept := fun _ hnil => by simp at hnil }
  · have hsum : buffer.bytes + eventBytes event = replayBytes (buffer.events ++ [{
        event
        bytes := eventBytes event }]) := by
      rw [h.bytes]
      simp [replayBytes]
    rw [hpush, hsum, evict_eq]
    -- the last entry of the buffer is the last of all entries, or there was none
    have hlast : ∀ last ∈ (foldStream mergeReplay (replayItems history)).getLast?, mergeReplay last
        { event
          bytes := eventBytes event } = none := by
      intro last hlast
      by_cases hempty : buffer.events = []
      · have hnone : history = [] := by
          by_contra hhistory
          exact h.kept hhistory hempty
        rw [hnone] at hlast
        cases hlast
      · rw [hfold, List.getLast?_append_of_ne_nil _ hempty] at hlast
        exact hopens last hlast
    exact {
      newest := by
        obtain ⟨dropped, hdropped⟩ := @newest_fitting_suffix _ replayFits (buffer.events ++ [{
          event
          bytes := eventBytes event }])
        refine ⟨evicted ++ dropped, ?_⟩
        rw [replay_items_append, fold_stream_append_singleton, push_folded_open hlast, hfold,
          List.append_assoc, List.append_assoc, ← hdropped]
      bytes := rfl
      kept := by
        intro _ hnil
        have hfits : replayFits [{
            event
            bytes := eventBytes event }] = true := by
          simp [replayFits, replayBytes, hsize, MAX_REPLAY_EVENTS]
        obtain ⟨front, hfront⟩ := newest_fitting_last hfits buffer.events
        rw [hfront] at hnil
        simp at hnil }

/-- The buffer after a stream whose events are within the limits. -/
theorem replay_from_events {history : List AcpSessionEvent}
    (hsize : ∀ event ∈ history, eventBytes event ≤ MAX_REPLAY_BYTES) :
    ReplayOf history (.fromEvents history) := by
  induction history using List.reverseRecOn with
  | nil =>
      exact {
        newest := ⟨[], rfl⟩
        bytes := rfl
        kept := fun hnone => absurd rfl hnone }
  | append_singleton history event ih =>
      have hbuffer : ReplayBuffer.fromEvents (history ++ [event]) =
          (ReplayBuffer.fromEvents history).push event (eventBytes event) := by
        simp [ReplayBuffer.fromEvents]
      rw [hbuffer]
      exact (ih fun other hother => hsize other (List.mem_append_left _ hother)).push
        (hsize event (List.mem_append_right _ (List.mem_singleton.mpr rfl)))

/-- Fewer events have fewer entries and bytes. -/
theorem replay_fits_of_append {history : List AcpSessionEvent} {event : AcpSessionEvent}
    (h : replayFits (foldStream mergeReplay (replayItems (history ++ [event]))) = true) :
    replayFits (foldStream mergeReplay (replayItems history)) = true := by
  rw [replay_items_append, fold_stream_append_singleton] at h
  simp only [replayFits, Bool.and_eq_true, decide_eq_true_eq] at h ⊢
  obtain ⟨front, last, folded, hfold, hmerge, hpush⟩ | ⟨_, hpush⟩ := @push_folded_cases _
    mergeReplay (foldStream mergeReplay (replayItems history)) {
      event
      bytes := eventBytes event }
  · rw [hpush] at h
    rw [hfold]
    have hgrows : last.bytes ≤ folded.bytes := by
      obtain ⟨taken, _, rfl⟩ := Option.map_eq_some_iff.mp hmerge
      exact Nat.le_add_right _ _
    simp only [replayBytes, List.map_append, List.sum_append, List.length_append, List.map_cons,
      List.map_nil, List.sum_cons, List.sum_nil, List.length_singleton] at h ⊢
    omega
  · rw [hpush] at h
    simp only [replayBytes, List.map_append, List.sum_append, List.length_append] at h ⊢
    omega

/-- Nothing is evicted from a buffer whose folded stream is within the limits. -/
theorem replay_whole {history : List AcpSessionEvent}
    (h : replayFits (foldStream mergeReplay (replayItems history)) = true) :
    (ReplayBuffer.fromEvents history).events = foldStream mergeReplay (replayItems history) ∧
      (ReplayBuffer.fromEvents history).bytes =
        replayBytes (foldStream mergeReplay (replayItems history)) := by
  induction history using List.reverseRecOn with
  | nil => exact ⟨rfl, rfl⟩
  | append_singleton history event ih =>
      obtain ⟨hevents, hbytes⟩ := ih (replay_fits_of_append h)
      have hbuffer : ReplayBuffer.fromEvents (history ++ [event]) =
          (ReplayBuffer.fromEvents history).push event (eventBytes event) := by
        simp [ReplayBuffer.fromEvents]
      rw [hbuffer]
      rw [replay_items_append, fold_stream_append_singleton] at h ⊢
      obtain ⟨front, last, folded, hfront, hmerge, hpush, hgrows⟩ | ⟨hopens, hpush⟩ :=
        (ReplayBuffer.fromEvents history).push_cases event (eventBytes event)
      · rw [hpush, ← hevents, hfront, push_folded_merge hmerge, hbytes, ← hevents, hfront]
        refine ⟨rfl, ?_⟩
        simp only [replayBytes, List.map_append, List.sum_append, List.map_cons, List.map_nil,
          List.sum_cons, List.sum_nil]
        omega
      · rw [hevents] at hopens
        rw [push_folded_open hopens] at h ⊢
        have hsum : replayBytes (foldStream mergeReplay (replayItems history)) + eventBytes event =
            replayBytes (foldStream mergeReplay (replayItems history) ++ [{
              event
              bytes := eventBytes event }]) := by
          simp [replayBytes]
        rw [hpush, hevents, hbytes, hsum, evict_eq, newest_fitting_of_fits h]
        exact ⟨rfl, rfl⟩

/-- The entries hold the events of the folded stream. -/
theorem replay_events (history : List AcpSessionEvent) :
    (foldStream mergeReplay (replayItems history)).map (·.event) =
      foldStream mergeChunk history := by
  induction history using List.reverseRecOn with
  | nil => rfl
  | append_singleton history event ih =>
      rw [replay_items_append, fold_stream_append_singleton, fold_stream_append_singleton, ← ih]
      obtain ⟨front, last, folded, hfold, hmerge, hpush⟩ | ⟨hopens, hpush⟩ := @push_folded_cases _
        mergeReplay (foldStream mergeReplay (replayItems history)) {
          event
          bytes := eventBytes event }
      · have hchunk : mergeChunk last.event event = some folded.event := by
          obtain ⟨taken, htaken, rfl⟩ := Option.map_eq_some_iff.mp hmerge
          simp [mergeChunk, htaken]
        rw [hpush, hfold, List.map_append, List.map_append, List.map_singleton, List.map_singleton,
          push_folded_merge hchunk]
      · rw [hpush, List.map_append, List.map_singleton, push_folded_open]
        intro last hlast
        rw [List.getLast?_map] at hlast
        obtain ⟨entry, hentry, rfl⟩ := Option.map_eq_some_iff.mp hlast
        have hnone := hopens entry hentry
        simp only [mergeReplay, Option.map_eq_none_iff] at hnone
        simp [mergeChunk, hnone]

/-! ## A focus -/

/-- The events after a sequence are all there, each once and in their order. -/
def FocusComplete (history : List AcpSessionEvent) (afterSequence : Option Nat)
    (events : List AcpSessionEvent) : Prop :=
  ∃ segments, RowsOf mergeChunk events segments ∧ segments.flatten.Sublist history ∧
    ∀ event ∈ history, (∀ after, afterSequence = some after → after < event.sequence) →
      event ∈ segments.flatten

/-- Sequences increase. -/
abbrev Increasing (history : List AcpSessionEvent) : Prop :=
  history.Pairwise fun first second => first.sequence < second.sequence

/-- A fold takes the sequence of the chunk. -/
theorem merge_chunk_sequence (row item row' : AcpSessionEvent)
    (h : mergeChunk row item = some row') : row'.sequence = item.sequence := by
  obtain ⟨taken, htaken, rfl⟩ := Option.map_eq_some_iff.mp h
  exact (append_text_chunk_spec htaken).sequence

/-- A focus on the newest rows of a stream that is not marked truncated has lost nothing, when it
names a sequence or all rows are there. -/
theorem focus_complete {history dropped rows : List AcpSessionEvent}
    (hincreasing : Increasing history) (hrows : foldStream mergeChunk history = dropped ++ rows)
    (hkept : history ≠ [] → rows ≠ []) {afterSequence : Option Nat}
    (habsent : afterSequence = none → dropped = [])
    (huntruncated : (focusEvents rows afterSequence).replayTruncated = false) :
    FocusComplete history afterSequence (focusEvents rows afterSequence).events := by
  obtain ⟨segments, hfolds, hflatten⟩ := @fold_stream_rows _ mergeChunk history
  rw [hrows] at hfolds
  obtain ⟨before, kept, rfl, hbefore, hkeptRows⟩ := rows_of_append hfolds
  rw [List.flatten_append] at hflatten
  rw [← hflatten] at hincreasing
  obtain ⟨_, hkeptIncreasing, hacross⟩ := List.pairwise_append.mp hincreasing
  obtain ⟨segments', hfiltered, hsub, hcovers⟩ := rows_behind merge_chunk_sequence hkeptRows
    hkeptIncreasing (fun sequence => afterSequence.all fun after => decide (after < sequence)) (by
      intro first second hle hfirst
      cases afterSequence with
      | none => rfl
      | some after =>
          simp only [Option.all_some, decide_eq_true_eq] at hfirst ⊢
          omega)
  refine ⟨segments', hfiltered, ?_, ?_⟩
  · rw [← hflatten]
    exact hsub.trans (List.sublist_append_right _ _)
  · intro event hevent hafter
    have hbehind : (afterSequence.all fun after => decide (after < event.sequence)) = true := by
      cases afterSequence with
      | none => rfl
      | some after => simpa using hafter after rfl
    rw [← hflatten] at hevent
    obtain hdropped | hthere := List.mem_append.mp hevent
    · -- an event that was dropped is before the first row, which the sequence reaches
      exfalso
      cases afterSequence with
      | none =>
          rw [habsent rfl] at hbefore
          cases hbefore
          cases hdropped
      | some after =>
          have hnonempty : rows ≠ [] := by
            refine hkept ?_
            rw [← hflatten]
            exact List.ne_nil_of_mem (List.mem_append_left _ hdropped)
          cases rows with
          | nil => exact hnonempty rfl
          | cons first rest =>
              cases hkeptRows with
              | cons hfirst hrest =>
                  obtain ⟨item, hitem, hkey⟩ := folds_key_mem merge_chunk_sequence hfirst
                  have hlater := hacross event hdropped item (List.mem_append_left _ hitem)
                  have hreached : ¬after + 1 < first.sequence := by
                    simpa [focusEvents] using huntruncated
                  have hbeyond := hafter after rfl
                  omega
    · exact hcovers event hthere hbehind

/-- A live focus that is not marked truncated has lost nothing, when it names a sequence or nothing
was evicted. -/
theorem live_focus_complete {history : List AcpSessionEvent} (hincreasing : Increasing history)
    (hsize : ∀ event ∈ history, eventBytes event ≤ MAX_REPLAY_BYTES) {afterSequence : Option Nat}
    (habsent : afterSequence = none →
      replayFits (foldStream mergeReplay (replayItems history)) = true)
    (huntruncated : ((ReplayBuffer.fromEvents history).focus afterSequence).replayTruncated =
      false) :
    FocusComplete history afterSequence
      ((ReplayBuffer.fromEvents history).focus afterSequence).events := by
  have hreplay := replay_from_events hsize
  obtain ⟨evicted, hfold⟩ := hreplay.newest
  have hrows : foldStream mergeChunk history =
      evicted.map (·.event) ++ (ReplayBuffer.fromEvents history).events.map (·.event) := by
    rw [← replay_events, hfold, List.map_append]
  refine focus_complete hincreasing hrows ?_ ?_ huntruncated
  · intro hhistory
    simpa using hreplay.kept hhistory
  · intro hnone
    have hwhole := (replay_whole (habsent hnone)).1
    rw [hfold] at hwhole
    have hlength := congrArg List.length hwhole
    rw [List.length_append] at hlength
    have hevicted : evicted = [] := List.eq_nil_of_length_eq_zero (by omega)
    rw [hevicted]
    rfl

end Dopedb.Agents
