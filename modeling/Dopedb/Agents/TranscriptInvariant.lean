import Dopedb.Agents.TranscriptSteps
import Dopedb.Library.Runs
import Mathlib.Data.Finset.Dedup

/-!
# The invariant of the bounded transcript

The sizes, the limits, the recent window, the flag and the index of the tool calls in every state
that events lead to. They keep their meaning exactly while no trim drops an item of a tool call, or
a recent event, while it keeps another one of the same call, or of the same sequence.
-/

namespace Dopedb.Agents

open Library

variable (stringify : Json → Option Nat)

/-! ## The recent window -/

/-- The limits of the recent events. -/
def recentFits (events : List AcpSessionEvent) : Bool :=
  decide (events.length ≤ MAX_RECENT_EVENTS) &&
    decide ((events.map (approximateEventBytes stringify)).sum ≤ MAX_RECENT_EVENT_BYTES)

/-- The recent events that are kept when another one arrives. -/
def keptEvents (events : List AcpSessionEvent) (event : AcpSessionEvent) : List AcpSessionEvent :=
  newestFitting (recentFits stringify) (events ++ [event])

/-- The recent events that are dropped when another one arrives. -/
def droppedEvents (events : List AcpSessionEvent) (event : AcpSessionEvent) :
    List AcpSessionEvent :=
  (events ++ [event]).take ((events ++ [event]).length - (keptEvents stringify events event).length)

/-- The sequences of some events. -/
def sequencesOf (events : List AcpSessionEvent) : Finset Nat :=
  (events.map (·.sequence)).toFinset

/-- The recent window says what it holds. -/
structure RecentRight (projection : AcpConversationProjection) : Prop where
  sound : projection.recent.Sound (approximateEventBytes stringify)
  fits : recentFits stringify projection.recent.visible = true
  sequences : projection.recentSequences = sequencesOf projection.recent.visible

variable {stringify} {projection : AcpConversationProjection}

/-- The recent events are over their limits when those that are left do not fit. -/
theorem recent_over_eq (window : Window AcpSessionEvent)
    (h : window.Sound (approximateEventBytes stringify))
    (_hstart : window.start < window.items.length) :
    AcpConversationProjection.recentOver window = !recentFits stringify window.visible := by
  have hlength := Window.length_visible window
  have htotal := h.total_eq
  unfold AcpConversationProjection.recentOver recentFits
  rw [hlength, htotal, Bool.eq_iff_iff]
  simp only [Bool.or_eq_true, decide_eq_true_eq, Bool.not_eq_true', Bool.and_eq_false_iff,
    decide_eq_false_iff_not]
  omega

/-- Erasing the sequences of some events. -/
theorem foldl_erase (removed : List AcpSessionEvent) (sequences : Finset Nat) :
    removed.foldl (fun sequences event => sequences.erase event.sequence) sequences =
      sequences \ sequencesOf removed := by
  induction removed generalizing sequences with
  | nil => simp [sequencesOf]
  | cons event rest ih =>
      rw [List.foldl_cons, ih]
      ext sequence
      simp only [sequencesOf, List.map_cons, List.toFinset_cons, Finset.mem_sdiff, Finset.mem_erase,
        Finset.mem_insert, not_or]
      tauto

/-- What the recent window holds after an event. -/
theorem recent_result (h : RecentRight stringify projection) (event : AcpSessionEvent) :
    RecentRight stringify (projection.appendRecentEvent stringify event) ↔
      Disjoint (sequencesOf (droppedEvents stringify projection.recent.visible event))
        (sequencesOf (keptEvents stringify projection.recent.visible event)) := by
  have hpushed := Window.visible_push h.sound event (approximateEventBytes stringify event)
  have hsound := h.sound.push event
  have htrimmed := @Window.trimmed_trim _ _ _ AcpConversationProjection.recentOver
    (recentFits stringify) (fun window => recent_over_eq window) hsound
  have hmoved := htrimmed.start_eq
  obtain ⟨dropped, hdropped⟩ := @newest_fitting_suffix _ (recentFits stringify)
    (projection.recent.visible ++ [event])
  have hkept : ((projection.recent.push event (approximateEventBytes stringify event)).trim
      AcpConversationProjection.recentOver).visible =
        keptEvents stringify projection.recent.visible event := by
    rw [htrimmed.visible_eq, hpushed]
    rfl
  have hsplit : projection.recent.visible ++ [event] =
      dropped ++ keptEvents stringify projection.recent.visible event := hdropped
  have hdroppedEvents : droppedEvents stringify projection.recent.visible event = dropped := by
    unfold droppedEvents
    rw [hsplit, List.length_append, Nat.add_sub_cancel, List.take_left]
  have hremoved : droppedBetween
      (projection.recent.push event (approximateEventBytes stringify event))
      ((projection.recent.push event (approximateEventBytes stringify event)).trim
        AcpConversationProjection.recentOver) = dropped := by
    unfold droppedBetween
    rw [hmoved, Nat.add_sub_cancel_left]
    show (Window.visible _).take _ = dropped
    rw [hpushed, hkept, hsplit, List.length_append, Nat.add_sub_cancel, List.take_left]
  have hfits : recentFits stringify (keptEvents stringify projection.recent.visible event) =
      true := newest_fitting_fits (by simp [recentFits]) _
  -- before the trim the set holds the sequences of the dropped and of the kept events
  have hsequences : insert event.sequence projection.recentSequences =
      sequencesOf dropped ∪
        sequencesOf (keptEvents stringify projection.recent.visible event) := by
    have hall := congrArg sequencesOf hsplit
    unfold sequencesOf at *
    rw [List.map_append, List.map_append, List.toFinset_append, List.toFinset_append] at hall
    rw [h.sequences, ← hall]
    unfold sequencesOf
    rw [Finset.union_comm]
    rfl
  have hvisible : (projection.appendRecentEvent stringify event).recent.visible =
      keptEvents stringify projection.recent.visible event := by
    show Window.visible (if _ then _ else _) = _
    split
    · rw [Window.visible_cut, hkept]
    · exact hkept
  have hsoundAfter : (projection.appendRecentEvent stringify event).recent.Sound
      (approximateEventBytes stringify) := by
    show Window.Sound _ (if _ then _ else _)
    split
    · exact htrimmed.sound.cut
    · exact htrimmed.sound
  have hsequencesAfter : (projection.appendRecentEvent stringify event).recentSequences =
      (sequencesOf dropped ∪ sequencesOf (keptEvents stringify projection.recent.visible event)) \
        sequencesOf dropped := by
    show List.foldl _ _ _ = _
    rw [hremoved, foldl_erase, hsequences]
  -- deleting a dropped sequence also deletes that of a kept event with the same one
  rw [hdroppedEvents]
  constructor
  · intro hafter
    have heq := hafter.sequences
    rw [hsequencesAfter, hvisible, Finset.union_sdiff_left,
      Finset.sdiff_eq_self_iff_disjoint] at heq
    exact heq.symm
  · intro hdisjoint
    refine ⟨hsoundAfter, by rw [hvisible]; exact hfits, ?_⟩
    rw [hsequencesAfter, hvisible, Finset.union_sdiff_left, Finset.sdiff_eq_self_iff_disjoint]
    exact hdisjoint.symm

/-! ## One event -/

/-- An event that shows nothing leaves the transcript. -/
theorem keep_step {transcript : Transcript} (h : Bounded stringify transcript)
    (hindex : Indexed transcript) : StepResult stringify transcript transcript .keep := by
  have hkept : keptItems stringify transcript.window.visible .keep = transcript.window.visible :=
    newest_fitting_of_fits h.fits
  refine ⟨h, hkept.symm, ?_, ?_⟩
  · rw [show changed transcript.window.visible .keep = transcript.window.visible from rfl]
    simp
  · refine iff_of_true hindex (.inr ?_)
    have hdropped : droppedItems stringify transcript.window.visible .keep = [] := by
      unfold droppedItems
      rw [hkept]
      show List.take (transcript.window.visible.length - _) _ = _
      rw [Nat.sub_self, List.take_zero]
    rw [hdropped]
    intro call hcall
    cases hcall

/-- A session update makes its change. -/
theorem update_event_step (h : Bounded stringify projection.transcript)
    (hindex : Indexed projection.transcript) (key : String) (update : Json) :
    StepResult stringify projection.transcript
      (projection.projectUpdate stringify key update).transcript (updateChange key update) := by
  unfold AcpConversationProjection.projectUpdate updateChange
  simp only
  split
  case isTrue =>
      cases contentText update with
      | none => exact keep_step h hindex
      | some text =>
          simp only
          split
          case isTrue => exact keep_step h hindex
          case isFalse => exact user_text_step h hindex _ _ _
  case isFalse =>
      split
      case isTrue =>
          cases strField update "currentModeId" with
          | none => exact keep_step h hindex
          | some modeId =>
              simp only
              split <;> exact keep_step h hindex
      case isFalse =>
          split
          case isTrue =>
              cases contentText update with
              | none => exact keep_step h hindex
              | some text =>
                  simp only
                  split
                  case isTrue => exact keep_step h hindex
                  case isFalse => exact streamed_step h hindex _ _ _ _
          case isFalse =>
              split
              case isTrue => exact call_step h hindex _ _ _
              case isFalse =>
                  split
                  case isTrue => exact update_step h hindex _ _ _
                  case isFalse =>
                      split
                      case isTrue =>
                          exact (push_step h hindex rfl rfl).result (fun _ h => h) rfl
                      case isFalse => exact keep_step h hindex

/-- An event makes its change. -/
theorem event_step (h : Bounded stringify projection.transcript)
    (hindex : Indexed projection.transcript) (event : AcpSessionEvent) :
    StepResult stringify projection.transcript
      (projection.projectEvent stringify event).transcript (transcriptChange event) := by
  unfold AcpConversationProjection.projectEvent transcriptChange
  cases event.payload with
  | userMessage text attachments =>
      exact (push_step h hindex rfl rfl).result (fun _ h => h) rfl
  | sessionUpdate update => exact update_event_step h hindex _ update
  | sessionConfiguration configOptions => exact keep_step h hindex
  | permissionRequest requestId toolCall options =>
      exact (push_step h hindex rfl rfl).result (fun _ h => h) rfl
  | permissionResponse requestId optionId =>
      simp only
      split <;> exact keep_step h hindex
  | turnEnd stopReason => exact (push_step h hindex rfl rfl).result (fun _ h => h) rfl
  | status lifecycle => exact keep_step h hindex
  | error message => exact (push_step h hindex rfl rfl).result (fun _ h => h) rfl

/-- Projecting an event leaves the recent window. -/
theorem project_recent (projection : AcpConversationProjection) (event : AcpSessionEvent) :
    (projection.projectEvent stringify event).recent = projection.recent ∧
      (projection.projectEvent stringify event).recentSequences =
        projection.recentSequences := by
  unfold AcpConversationProjection.projectEvent
  cases event.payload with
  | sessionUpdate update =>
      simp only
      unfold AcpConversationProjection.projectUpdate
      cases contentText update <;> cases strField update "currentModeId" <;>
        simp only <;> (repeat' split) <;> exact ⟨rfl, rfl⟩
  | permissionResponse requestId optionId =>
      simp only
      split <;> exact ⟨rfl, rfl⟩
  | userMessage text attachments => exact ⟨rfl, rfl⟩
  | sessionConfiguration configOptions => exact ⟨rfl, rfl⟩
  | permissionRequest requestId toolCall options => exact ⟨rfl, rfl⟩
  | turnEnd stopReason => exact ⟨rfl, rfl⟩
  | status lifecycle => exact ⟨rfl, rfl⟩
  | error message => exact ⟨rfl, rfl⟩

variable (stringify)

namespace AcpConversationProjection

/-- The representation invariant: the arrays agree, the limits hold, the index and the recent window
say what they should. -/
structure Represents (projection : AcpConversationProjection) : Prop where
  bounded : Bounded stringify projection.transcript
  indexed : Indexed projection.transcript
  recent : RecentRight stringify projection

/-- What an event should lead to: the invariant; the items of the event within the limits, with a
shown tool call updated in place; and the flag set when an item or a text was dropped. -/
structure AppendsRight (projection : AcpConversationProjection) (event : AcpSessionEvent) :
    Prop where
  represents : Represents stringify (projection.appendMonotonicEvent stringify event)
  visible_eq :
    (projection.appendMonotonicEvent stringify event).transcript.window.visible =
      shownAfter stringify projection.transcript.window.visible (transcriptChange event)
  truncated_eq :
    (projection.appendMonotonicEvent stringify event).transcript.replayTruncated =
      (projection.transcript.replayTruncated ||
        decide ((projection.appendMonotonicEvent stringify event).transcript.window.visible ≠
          changed projection.transcript.window.visible (transcriptChange event)))

/-- No trim of the event drops an item of a tool call while another one of the call is left, apart
from the call that the event introduces, unless the array is cut; and none drops a recent event
while another one of its sequence is left. -/
structure KeepsReferences (projection : AcpConversationProjection) (event : AcpSessionEvent) :
    Prop where
  calls : KeepsCalls stringify projection.transcript (transcriptChange event)
  sequences : Disjoint
    (sequencesOf (droppedEvents stringify projection.recent.visible event))
    (sequencesOf (keptEvents stringify projection.recent.visible event))

variable {stringify}

/-- An event leads to what it should exactly when it keeps the references. -/
theorem appends_right_iff (h : Represents stringify projection) (event : AcpSessionEvent) :
    AppendsRight stringify projection event ↔ KeepsReferences stringify projection event := by
  set received := appendRecentEvent stringify { projection with lastSequence := event.sequence }
    event with hreceived
  have hstep : StepResult stringify projection.transcript
      (projection.appendMonotonicEvent stringify event).transcript (transcriptChange event) :=
    @event_step _ received h.bounded h.indexed event
  have hrecent : RecentRight stringify (projection.appendMonotonicEvent stringify event) ↔
      Disjoint (sequencesOf (droppedEvents stringify projection.recent.visible event))
        (sequencesOf (keptEvents stringify projection.recent.visible event)) := by
    obtain ⟨hwindow, hsequences⟩ := @project_recent stringify received event
    have hstart : RecentRight stringify { projection with lastSequence := event.sequence } :=
      ⟨h.recent.sound, h.recent.fits, h.recent.sequences⟩
    rw [show Disjoint _ _ ↔ _ from (recent_result hstart event).symm]
    constructor
    · intro hafter
      exact ⟨hwindow ▸ hafter.sound, hwindow ▸ hafter.fits, by
        rw [← hreceived, ← hwindow, ← hsequences]
        exact hafter.sequences⟩
    · intro hafter
      refine ⟨?_, ?_, ?_⟩
      · show (received.projectEvent stringify event).recent.Sound _
        rw [hwindow]
        exact hafter.sound
      · show recentFits _ (received.projectEvent stringify event).recent.visible = true
        rw [hwindow]
        exact hafter.fits
      · show (received.projectEvent stringify event).recentSequences =
          sequencesOf (received.projectEvent stringify event).recent.visible
        rw [hwindow, hsequences]
        exact hafter.sequences
  constructor
  · intro hright
    exact ⟨hstep.indexed_iff.mp hright.represents.indexed, hrecent.mp hright.represents.recent⟩
  · intro hkeeps
    exact ⟨⟨hstep.bounded, hstep.indexed_iff.mpr hkeeps.calls, hrecent.mpr hkeeps.sequences⟩,
      hstep.visible_eq, hstep.truncated_eq⟩

/-- The empty projection has the invariant. -/
theorem represents_empty (replayTruncated : Bool) :
    Represents stringify (emptyProjection replayTruncated) where
  bounded := ⟨Window.sound_empty, .inr rfl, rfl, rfl⟩
  indexed := fun _ => rfl
  recent := ⟨Window.sound_empty, rfl, rfl⟩

variable (stringify)

/-- In every sequence of events from the empty projection, every event leads to what it should
exactly when every event keeps the references. -/
theorem transcript_represents_iff (replayTruncated : Bool) (events : List AcpSessionEvent) :
    EachCall (appendMonotonicEvent stringify) (AppendsRight stringify)
        (emptyProjection replayTruncated) events ↔
      EachCall (appendMonotonicEvent stringify) (KeepsReferences stringify)
        (emptyProjection replayTruncated) events :=
  each_call_iff (P := Represents stringify) (fun _ event h => appends_right_iff h event)
    (fun _ _ _ h => h.represents) (represents_empty replayTruncated) events

/-! ## A repeated call -/

/-- The units of a document as it is written. -/
def renderedLength (document : Json) : Option Nat := some (Desktop.utf16 document.render).length

/-- A tool call under one identifier, with its sequence. -/
def repeatedCall (sequence : Nat) : AcpSessionEvent where
  sessionId := "s"
  sequence
  createdAt := "0"
  payload := .sessionUpdate
    (.obj [("sessionUpdate", .str "tool_call"), ("toolCallId", .str "t")])

/-- The item of the call. -/
def repeatedItem (key : String) : AcpTranscriptItem :=
  ⟨key, 0, .tool "t" (.obj [("sessionUpdate", .str "tool_call"), ("toolCallId", .str "t")])⟩

/-- An error with a message. -/
def errorEvent (message : String) : AcpSessionEvent where
  sessionId := "s"
  sequence := 3
  createdAt := "0"
  payload := .error message

/-- The projection after the two calls. -/
def afterCalls : AcpConversationProjection :=
  run (appendMonotonicEvent renderedLength) (emptyProjection false)
    [repeatedCall 1, repeatedCall 2]

set_option maxRecDepth 100000 in
/-- Both calls are shown. -/
theorem visible_after_calls : afterCalls.transcript.window.visible =
    [repeatedItem "s:1", repeatedItem "s:2"] ∧ afterCalls.transcript.window.start = 0 := by
  decide

set_option maxRecDepth 100000 in
/-- The bytes of the items of the calls. -/
theorem repeated_item_bytes :
    transcriptItemBytes renderedLength (repeatedItem "s:1") = 222 ∧
      transcriptItemBytes renderedLength (repeatedItem "s:2") = 222 := by
  decide

/-- A long message is as many units as it has letters. -/
theorem long_message_bytes (n : Nat) :
    textUnitBytes (String.ofList (List.replicate n 'a')) = n * 2 := by
  unfold textUnitBytes utf16Bytes
  rw [String.toList_ofList]
  congr 1
  induction n with
  | zero => rfl
  | succ n ih =>
      unfold Desktop.utf16 at *
      rw [List.replicate_succ, List.flatMap_cons, List.length_append, ih]
      show 1 + n = n + 1
      omega

/-- A message that leaves room for one of the items drops the other one, and with it the entry of
the call. -/
theorem calls_not_kept {message : String} (hmessage : textUnitBytes message = 4194000) :
    ¬ KeepsReferences renderedLength afterCalls (errorEvent message) := by
  intro hkeeps
  obtain ⟨hvisible, hstart⟩ := visible_after_calls
  obtain ⟨hfirst, hsecond⟩ := repeated_item_bytes
  set item : AcpTranscriptItem := ⟨"s" ++ ":" ++ Nat.repr 3, 0, .error message⟩ with hitem
  have hbytes : transcriptItemBytes renderedLength item = 4194000 := hmessage
  have hchange : transcriptChange (errorEvent message) = .push item := rfl
  have hchanged : changed afterCalls.transcript.window.visible (.push item) =
      [repeatedItem "s:1", repeatedItem "s:2", item] := by
    rw [hvisible]
    rfl
  have hkept : keptItems renderedLength afterCalls.transcript.window.visible (.push item) =
      [repeatedItem "s:2", item] := by
    unfold keptItems
    rw [hchanged]
    unfold newestFitting
    rw [if_neg (by simp [transcriptFits, itemsBytes, hfirst, hsecond, hbytes,
      MAX_TRANSCRIPT_BYTES]), newestFitting, if_pos (by simp [transcriptFits, itemsBytes, hsecond,
      hbytes, MAX_TRANSCRIPT_BYTES, MAX_TRANSCRIPT_ITEMS])]
  have hdropped : droppedItems renderedLength afterCalls.transcript.window.visible (.push item) =
      [repeatedItem "s:1"] := by
    unfold droppedItems
    rw [hkept, hchanged]
    rfl
  have hcalls := hkeeps.calls
  rw [hchange] at hcalls
  unfold KeepsCalls at hcalls
  simp only [hkept, hdropped, hchanged, hstart] at hcalls
  rcases hcalls with hcuts | hcalls
  · exact absurd hcuts.1 (by simp [COMPACT_PREFIX_AT])
  · exact hcalls "t" (by decide) (by simp [callsOf, repeatedItem, AcpTranscriptItem.toolCallId])

/-- Two calls under one identifier, and a message that leaves room for the second one: the call that
is still shown has lost its entry. -/
theorem repeated_call_lost :
    ¬ EachCall (appendMonotonicEvent renderedLength) (AppendsRight renderedLength)
        (emptyProjection false) [repeatedCall 1, repeatedCall 2,
          errorEvent (String.ofList (List.replicate 2097000 'a'))] := by
  rw [transcript_represents_iff]
  rintro ⟨-, -, hkeeps, -⟩
  exact calls_not_kept (long_message_bytes 2097000) hkeeps

end AcpConversationProjection

end Dopedb.Agents
