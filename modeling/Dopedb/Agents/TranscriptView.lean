import Dopedb.Agents.Transcript

/-!
# What a transcript shows

The transcript as a list of items: what an event adds to it, and which items the limits keep. The
calls of `transcript.ts` do this on an array with a moving start; `TranscriptStep` says what such a
call does to the list, to the flag and to the index of the tool calls.
-/

namespace Dopedb.Agents

open Library
open Desktop (utf16)

/-! ## The list of items -/

/-- The last element of a list is mapped. -/
def mapLast {α : Type} (f : α → α) : List α → List α
  | [] => []
  | [a] => [f a]
  | a :: b :: rest => a :: mapLast f (b :: rest)

@[simp] theorem map_last_append {α : Type} (f : α → α) (front : List α) (last : α) :
    mapLast f (front ++ [last]) = front ++ [f last] := by
  induction front with
  | nil => rfl
  | cons a front ih =>
      cases front with
      | nil => rfl
      | cons b rest => exact congrArg (List.cons a) ih

/-- The chunks of a streamed text are joined. -/
def collapseItem : AcpTranscriptItem → AcpTranscriptItem
  | ⟨key, revision, .streamed kind messageId chunks activityText⟩ =>
    if chunks.length ≤ 1 then ⟨key, revision, .streamed kind messageId chunks activityText⟩
    else ⟨key, revision + 1, .streamed kind messageId [chunks.flatten] activityText⟩
  | item => item

/-- The streamed text at the end is closed. -/
def collapsed (items : List AcpTranscriptItem) : List AcpTranscriptItem :=
  mapLast collapseItem items

/-- The position of the last item of a tool call. -/
@[simp] def lastTool (call : String) : List AcpTranscriptItem → Option Nat
  | [] => none
  | item :: rest =>
    match lastTool call rest with
    | some position => some (position + 1)
    | none => if item.toolCallId = some call then some 0 else none

/-- The calls of some items. -/
def callsOf (items : List AcpTranscriptItem) : List String :=
  items.filterMap (·.toolCallId)

/-- What an event does to the items. -/
inductive TranscriptChange where
  | keep
  | push (item : AcpTranscriptItem)
  | call (key toolCallId : String) (data : Json)
  | update (key toolCallId : String) (data : Json)
  | streamed (kind : StreamedKind) (key : String) (messageId : Option String) (text : List Nat)
  | userText (key : String) (messageId : Option String) (text : List Nat)

/-- The change of a session update. -/
def updateChange (key : String) (update : Json) : TranscriptChange :=
  let kind := strField update "sessionUpdate"
  if kind = some "user_message_chunk" then
    match contentText update with
    | some text =>
      if text = "" then .keep
      else .userText key (strField update "messageId") (utf16 text.toList)
    | none => .keep
  else if kind = some "current_mode_update" then .keep
  else if kind = some "agent_message_chunk" ∨ kind = some "agent_thought_chunk" then
    match contentText update with
    | some text =>
      if text = "" then .keep
      else
        .streamed (if kind = some "agent_message_chunk" then .agent else .thought) key
          (strField update "messageId") (utf16 text.toList)
    | none => .keep
  else if kind = some "tool_call" then
    .call key ((strField update "toolCallId").getD key) update
  else if kind = some "tool_call_update" then
    .update key ((strField update "toolCallId").getD key) update
  else if kind = some "plan" then .push ⟨key, 0, .plan update⟩
  else .keep

/-- The change of an event. -/
def transcriptChange (event : AcpSessionEvent) : TranscriptChange :=
  let key := event.sessionId ++ ":" ++ event.sequence.repr
  match event.payload with
  | .userMessage text attachments =>
    .push ⟨key, 0, .user (utf16 text.toList) attachments none⟩
  | .permissionRequest _ _ _ => .push ⟨key, 0, .permission event⟩
  | .error message => .push ⟨key, 0, .error message⟩
  | .turnEnd stopReason => .push ⟨key, 0, .turnEnd stopReason⟩
  | .sessionUpdate update => updateChange key update
  | .sessionConfiguration _ | .permissionResponse _ _ | .status _ => .keep

/-- A tool item with more data. -/
def updateItem (data : Json) : AcpTranscriptItem → AcpTranscriptItem
  | ⟨key, revision, .tool toolCallId before⟩ =>
    ⟨key, revision + 1, .tool toolCallId (spread before data)⟩
  | item => item

/-- The streamed item with a text added to it, if it is of the message. -/
def withChunk (kind : StreamedKind) (messageId : Option String) (text : List Nat) :
    AcpTranscriptItem → Option AcpTranscriptItem
  | ⟨key, revision, .streamed kind' messageId' chunks activityText⟩ =>
    if kind' = kind ∧ (messageId = none ∨ messageId' = messageId) then
      some ⟨key, revision + 1,
        .streamed kind' messageId' (chunks ++ [text])
          (lastUnits MAX_ACTIVITY_TEXT_CHARS (activityText ++ text))⟩
    else none
  | _ => none

/-- The user item with a text added to it, if it is of the message. -/
def withUserChunk (messageId : Option String) (text : List Nat) :
    AcpTranscriptItem → Option AcpTranscriptItem
  | ⟨key, revision, .user text' attachments messageId'⟩ =>
    if messageId ≠ none ∧ messageId' = messageId then
      some ⟨key, revision + 1, .user (text' ++ text) attachments messageId'⟩
    else none
  | _ => none

/-- The items after a change, before the limits are applied. A tool call is updated in place when an
item of it is shown, and appended otherwise. -/
def changed (items : List AcpTranscriptItem) : TranscriptChange → List AcpTranscriptItem
  | .keep => items
  | .push item => collapsed items ++ [item]
  | .call key toolCallId data => collapsed items ++ [⟨key, 0, .tool toolCallId data⟩]
  | .update key toolCallId data =>
    match lastTool toolCallId (collapsed items) with
    | some position => (collapsed items).modify position (updateItem data)
    | none => collapsed items ++ [⟨key, 0, .tool toolCallId data⟩]
  | .streamed kind key messageId text =>
    match items.getLast?.bind (withChunk kind messageId text) with
    | some item => items.dropLast ++ [item]
    | none =>
      collapsed items ++
        [⟨key, 0, .streamed kind messageId [text] (lastUnits MAX_ACTIVITY_TEXT_CHARS text)⟩]
  | .userText key messageId text =>
    match items.getLast?.bind (withUserChunk messageId text) with
    | some item => items.dropLast ++ [item]
    | none => collapsed items ++ [⟨key, 0, .user text [] messageId⟩]

/-- A streamed text is cut to its end. -/
def cutItem : AcpTranscriptItem → AcpTranscriptItem
  | ⟨key, revision, .streamed kind messageId chunks _⟩ =>
    let text := lastUnits (COMPACTED_TEXT_BYTES / 2) chunks.flatten
    ⟨key, revision + 1, .streamed kind messageId [text] (lastUnits MAX_ACTIVITY_TEXT_CHARS text)⟩
  | item => item

section Limits

variable (stringify : Json → Option Nat)

/-- The bytes of some items. -/
def itemsBytes (items : List AcpTranscriptItem) : Nat :=
  (items.map (transcriptItemBytes stringify)).sum

/-- The limits of a transcript, which one item alone may exceed. -/
def transcriptFits (items : List AcpTranscriptItem) : Bool :=
  decide (items.length ≤ 1) ||
    (decide (items.length ≤ MAX_TRANSCRIPT_ITEMS) &&
      decide (itemsBytes stringify items ≤ MAX_TRANSCRIPT_BYTES))

/-- The items that the limits keep of the changed ones. -/
def keptItems (items : List AcpTranscriptItem) (change : TranscriptChange) :
    List AcpTranscriptItem :=
  newestFitting (transcriptFits stringify) (changed items change)

/-- The items that the limits drop. -/
def droppedItems (items : List AcpTranscriptItem) (change : TranscriptChange) :
    List AcpTranscriptItem :=
  (changed items change).take
    ((changed items change).length - (keptItems stringify items change).length)

/-- The items after a change. A single streamed text that is still too large is cut. -/
def shownAfter (items : List AcpTranscriptItem) (change : TranscriptChange) :
    List AcpTranscriptItem :=
  let kept := keptItems stringify items change
  match change with
  | .streamed _ _ _ _ =>
    if itemsBytes stringify kept ≤ MAX_TRANSCRIPT_BYTES then kept else mapLast cutItem kept
  | _ => kept

end Limits

end Dopedb.Agents
