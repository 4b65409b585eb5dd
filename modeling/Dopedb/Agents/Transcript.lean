import Dopedb.Agents.SessionEvents
import Dopedb.Desktop.JavaScript
import Dopedb.Library.Window
import Mathlib.Data.Finset.Basic

/-!
# The bounded transcript

`transcript.ts`: the projection of the events of a conversation into the items that are shown, the
window of recent events, and their limits. Texts are UTF-16 units, since they are cut by units. The
length of `JSON.stringify` is a parameter, which is none where it throws.
-/

namespace Dopedb.Agents

open Library
open Desktop (utf16)

def MAX_RECENT_EVENTS : Nat := 1024
def MAX_RECENT_EVENT_BYTES : Nat := 4 * 1024 * 1024
def MAX_TRANSCRIPT_ITEMS : Nat := 320
def MAX_TRANSCRIPT_BYTES : Nat := 4 * 1024 * 1024
def COMPACTED_TEXT_BYTES : Nat := 3 * 1024 * 1024
def COMPACT_PREFIX_AT : Nat := 256
def MAX_ACTIVITY_TEXT_CHARS : Nat := 512

/-- The kinds of streamed text. -/
inductive StreamedKind where
  | agent | thought
  deriving DecidableEq, Repr

/-- What an item shows. -/
inductive TranscriptBody where
  | user (text : List Nat) (attachments : List String) (messageId : Option String)
  | streamed (kind : StreamedKind) (messageId : Option String) (chunks : List (List Nat))
      (activityText : List Nat)
  | tool (toolCallId : String) (data : Json)
  | permission (event : AcpSessionEvent)
  | plan (data : Json)
  | error (message : String)
  | turnEnd (stopReason : String)
  deriving DecidableEq

/-- `AcpTranscriptItem`. -/
structure AcpTranscriptItem where
  key : String
  revision : Nat
  body : TranscriptBody
  deriving DecidableEq

/-! ## Reading an update -/

/-- `contentText` of the content of an update. -/
def contentText (update : Json) : Option String := (update.get? "content").bind blockText

/-- A member of an object is set, at its place if it has one. -/
def assignMember : List (String × Json) → String × Json → List (String × Json)
  | [], member => [member]
  | (name, value) :: rest, (key, value') =>
    if key = name then (name, value') :: rest else (name, value) :: assignMember rest (key, value')

/-- `{ ...data, ...update }`. -/
def spread (data update : Json) : Json :=
  match data, update with
  | .obj fields, .obj fields' => .obj (fields'.foldl assignMember fields)
  | _, _ => update

/-- `slice(-count)`. -/
def lastUnits (count : Nat) (text : List Nat) : List Nat := text.drop (text.length - count)

/-! ## Sizes -/

/-- `utf16Bytes`. -/
def utf16Bytes (text : List Nat) : Nat := text.length * 2

/-- The bytes of a text. -/
def textUnitBytes (text : String) : Nat := utf16Bytes (utf16 text.toList)

/-- An event as it was received. -/
def AcpSessionEvent.json (event : AcpSessionEvent) : Json :=
  .obj ([("sessionId", .str event.sessionId), ("sequence", .int event.sequence),
    ("createdAt", .str event.createdAt)] ++ event.payload.members)

section Sizes

variable (stringify : Json → Option Nat)

/-- The bytes of a document, or half a mebibyte where it cannot be written. -/
def stringifyBytes (document : Json) : Nat :=
  match stringify document with
  | some length => length * 2
  | none => 512 * 1024

/-- `approximateEventBytes`. -/
def approximateEventBytes (event : AcpSessionEvent) : Nat :=
  match event.payload with
  | .sessionUpdate update =>
    match contentText update with
    | some text => 128 + textUnitBytes text
    | none => stringifyBytes stringify event.json
  | _ => stringifyBytes stringify event.json

/-- `transcriptItemBytes`. -/
def transcriptItemBytes (item : AcpTranscriptItem) : Nat :=
  match item.body with
  | .user text attachments _ => utf16Bytes text + (attachments.map textUnitBytes).sum
  | .streamed _ _ chunks _ => (chunks.map utf16Bytes).sum
  | .error message => textUnitBytes message
  | .turnEnd stopReason => textUnitBytes stopReason
  | .tool toolCallId data =>
    stringifyBytes stringify (.obj [("kind", .str "tool"), ("key", .str item.key),
      ("revision", .int item.revision), ("toolCallId", .str toolCallId), ("data", data)])
  | .permission event =>
    stringifyBytes stringify (.obj [("kind", .str "permission"), ("key", .str item.key),
      ("revision", .int item.revision), ("event", event.json)])
  | .plan data =>
    stringifyBytes stringify (.obj [("kind", .str "plan"), ("key", .str item.key),
      ("revision", .int item.revision), ("data", data)])

end Sizes

/-! ## The projection -/

/-- The items of a projection, with the index of its tool calls. -/
structure Transcript where
  window : Window AcpTranscriptItem := {}
  toolIndex : String → Option Nat := fun _ => none
  replayTruncated : Bool

/-- `AcpConversationProjection`, without the signal of the view. -/
structure AcpConversationProjection where
  lastSequence : Nat := 0
  configOptions : List Json := []
  pendingPermissionId : Option String := none
  transcript : Transcript
  recent : Window AcpSessionEvent := {}
  recentSequences : Finset Nat := ∅

/-- `emptyProjection`. -/
def emptyProjection (replayTruncated : Bool) : AcpConversationProjection where
  transcript := { replayTruncated }

/-- The items that a window dropped between two states of it. -/
def droppedBetween {α : Type} (before after : Window α) : List α :=
  (before.items.drop before.start).take (after.start - before.start)

/-- The call of a tool item. -/
def AcpTranscriptItem.toolCallId (item : AcpTranscriptItem) : Option String :=
  match item.body with
  | .tool toolCallId _ => some toolCallId
  | _ => none

/-- `toolIndex.delete`, for a dropped item. -/
def deleteTool (index : String → Option Nat) (item : AcpTranscriptItem) : String → Option Nat :=
  match item.toolCallId with
  | some toolCallId => fun call => if call = toolCallId then none else index call
  | none => index

/-- The index of the tool items of a list that starts at a position. -/
def indexTools : Nat → List AcpTranscriptItem → (String → Option Nat) → String → Option Nat
  | _, [], index => index
  | position, item :: rest, index =>
    indexTools (position + 1) rest
      (match item.toolCallId with
      | some toolCallId => fun call => if call = toolCallId then some position else index call
      | none => index)

namespace Transcript

/-- A transcript is over its limits, with an item to drop. -/
def exceeds (window : Window AcpTranscriptItem) : Bool :=
  decide (window.start < window.items.length - 1) &&
    (decide (MAX_TRANSCRIPT_ITEMS < window.items.length - window.start) ||
      decide ((MAX_TRANSCRIPT_BYTES : Int) < window.total))

/-- `trimTranscript`. -/
def trimTranscript (transcript : Transcript) : Transcript :=
  let trimmed := transcript.window.trim exceeds
  let removed := droppedBetween transcript.window trimmed
  let replayTruncated := transcript.replayTruncated || !removed.isEmpty
  -- positions change only when the hidden prefix is cut off
  if trimmed.compactDue COMPACT_PREFIX_AT then
    { window := trimmed.cut
      toolIndex := indexTools 0 trimmed.cut.items fun _ => none
      replayTruncated }
  else
    { window := trimmed
      toolIndex := removed.foldl deleteTool transcript.toolIndex
      replayTruncated }

variable (stringify : Json → Option Nat)

/-- `appendItem`. -/
def appendItem (transcript : Transcript) (item : AcpTranscriptItem) : Transcript × Nat :=
  let trimmed := trimTranscript { transcript with
    window := transcript.window.push item (transcriptItemBytes stringify item) }
  (trimmed, trimmed.window.items.length - 1)

/-- `replaceItem`. -/
def replaceItem (transcript : Transcript) (index : Nat) (item : AcpTranscriptItem)
    (appendedBytes : Option Nat) : Transcript :=
  let nextBytes :=
    match appendedBytes with
    | none => transcriptItemBytes stringify item
    | some appended => transcript.window.bytes[index]?.getD 0 + appended
  trimTranscript { transcript with window := transcript.window.replace index item nextBytes }

/-- The last item, with its position. -/
def tail (transcript : Transcript) : Option (Nat × AcpTranscriptItem) :=
  let index := transcript.window.items.length - 1
  (transcript.window.items[index]?).map fun item => (index, item)

/-- `collapseTailTextChunks`. -/
def collapseTailTextChunks (transcript : Transcript) : Transcript :=
  match transcript.tail with
  | some (index, ⟨key, revision, .streamed kind messageId chunks activityText⟩) =>
    if chunks.length ≤ 1 then transcript
    else
      transcript.replaceItem stringify index
        ⟨key, revision + 1, .streamed kind messageId [chunks.flatten] activityText⟩ none
  | _ => transcript

/-- `compactOversizedTailText`. -/
def compactOversizedTailText (transcript : Transcript) : Transcript :=
  if transcript.window.total ≤ MAX_TRANSCRIPT_BYTES then transcript
  else
    -- a trim keeps the last item, however long it is
    match transcript.tail with
    | some (index, ⟨key, revision, .streamed kind messageId chunks _⟩) =>
      let text := lastUnits (COMPACTED_TEXT_BYTES / 2) chunks.flatten
      { transcript.replaceItem stringify index
          ⟨key, revision + 1,
            .streamed kind messageId [text] (lastUnits MAX_ACTIVITY_TEXT_CHARS text)⟩ none with
        replayTruncated := true }
    | _ => transcript

/-- `appendTextChunk`. -/
def appendTextChunk (transcript : Transcript) (kind : StreamedKind) (key : String)
    (messageId : Option String) (text : List Nat) : Transcript :=
  let start : Transcript :=
    compactOversizedTailText stringify
      (appendItem stringify (collapseTailTextChunks stringify transcript)
        ⟨key, 0, .streamed kind messageId [text] (lastUnits MAX_ACTIVITY_TEXT_CHARS text)⟩).1
  match transcript.tail with
  | some (index, ⟨key, revision, .streamed kind' messageId' chunks activityText⟩) =>
    -- a chunk without a message id goes on with the last text of its kind
    if kind' = kind ∧ (messageId = none ∨ messageId' = messageId) then
      compactOversizedTailText stringify
        (transcript.replaceItem stringify index
          ⟨key, revision + 1,
            .streamed kind' messageId' (chunks ++ [text])
              (lastUnits MAX_ACTIVITY_TEXT_CHARS (activityText ++ text))⟩
          (some (utf16Bytes text)))
    else start
  | _ => start

/-- `appendUserChunk`. -/
def appendUserChunk (transcript : Transcript) (key : String) (messageId : Option String)
    (text : List Nat) : Transcript :=
  let start : Transcript :=
    (appendItem stringify (collapseTailTextChunks stringify transcript)
      ⟨key, 0, .user text [] messageId⟩).1
  match transcript.tail with
  | some (index, ⟨key, revision, .user text' attachments messageId'⟩) =>
    -- a chunk without a message id is an item of its own
    if messageId ≠ none ∧ messageId' = messageId then
      transcript.replaceItem stringify index
        ⟨key, revision + 1, .user (text' ++ text) attachments messageId'⟩ none
    else start
  | _ => start

/-- A new tool item, with its position in the index. -/
def appendTool (transcript : Transcript) (key toolCallId : String) (data : Json) : Transcript :=
  let (appended, index) := appendItem stringify transcript ⟨key, 0, .tool toolCallId data⟩
  { appended with
    toolIndex := fun call => if call = toolCallId then some index else appended.toolIndex call }

/-- The branch of `projectEvent` for an update of a tool call. -/
def updateTool (transcript : Transcript) (key toolCallId : String) (update : Json) : Transcript :=
  match (transcript.toolIndex toolCallId).bind fun index =>
      (transcript.window.items[index]?).map fun item => (index, item) with
  | some (index, ⟨key, revision, .tool toolCallId data⟩) =>
    transcript.replaceItem stringify index
      ⟨key, revision + 1, .tool toolCallId (spread data update)⟩ none
  | _ => transcript.appendTool stringify key toolCallId update

end Transcript

/-- `offersValue`. -/
def offersValue (option : Json) (value : String) : Bool :=
  match option.get? "options" with
  | some (.arr entries) =>
    entries.any fun entry =>
      match entry.get? "options" with
      | some (.arr nested) => nested.any fun choice => strField choice "value" = some value
      | some _ => false
      | none => strField entry "value" = some value
  | _ => false

/-- `applyCurrentMode`. -/
def applyCurrentMode (configOptions : List Json) (modeId : String) : List Json :=
  configOptions.map fun option =>
    if strField option "category" ≠ some "mode" ∨ strField option "currentValue" = some modeId ∨
        !offersValue option modeId then option
    else spread option (.obj [("currentValue", .str modeId)])

namespace AcpConversationProjection

variable (stringify : Json → Option Nat)

/-- The recent events are over their limits. -/
def recentOver (window : Window AcpSessionEvent) : Bool :=
  decide (MAX_RECENT_EVENTS < window.items.length - window.start) ||
    decide ((MAX_RECENT_EVENT_BYTES : Int) < window.total)

/-- `appendRecentEvent`. -/
def appendRecentEvent (projection : AcpConversationProjection) (event : AcpSessionEvent) :
    AcpConversationProjection :=
  let pushed := projection.recent.push event (approximateEventBytes stringify event)
  let trimmed := pushed.trim recentOver
  { projection with
    recent := if trimmed.compactDue COMPACT_PREFIX_AT then trimmed.cut else trimmed
    -- a sequence that came twice is deleted with the first of its events
    recentSequences := (droppedBetween pushed trimmed).foldl
      (fun sequences removed => sequences.erase removed.sequence)
      (insert event.sequence projection.recentSequences) }

/-- The branch of `projectEvent` for a session update. -/
def projectUpdate (projection : AcpConversationProjection) (key : String) (update : Json) :
    AcpConversationProjection :=
  let transcript := projection.transcript
  let kind := strField update "sessionUpdate"
  if kind = some "user_message_chunk" then
    match contentText update with
    | some text =>
      if text = "" then projection
      else
        { projection with
          transcript := transcript.appendUserChunk stringify key (strField update "messageId")
            (utf16 text.toList) }
    | none => projection
  else if kind = some "current_mode_update" then
    match strField update "currentModeId" with
    | some modeId =>
      if modeId = "" then projection
      else
        { projection with configOptions := applyCurrentMode projection.configOptions modeId }
    | none => projection
  else if kind = some "agent_message_chunk" ∨ kind = some "agent_thought_chunk" then
    match contentText update with
    | some text =>
      if text = "" then projection
      else
        { projection with
          transcript := transcript.appendTextChunk stringify
            (if kind = some "agent_message_chunk" then .agent else .thought) key
            (strField update "messageId") (utf16 text.toList) }
    | none => projection
  else if kind = some "tool_call" then
    { projection with
      transcript := (transcript.collapseTailTextChunks stringify).appendTool stringify key
        ((strField update "toolCallId").getD key) update }
  else if kind = some "tool_call_update" then
    { projection with
      transcript := (transcript.collapseTailTextChunks stringify).updateTool stringify key
        ((strField update "toolCallId").getD key) update }
  else if kind = some "plan" then
    { projection with
      transcript := ((transcript.collapseTailTextChunks stringify).appendItem stringify
        ⟨key, 0, .plan update⟩).1 }
  else projection

/-- `projectEvent`. -/
def projectEvent (projection : AcpConversationProjection) (event : AcpSessionEvent) :
    AcpConversationProjection :=
  let key := event.sessionId ++ ":" ++ event.sequence.repr
  let collapsed := projection.transcript.collapseTailTextChunks stringify
  match event.payload with
  | .userMessage text attachments =>
    { projection with
      transcript := (collapsed.appendItem stringify
        ⟨key, 0, .user (utf16 text.toList) attachments none⟩).1 }
  | .sessionConfiguration configOptions => { projection with configOptions }
  | .permissionRequest requestId _ _ =>
    { projection with
      pendingPermissionId := some requestId
      transcript := (collapsed.appendItem stringify ⟨key, 0, .permission event⟩).1 }
  | .permissionResponse requestId _ =>
    if projection.pendingPermissionId = some requestId then
      { projection with pendingPermissionId := none }
    else projection
  | .error message =>
    { projection with
      transcript := (collapsed.appendItem stringify ⟨key, 0, .error message⟩).1 }
  | .turnEnd stopReason =>
    { projection with
      transcript := (collapsed.appendItem stringify ⟨key, 0, .turnEnd stopReason⟩).1 }
  | .sessionUpdate update => projectUpdate stringify projection key update
  | .status _ => projection

/-- `appendMonotonicEvent`. -/
def appendMonotonicEvent (projection : AcpConversationProjection) (event : AcpSessionEvent) :
    AcpConversationProjection :=
  projectEvent stringify
    (appendRecentEvent stringify { projection with lastSequence := event.sequence } event) event

end AcpConversationProjection

end Dopedb.Agents
