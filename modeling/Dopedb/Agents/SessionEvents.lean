import Dopedb.Library.JsonText
import Dopedb.Library.StreamFold

/-!
# Events of an agent conversation

The events of `domain.rs` as they are recorded and emitted, and the fold of streamed text chunks of
`acp/persistence.rs`. `append_text_chunk_spec` says what a fold does to the text, the sequence and
the size of the row that takes the chunk.
-/

namespace Dopedb.Agents

open Library

/-- `AcpSessionLifecycle`. -/
inductive AcpSessionLifecycle where
  | starting | ready | running | waitingPermission | failed | closed
  deriving DecidableEq, Repr

/-- The text of a lifecycle. -/
def AcpSessionLifecycle.text : AcpSessionLifecycle → String
  | .starting => "starting"
  | .ready => "ready"
  | .running => "running"
  | .waitingPermission => "waitingPermission"
  | .failed => "failed"
  | .closed => "closed"

/-- `AcpPermissionOption`. -/
structure AcpPermissionOption where
  id : String
  name : String
  kind : String
  deriving DecidableEq

/-- `AcpSessionEventPayload`. -/
inductive AcpSessionEventPayload where
  | userMessage (text : String) (attachments : List String)
  | sessionUpdate (update : Json)
  | sessionConfiguration (configOptions : List Json)
  | permissionRequest (requestId : String) (toolCall : Json) (options : List AcpPermissionOption)
  | permissionResponse (requestId : String) (optionId : Option String)
  | turnEnd (stopReason : String)
  | status (lifecycle : AcpSessionLifecycle)
  | error (message : String)
  deriving DecidableEq

/-- `AcpSessionEvent`, with its time as it is written. -/
structure AcpSessionEvent where
  sessionId : String
  sequence : Nat
  createdAt : String
  payload : AcpSessionEventPayload
  deriving DecidableEq

/-! ## Sizes -/

/-- An option as JSON. -/
def AcpPermissionOption.json (option : AcpPermissionOption) : Json :=
  .obj [("id", .str option.id), ("name", .str option.name), ("kind", .str option.kind)]

/-- The members of a payload. -/
def AcpSessionEventPayload.members : AcpSessionEventPayload → List (String × Json)
  | .userMessage text attachments =>
    [("type", .str "userMessage"), ("text", .str text),
      ("attachments", .arr (attachments.map Json.str))]
  | .sessionUpdate update => [("type", .str "sessionUpdate"), ("update", update)]
  | .sessionConfiguration configOptions =>
    [("type", .str "sessionConfiguration"), ("configOptions", .arr configOptions)]
  | .permissionRequest requestId toolCall options =>
    [("type", .str "permissionRequest"), ("requestId", .str requestId), ("toolCall", toolCall),
      ("options", .arr (options.map AcpPermissionOption.json))]
  | .permissionResponse requestId optionId =>
    [("type", .str "permissionResponse"), ("requestId", .str requestId),
      ("optionId", (optionId.map Json.str).getD .null)]
  | .turnEnd stopReason => [("type", .str "turnEnd"), ("stopReason", .str stopReason)]
  | .status lifecycle => [("type", .str "status"), ("lifecycle", .str lifecycle.text)]
  | .error message => [("type", .str "error"), ("message", .str message)]

/-- The bytes of the JSON of a payload. -/
def payloadBytes (payload : AcpSessionEventPayload) : Nat :=
  byteLength (Json.obj payload.members).render

/-- `event_bytes`. -/
def eventBytes (event : AcpSessionEvent) : Nat :=
  byteLength (Json.obj ([("sessionId", .str event.sessionId), ("sequence", .int event.sequence),
    ("createdAt", .str event.createdAt)] ++ event.payload.members)).render

/-! ## Streamed chunks -/

/-- The member of a document that is a string. -/
def strField (document : Json) (key : String) : Option String :=
  (document.get? key).bind fun value =>
    match value with
    | .str text => some text
    | _ => none

/-- The member of an object is replaced. -/
def setMember : List (String × Json) → String → Json → List (String × Json)
  | [], _, _ => []
  | (name, value) :: rest, key, value' =>
    if key = name then (name, value') :: rest else (name, value) :: setMember rest key value'

/-- The member of a document is replaced. -/
def setField (document : Json) (key : String) (value : Json) : Json :=
  match document with
  | .obj fields => .obj (setMember fields key value)
  | other => other

/-- The kinds of update that stream text. -/
def streamedKinds : List String := ["agent_message_chunk", "agent_thought_chunk"]

/-- `is_boundary`. -/
def isBoundary : AcpSessionEventPayload → Bool
  | .sessionUpdate update => !((strField update "sessionUpdate").any fun kind => kind ∈ streamedKinds)
  | _ => true

/-- `is_text_chunk`. -/
def isTextChunk (payload : AcpSessionEventPayload) : Bool := !isBoundary payload

/-- `MAX_COALESCED_TEXT_BYTES`. -/
def MAX_COALESCED_TEXT_BYTES : Nat := 192 * 1024

/-- The text of a content block of type text. -/
def blockText (content : Json) : Option String :=
  if strField content "type" = some "text" then strField content "text" else none

/-- The document of a chunk that takes more text. -/
def withText (current content : Json) (text : String) : Json :=
  setField current "content" (setField content "text" (.str text))

/-- `append_text_chunk`. -/
def appendTextChunk (target next : AcpSessionEvent) : Option (AcpSessionEvent × Nat) :=
  match target.payload, next.payload with
  | .sessionUpdate current, .sessionUpdate incoming => do
    let kind ← strField incoming "sessionUpdate"
    if kind ∉ streamedKinds || strField current "sessionUpdate" ≠ some kind ||
        current.get? "messageId" ≠ incoming.get? "messageId" then none
    else
      let addition ← (incoming.get? "content").bind blockText
      let existing ← current.get? "content"
      let text ← blockText existing
      if text.utf8ByteSize + addition.utf8ByteSize > MAX_COALESCED_TEXT_BYTES then none
      else
        some ({ target with
          sequence := next.sequence
          createdAt := next.createdAt
          payload := .sessionUpdate (withText current existing (text ++ addition)) },
          addition.utf8ByteSize)
  | _, _ => none

/-- The event that takes a chunk. -/
def mergeChunk (target next : AcpSessionEvent) : Option AcpSessionEvent :=
  (appendTextChunk target next).map Prod.fst

/-- What a chunk streams: its kind, its message and its text. -/
def streamedText : AcpSessionEventPayload → Option (String × Option Json × String)
  | .sessionUpdate update => do
    let kind ← strField update "sessionUpdate"
    if kind ∈ streamedKinds then
      let text ← (update.get? "content").bind blockText
      some (kind, update.get? "messageId", text)
    else none
  | _ => none

/-! ## What a fold does -/

/-- The members after one was replaced. -/
theorem lookup_set_member (fields : List (String × Json)) (key key' : String) (value : Json) :
    (setMember fields key value).lookup key' =
      if key = key' then (fields.lookup key').map fun _ => value else fields.lookup key' := by
  induction fields with
  | nil => simp [setMember]
  | cons member rest ih =>
      obtain ⟨name, held⟩ := member
      unfold setMember
      by_cases hname : key = name
      · subst hname
        rw [if_pos rfl, List.lookup_cons, List.lookup_cons]
        by_cases hkey : key = key'
        · simp [hkey]
        · have hne : (key' == key) = false := beq_eq_false_iff_ne.mpr (Ne.symm hkey)
          simp [hne, hkey]
      · rw [if_neg hname, List.lookup_cons, List.lookup_cons, ih]
        by_cases hkey : key' = name
        · have hother : key ≠ key' := fun h => hname (h.trans hkey)
          simp [hkey, hname]
        · have hne : (key' == name) = false := beq_eq_false_iff_ne.mpr hkey
          simp [hne]

/-- The member of a document after one was replaced. -/
theorem get_set_field (document : Json) (key key' : String) (value : Json) :
    (setField document key value).get? key' =
      if key = key' then (document.get? key').map fun _ => value else document.get? key' := by
  cases document with
  | obj fields => exact lookup_set_member fields key key' value
  | null => simp [setField, Json.get?]
  | bool flag => simp [setField, Json.get?]
  | int n => simp [setField, Json.get?]
  | float text => simp [setField, Json.get?]
  | str text => simp [setField, Json.get?]
  | arr items => simp [setField, Json.get?]

/-- Longer parts make a longer list. -/
theorem byte_length_intercalate_mono {texts texts' : List (List Char)}
    (h : List.Forall₂ (fun text text' => byteLength text ≤ byteLength text') texts texts') :
    byteLength ([','].intercalate texts) ≤ byteLength ([','].intercalate texts') := by
  induction h with
  | nil => exact Nat.le_refl _
  | cons hhead hrest ih =>
      cases hrest with
      | nil =>
          rw [List.intercalate_singleton, List.intercalate_singleton]
          exact hhead
      | cons hnext hrest =>
          rw [List.intercalate_cons_cons, List.intercalate_cons_cons]
          simp only [byte_length_append]
          omega

/-- A document with a longer member is longer. -/
theorem render_set_member_mono (fields : List (String × Json)) (key : String) (value : Json)
    (h : ∀ held, fields.lookup key = some held → byteLength held.render ≤ byteLength value.render) :
    List.Forall₂ (fun text text' => byteLength text ≤ byteLength text')
      (Json.renderMembers fields) (Json.renderMembers (setMember fields key value)) := by
  induction fields with
  | nil => exact .nil
  | cons member rest ih =>
      obtain ⟨name, held⟩ := member
      have hrefl : ∀ texts : List (List Char),
          List.Forall₂ (fun text text' => byteLength text ≤ byteLength text') texts texts := by
        intro texts
        exact List.forall₂_same.mpr fun _ _ => Nat.le_refl _
      unfold setMember
      split
      · next hname =>
          refine .cons ?_ (hrefl _)
          have hheld := h held (by rw [hname]; simp)
          rw [byte_length_append, byte_length_append]
          simp only [byteLength, List.map_cons, List.sum_cons] at hheld ⊢
          omega
      · next hname =>
          refine .cons (Nat.le_refl _) (ih ?_)
          intro other hother
          refine h other ?_
          have hne : (key == name) = false := beq_eq_false_iff_ne.mpr hname
          rw [List.lookup_cons, hne]
          exact hother

/-- A document with a longer member is longer. -/
theorem render_set_field_mono (document : Json) (key : String) (value : Json)
    (h : ∀ held, document.get? key = some held →
      byteLength held.render ≤ byteLength value.render) :
    byteLength document.render ≤ byteLength (setField document key value).render := by
  cases document with
  | obj fields =>
      have hmono := byte_length_intercalate_mono (render_set_member_mono fields key value h)
      show byteLength (_ :: _ ++ _) ≤ byteLength (_ :: _ ++ _)
      rw [byte_length_append, byte_length_append]
      simp only [byteLength, List.map_cons, List.sum_cons] at hmono ⊢
      omega
  | null => exact Nat.le_refl _
  | bool flag => exact Nat.le_refl _
  | int n => exact Nat.le_refl _
  | float text => exact Nat.le_refl _
  | str text => exact Nat.le_refl _
  | arr items => exact Nat.le_refl _

/-- A text with more at its end is longer. -/
theorem render_string_append (text addition : String) :
    byteLength (Json.str text).render ≤ byteLength (Json.str (text ++ addition)).render := by
  show byteLength (renderString text) ≤ byteLength (renderString (text ++ addition))
  unfold renderString
  rw [String.toList_append, List.flatMap_append]
  simp only [byteLength, List.map_cons, List.map_append, List.sum_cons, List.sum_append]
  omega

/-- A string member is found. -/
theorem str_field_iff {document : Json} {key text : String} :
    strField document key = some text ↔ document.get? key = some (.str text) := by
  unfold strField
  cases document.get? key with
  | none => simp
  | some value =>
      cases value with
      | str held => simp
      | null => simp
      | bool flag => simp
      | int n => simp
      | float held => simp
      | arr items => simp
      | obj fields => simp

/-- The text of a text block. -/
theorem block_text_iff {content : Json} {text : String} :
    blockText content = some text ↔
      content.get? "type" = some (.str "text") ∧ content.get? "text" = some (.str text) := by
  unfold blockText
  rw [← str_field_iff, ← str_field_iff]
  split
  · next htype => simp [htype]
  · next htype => simp [htype]

/-- What a chunk streams is read off its document. -/
theorem streamed_text_iff {update : Json} {kind text : String} {messageId : Option Json} :
    streamedText (.sessionUpdate update) = some (kind, messageId, text) ↔
      kind ∈ streamedKinds ∧ strField update "sessionUpdate" = some kind ∧
        update.get? "messageId" = messageId ∧
        ∃ content, update.get? "content" = some content ∧ blockText content = some text := by
  simp only [streamedText, Option.bind_eq_bind]
  cases hkind : strField update "sessionUpdate" with
  | none => simp
  | some held =>
      rw [Option.bind_some]
      by_cases hstreamed : held ∈ streamedKinds
      · rw [if_pos hstreamed]
        cases hcontent : (update.get? "content").bind blockText with
        | none =>
            simp only [Option.bind_none, reduceCtorEq, false_iff]
            rintro ⟨_, _, _, content, hget, htext⟩
            rw [hget, Option.bind_some, htext] at hcontent
            cases hcontent
        | some found =>
            obtain ⟨content, hget, hfound⟩ := Option.bind_eq_some_iff.mp hcontent
            simp only [Option.bind_some, Option.some.injEq, Prod.mk.injEq]
            constructor
            · rintro ⟨rfl, rfl, rfl⟩
              exact ⟨hstreamed, rfl, rfl, content, hget, hfound⟩
            · rintro ⟨_, rfl, rfl, content', hget', hfound'⟩
              rw [hget] at hget'
              cases hget'
              exact ⟨rfl, rfl, Option.some.inj (hfound.symm.trans hfound')⟩
      · rw [if_neg hstreamed]
        simp only [reduceCtorEq, false_iff]
        rintro ⟨hmem, hsame, _⟩
        rw [Option.some.inj hsame] at hstreamed
        exact hstreamed hmem

/-- An update with a longer document is longer. -/
theorem payload_bytes_update_mono {current current' : Json}
    (h : byteLength current.render ≤ byteLength current'.render) :
    payloadBytes (.sessionUpdate current) ≤ payloadBytes (.sessionUpdate current') := by
  refine render_set_field_mono
    (.obj (AcpSessionEventPayload.sessionUpdate current).members) "update" current' ?_
  intro held hheld
  have hcurrent : held = current := by
    simpa [Json.get?, AcpSessionEventPayload.members, List.lookup] using hheld.symm
  rw [hcurrent]
  exact h

/-- What a fold does to the row that takes the chunk. -/
structure Takes (target next folded : AcpSessionEvent) : Prop where
  sessionId : folded.sessionId = target.sessionId
  sequence : folded.sequence = next.sequence
  text : ∃ kind messageId before after, streamedText target.payload = some (kind, messageId, before) ∧
    streamedText next.payload = some (kind, messageId, after) ∧
    streamedText folded.payload = some (kind, messageId, before ++ after) ∧
    before.utf8ByteSize + after.utf8ByteSize ≤ MAX_COALESCED_TEXT_BYTES
  grows : payloadBytes target.payload ≤ payloadBytes folded.payload

/-- A fold takes the text of the chunk into the row. -/
theorem append_text_chunk_spec {target next folded : AcpSessionEvent} {added : Nat}
    (h : appendTextChunk target next = some (folded, added)) : Takes target next folded := by
  unfold appendTextChunk at h
  split at h
  · next current incoming hcurrent hincoming =>
      simp only [Option.bind_eq_bind, Option.bind_eq_some_iff] at h
      obtain ⟨kind, hkind, h⟩ := h
      split at h
      · cases h
      · next hsame =>
          simp only [Bool.or_eq_true, decide_eq_true_eq, not_or, not_not, ne_eq] at hsame
          obtain ⟨⟨hstreamed, hcurrentKind⟩, hmessage⟩ := hsame
          simp only [Option.bind_eq_some_iff] at h
          obtain ⟨addition, ⟨incomingContent, hincomingContent, haddition⟩, existing, hexisting,
            text, htext, h⟩ := h
          split at h
          · cases h
          · next hsize =>
              cases h
              obtain ⟨htype, hheld⟩ := block_text_iff.mp htext
              have hwritten : blockText (setField existing "text" (.str (text ++ addition))) =
                  some (text ++ addition) := by
                rw [block_text_iff, get_set_field, get_set_field, hheld, htype]
                simp
              exact {
                sessionId := rfl
                sequence := rfl
                text := by
                  refine ⟨kind, current.get? "messageId", text, addition, ?_, ?_, ?_,
                    Nat.le_of_not_lt hsize⟩
                  · rw [hcurrent, streamed_text_iff]
                    exact ⟨hstreamed, hcurrentKind, rfl, existing, hexisting, htext⟩
                  · rw [hincoming, streamed_text_iff]
                    exact ⟨hstreamed, hkind, hmessage.symm, incomingContent, hincomingContent,
                      haddition⟩
                  · rw [streamed_text_iff]
                    unfold withText
                    rw [str_field_iff, get_set_field, get_set_field, get_set_field, hexisting]
                    rw [str_field_iff] at hcurrentKind
                    simp [hstreamed, hcurrentKind, hwritten]
                grows := by
                  rw [hcurrent]
                  have hcontent : byteLength current.render ≤
                      byteLength (withText current existing (text ++ addition)).render := by
                    refine render_set_field_mono current "content" _ ?_
                    intro held hget
                    rw [hexisting] at hget
                    cases hget
                    refine render_set_field_mono existing "text" _ ?_
                    intro held hget
                    rw [hheld] at hget
                    cases hget
                    exact render_string_append text addition
                  exact payload_bytes_update_mono hcontent }
  · cases h

end Dopedb.Agents
