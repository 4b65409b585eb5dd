import Dopedb.Agents.TranscriptView

/-!
# Steps of the bounded transcript

What the calls of `transcript.ts` do to the items that are shown, to the flag and to the index of
the tool calls. `Bounded` always holds; the index keeps its meaning exactly when `KeepsCalls` does.
-/

namespace Dopedb.Agents

open Library

variable (stringify : Json → Option Nat)

/-- The arrays of a transcript agree and are within their limits. -/
structure Bounded (transcript : Transcript) : Prop where
  sound : transcript.window.Sound (transcriptItemBytes stringify)
  shown : transcript.window.start < transcript.window.items.length ∨
    transcript.window.items = []
  fits : transcriptFits stringify transcript.window.visible = true
  settled : transcript.window.compactDue COMPACT_PREFIX_AT = false

/-- A call is mapped to its last item, if it has one. -/
def RightAt (transcript : Transcript) (call : String) : Prop :=
  transcript.toolIndex call =
    (lastTool call transcript.window.visible).map (· + transcript.window.start)

/-- Every call is mapped to its last item, and no call without an item is mapped. -/
def Indexed (transcript : Transcript) : Prop := ∀ call, RightAt transcript call

/-- An array of a length is cut when this many items are dropped behind a start. -/
def Cuts (start length dropped : Nat) : Prop :=
  COMPACT_PREFIX_AT ≤ start + dropped ∧ length ≤ (start + dropped) * 2

instance (start length dropped : Nat) : Decidable (Cuts start length dropped) :=
  inferInstanceAs (Decidable (_ ∧ _))

variable {stringify} {transcript : Transcript}

/-! ## The index -/

@[simp] theorem last_tool_append (call : String) (front back : List AcpTranscriptItem) :
    lastTool call (front ++ back) =
      match lastTool call back with
      | some position => some (position + front.length)
      | none => lastTool call front := by
  induction front with
  | nil =>
      rw [List.nil_append]
      cases lastTool call back <;> rfl
  | cons item front ih =>
      rw [List.cons_append, lastTool, ih]
      cases hback : lastTool call back with
      | some position => simp [Nat.add_assoc]
      | none => rfl

/-- A call is mapped exactly when it has an item. -/
theorem last_tool_eq_none_iff {call : String} {items : List AcpTranscriptItem} :
    lastTool call items = none ↔ call ∉ callsOf items := by
  induction items with
  | nil => simp [lastTool, callsOf]
  | cons item rest ih =>
      unfold lastTool
      have hcalls : call ∈ callsOf (item :: rest) ↔
          item.toolCallId = some call ∨ call ∈ callsOf rest := by
        unfold callsOf
        simp [List.mem_filterMap]
      rw [hcalls, not_or]
      cases hrest : lastTool call rest with
      | some position =>
          have hmem : call ∈ callsOf rest := by
            by_contra hnot
            rw [ih.mpr hnot] at hrest
            cases hrest
          simp [hmem]
      | none =>
          have hnot := ih.mp hrest
          by_cases hitem : item.toolCallId = some call <;> simp [hitem, hnot]

/-- The position of a call is that of one of its items. -/
theorem item_of_last_tool {call : String} {items : List AcpTranscriptItem} {position : Nat}
    (h : lastTool call items = some position) :
    ∃ item, items[position]? = some item ∧ item.toolCallId = some call := by
  induction items generalizing position with
  | nil => cases h
  | cons item rest ih =>
      unfold lastTool at h
      cases hrest : lastTool call rest with
      | some inner =>
          rw [hrest] at h
          obtain rfl := Option.some.inj h
          exact ih hrest
      | none =>
          rw [hrest] at h
          simp only at h
          split at h
          case isTrue hitem =>
              obtain rfl := Option.some.inj h
              exact ⟨item, rfl, hitem⟩
          case isFalse => cases h

/-- The position only depends on the calls of the items. -/
theorem last_tool_congr {items items' : List AcpTranscriptItem}
    (h : items.map (·.toolCallId) = items'.map (·.toolCallId)) (call : String) :
    lastTool call items = lastTool call items' := by
  induction items generalizing items' with
  | nil =>
      rw [List.map_nil, eq_comm, List.map_eq_nil_iff] at h
      rw [h]
  | cons item rest ih =>
      cases items' with
      | nil => cases h
      | cons item' rest' =>
          rw [List.map_cons, List.map_cons, List.cons.injEq] at h
          unfold lastTool
          rw [ih h.2, h.1]

/-- Deleting the calls of some items. -/
theorem foldl_delete_tool (removed : List AcpTranscriptItem) (index : String → Option Nat)
    (call : String) :
    removed.foldl deleteTool index call = if call ∈ callsOf removed then none else index call := by
  induction removed generalizing index with
  | nil => simp [callsOf]
  | cons item rest ih =>
      rw [List.foldl_cons, ih]
      unfold deleteTool callsOf
      cases hitem : item.toolCallId with
      | none => simp [hitem]
      | some id =>
          rw [List.filterMap_cons_some hitem]
          by_cases hcall : call = id
          · subst hcall
            simp
          · simp [hcall]

/-- The index of a list, as it is rebuilt. -/
theorem index_tools_eq (position : Nat) (items : List AcpTranscriptItem)
    (index : String → Option Nat) (call : String) :
    indexTools position items index call =
      match lastTool call items with
      | some inner => some (inner + position)
      | none => index call := by
  induction items generalizing position index with
  | nil => rfl
  | cons item rest ih =>
      unfold indexTools
      rw [ih, lastTool]
      cases hrest : lastTool call rest with
      | some inner =>
          simp only
          congr 1
          omega
      | none =>
          cases hitem : item.toolCallId with
          | none => simp
          | some id =>
              by_cases hcall : call = id
              · subst hcall
                simp
              · have hne : ¬ id = call := fun h => hcall h.symm
                simp [hcall, hne]

/-! ## Trimming -/

/-- A transcript is over its limits when the items that are left do not fit. -/
theorem exceeds_eq (window : Window AcpTranscriptItem)
    (h : window.Sound (transcriptItemBytes stringify))
    (hstart : window.start < window.items.length) :
    Transcript.exceeds window = !transcriptFits stringify window.visible := by
  have hlength := Window.length_visible window
  have htotal := h.total_eq
  unfold Transcript.exceeds transcriptFits itemsBytes
  rw [hlength, htotal, Bool.eq_iff_iff]
  simp only [Bool.and_eq_true, Bool.or_eq_true, decide_eq_true_eq, Bool.not_eq_true',
    Bool.or_eq_false_iff, Bool.and_eq_false_iff, decide_eq_false_iff_not]
  omega

/-- Something is left of a list that is not empty. -/
theorem newest_fits_ne_nil {items : List AcpTranscriptItem} (h : items ≠ []) :
    newestFitting (transcriptFits stringify) items ≠ [] := by
  obtain ⟨front, last, rfl⟩ := (List.eq_nil_or_concat items).resolve_left h
  rw [List.concat_eq_append]
  obtain ⟨kept, hkept⟩ := @newest_fitting_last _ (transcriptFits stringify)
    last (by simp [transcriptFits]) front
  rw [hkept]
  simp

/-- A transcript within its limits is not trimmed. -/
theorem trim_of_settled (hsound : transcript.window.Sound (transcriptItemBytes stringify))
    (hfits : transcriptFits stringify transcript.window.visible = true)
    (hshown : transcript.window.start < transcript.window.items.length)
    (hsettled : transcript.window.compactDue COMPACT_PREFIX_AT = false) :
    transcript.trimTranscript = transcript := by
  have htrim : transcript.window.trim Transcript.exceeds = transcript.window :=
    Window.trim_of_not_exceeds (by rw [exceeds_eq transcript.window hsound hshown, hfits]; rfl)
  unfold Transcript.trimTranscript
  simp only [htrim, hsettled, droppedBetween, Nat.sub_self, List.take_zero, List.isEmpty_nil,
    Bool.not_true, Bool.or_false]
  rfl

/-- What a trim does: the items that fit are left, the flag is set when one was dropped, and the
index loses the calls of the dropped items unless the array is cut and the index is rebuilt. -/
structure TrimResult (stringify : Json → Option Nat) (before after : Transcript) : Prop where
  bounded : Bounded stringify after
  visible_eq : after.window.visible =
    newestFitting (transcriptFits stringify) before.window.visible
  truncated_eq : after.replayTruncated =
    (before.replayTruncated || decide (after.window.visible ≠ before.window.visible))
  index_eq : ∀ dropped, before.window.visible = dropped ++ after.window.visible →
    if Cuts before.window.start before.window.items.length dropped.length then Indexed after
    else
      after.window.start = before.window.start + dropped.length ∧
        ∀ call, after.toolIndex call =
          if call ∈ callsOf dropped then none else before.toolIndex call

/-- A visible item is left exactly when the start is before the end. -/
theorem start_lt_of_visible {window : Window AcpTranscriptItem} (h : window.visible ≠ []) :
    window.start < window.items.length := by
  have hlength := Window.length_visible window
  have hpos := List.length_pos_iff.mpr h
  omega

/-- A trim of a transcript with an item has its result. -/
theorem trim_result (hsound : transcript.window.Sound (transcriptItemBytes stringify))
    (hstart : transcript.window.start < transcript.window.items.length) :
    TrimResult stringify transcript transcript.trimTranscript := by
  have htrimmed := @Window.trimmed_trim _ _ _ Transcript.exceeds
    (transcriptFits stringify) (fun window => exceeds_eq window) hsound
  have hmoved := htrimmed.start_eq
  obtain ⟨dropped, hdropped⟩ := @newest_fitting_suffix _ (transcriptFits stringify)
    transcript.window.visible
  rw [← htrimmed.visible_eq] at hdropped
  generalize hafter : transcript.window.trim Transcript.exceeds = trimmed at *
  have hstart_eq : trimmed.start = transcript.window.start + dropped.length := by
    rw [hmoved, hdropped, List.length_append]
    omega
  have hremoved : droppedBetween transcript.window trimmed = dropped := by
    unfold droppedBetween
    rw [hstart_eq, Nat.add_sub_cancel_left]
    show transcript.window.visible.take dropped.length = dropped
    rw [hdropped, List.take_left]
  have hvisible_ne : transcript.window.visible ≠ [] := by
    intro hnil
    have hlength := Window.length_visible transcript.window
    rw [hnil] at hlength
    simp only [List.length_nil] at hlength
    omega
  have hkept_ne : trimmed.visible ≠ [] := by
    rw [htrimmed.visible_eq]
    exact newest_fits_ne_nil hvisible_ne
  have hfits : transcriptFits stringify trimmed.visible = true := by
    rw [htrimmed.visible_eq]
    exact newest_fitting_fits (by simp [transcriptFits]) _
  have hflag : (!dropped.isEmpty) = decide (trimmed.visible ≠ transcript.window.visible) := by
    rw [hdropped]
    cases dropped with
    | nil => simp
    | cons item rest =>
        have hne : trimmed.visible ≠ item :: rest ++ trimmed.visible := by
          intro heq
          have hlength := congrArg List.length heq
          simp at hlength
          omega
        rw [decide_eq_true hne]
        rfl
  -- whether the hidden items are cut off depends only on how many were dropped
  have hdue : trimmed.compactDue COMPACT_PREFIX_AT = true ↔
      Cuts transcript.window.start transcript.window.items.length dropped.length := by
    unfold Window.compactDue Cuts
    rw [hstart_eq, htrimmed.items_eq, Bool.and_eq_true, decide_eq_true_eq, decide_eq_true_eq]
  have hunique : ∀ other, transcript.window.visible = other ++ trimmed.visible →
      other = dropped := by
    intro other hother
    rw [hdropped] at hother
    exact (List.append_cancel_right hother).symm
  unfold Transcript.trimTranscript
  simp only [hafter, hremoved, hflag]
  by_cases hcompact : trimmed.compactDue COMPACT_PREFIX_AT = true
  · rw [if_pos hcompact]
    refine ⟨⟨htrimmed.sound.cut, .inl ?_, hfits, rfl⟩, htrimmed.visible_eq, rfl, ?_⟩
    · exact @start_lt_of_visible trimmed.cut hkept_ne
    · intro other hother
      obtain rfl := hunique other hother
      rw [if_pos (hdue.mp hcompact)]
      intro call
      show indexTools 0 trimmed.cut.items _ call = _
      -- the index of the tools is built anew after a cut
      rw [index_tools_eq]
      show _ = (lastTool call trimmed.cut.items).map (· + 0)
      cases lastTool call trimmed.cut.items <;> rfl
  · rw [if_neg hcompact]
    refine ⟨⟨htrimmed.sound, .inl (start_lt_of_visible hkept_ne), hfits,
      Bool.of_not_eq_true hcompact⟩, htrimmed.visible_eq, rfl, ?_⟩
    intro other hother
    obtain rfl := hunique other hother
    rw [if_neg (mt hdue.mpr hcompact)]
    -- without one the dropped tools are deleted from it
    exact ⟨hstart_eq, fun call => foldl_delete_tool _ _ call⟩

/-- The items that a trim of some items drops. -/
def trimmedItems (stringify : Json → Option Nat) (items : List AcpTranscriptItem) :
    List AcpTranscriptItem :=
  items.take (items.length - (newestFitting (transcriptFits stringify) items).length)

/-- What is dropped and what is kept. -/
theorem trimmed_append (items : List AcpTranscriptItem) :
    items = trimmedItems stringify items ++ newestFitting (transcriptFits stringify) items := by
  obtain ⟨dropped, hdropped⟩ := @newest_fitting_suffix _ (transcriptFits stringify) items
  unfold trimmedItems
  have hlength := congrArg List.length hdropped
  rw [List.length_append] at hlength
  have htake : items.take (items.length -
      (newestFitting (transcriptFits stringify) items).length) = dropped := by
    conv_lhs => rw [hdropped]
    rw [List.length_append]
    have hkept : ∀ n : Nat, dropped.length + n - n = dropped.length := by omega
    rw [← List.length_append, ← hdropped, hlength, hkept]
    conv_lhs => rw [hdropped]
    exact List.take_left
  rw [htake]
  exact hdropped

/-- The entry of a call after a trim: it stays right exactly when the array was cut, or the call has
no dropped item or no kept one. -/
theorem TrimResult.right_at_iff {before after : Transcript}
    (h : TrimResult stringify before after) {call : String} (hright : RightAt before call)
    (hstart : before.window.start ≤ before.window.items.length) :
    RightAt after call ↔
      Cuts before.window.start (before.window.start + before.window.visible.length)
          (trimmedItems stringify before.window.visible).length ∨
        (call ∈ callsOf (trimmedItems stringify before.window.visible) →
          call ∉ callsOf after.window.visible) := by
  have hsplit := @trimmed_append stringify before.window.visible
  rw [← h.visible_eq] at hsplit
  generalize trimmedItems stringify before.window.visible = dropped at *
  have hlength : before.window.start + before.window.visible.length =
      before.window.items.length := by
    rw [Window.length_visible]
    omega
  have hresult := h.index_eq dropped hsplit
  rw [hlength]
  split at hresult
  case isTrue hcut =>
      exact iff_of_true (hresult call) (.inl hcut)
  case isFalse hcut =>
      obtain ⟨hmoved, hcalls⟩ := hresult
      rw [or_iff_right hcut]
      unfold RightAt at *
      rw [hcalls call, hmoved]
      by_cases hdropped : call ∈ callsOf dropped
      · -- the call has no entry left, so it must have no item left
        rw [if_pos hdropped, eq_comm, Option.map_eq_none_iff, last_tool_eq_none_iff]
        simp [hdropped]
      · -- the position moves with the start
        rw [if_neg hdropped, hright, hsplit, last_tool_append,
          last_tool_eq_none_iff.mpr hdropped]
        refine iff_of_true ?_ fun hmem => absurd hmem hdropped
        cases lastTool call after.window.visible with
        | none => rfl
        | some position =>
            simp only [Option.map_some, Option.some.injEq]
            omega

/-! ## The last item -/

/-- The last item is the last visible one. -/
theorem tail_eq (hshown : transcript.window.start < transcript.window.items.length ∨
    transcript.window.items = []) :
    transcript.tail = transcript.window.visible.getLast?.map fun item =>
      (transcript.window.items.length - 1, item) := by
  unfold Transcript.tail Window.visible
  rcases hshown with hstart | hnil
  · rw [List.getLast?_drop, if_neg (not_le.mpr hstart), List.getLast?_eq_getElem?]
  · simp [hnil]

/-- Replacing the last item. -/
theorem replace_last (hsound : transcript.window.Sound (transcriptItemBytes stringify))
    {front : List AcpTranscriptItem} {last : AcpTranscriptItem}
    (hvisible : transcript.window.visible = front ++ [last]) (item : AcpTranscriptItem) :
    (transcript.window.replace (transcript.window.items.length - 1) item
        (transcriptItemBytes stringify item)).Sound (transcriptItemBytes stringify) ∧
      (transcript.window.replace (transcript.window.items.length - 1) item
        (transcriptItemBytes stringify item)).visible = front ++ [item] := by
  have hlength := Window.length_visible transcript.window
  rw [hvisible, List.length_append, List.length_singleton] at hlength
  have hstart : transcript.window.start ≤ transcript.window.items.length - 1 := by omega
  refine ⟨hsound.replace hstart (by omega) item, ?_⟩
  rw [Window.visible_replace hstart, hvisible,
    show transcript.window.items.length - 1 - transcript.window.start = front.length by omega,
    List.set_append_right _ _ (Nat.le_refl _), Nat.sub_self]
  rfl

/-- Joined chunks have the bytes of the chunks. -/
theorem utf16_bytes_flatten (chunks : List (List Nat)) :
    utf16Bytes chunks.flatten = (chunks.map utf16Bytes).sum := by
  induction chunks with
  | nil => rfl
  | cons chunk rest ih =>
      rw [List.flatten_cons, List.map_cons, List.sum_cons, ← ih]
      unfold utf16Bytes
      rw [List.length_append, Nat.add_mul]

/-- A collapsed item has the bytes of the item. -/
theorem collapse_item_bytes (item : AcpTranscriptItem) :
    transcriptItemBytes stringify (collapseItem item) = transcriptItemBytes stringify item := by
  unfold collapseItem
  split
  case h_1 key revision kind messageId chunks activityText =>
      split
      · rfl
      · show ([chunks.flatten].map utf16Bytes).sum = (chunks.map utf16Bytes).sum
        rw [← utf16_bytes_flatten chunks]
        exact Nat.add_zero _
  case h_2 => rfl

/-- A collapsed item belongs to the same call. -/
theorem collapse_item_call (item : AcpTranscriptItem) :
    (collapseItem item).toolCallId = item.toolCallId := by
  unfold collapseItem
  split
  case h_1 =>
      split <;> rfl
  case h_2 => rfl

/-- Two transcripts with arrays of one length, one start, one index and one flag. -/
structure SameShape (before after : Transcript) : Prop where
  start_eq : after.window.start = before.window.start
  length_eq : after.window.items.length = before.window.items.length
  index_eq : after.toolIndex = before.toolIndex
  truncated_eq : after.replayTruncated = before.replayTruncated

/-- A last item replaced by one of the same size. -/
theorem replace_same_size (h : Bounded stringify transcript) {front : List AcpTranscriptItem}
    {last item : AcpTranscriptItem} (hvisible : transcript.window.visible = front ++ [last])
    (hbytes : transcriptItemBytes stringify item = transcriptItemBytes stringify last) :
    Bounded stringify (transcript.replaceItem stringify
        (transcript.window.items.length - 1) item none) ∧
      (transcript.replaceItem stringify (transcript.window.items.length - 1) item
        none).window.visible = front ++ [item] ∧
      SameShape transcript (transcript.replaceItem stringify
        (transcript.window.items.length - 1) item none) := by
  obtain ⟨hsound, hafter⟩ := replace_last h.sound hvisible item
  have hlength : (transcript.window.replace (transcript.window.items.length - 1) item
      (transcriptItemBytes stringify item)).items.length = transcript.window.items.length :=
    List.length_set
  have hfits : transcriptFits stringify (front ++ [item]) = true := by
    have hbefore := h.fits
    rw [hvisible] at hbefore
    unfold transcriptFits itemsBytes at *
    simp only [List.map_append, List.map_cons, List.map_nil, List.length_append, List.length_cons,
      hbytes] at *
    exact hbefore
  have hsettled : (transcript.window.replace (transcript.window.items.length - 1) item
      (transcriptItemBytes stringify item)).compactDue COMPACT_PREFIX_AT = false := by
    have hbefore := h.settled
    unfold Window.compactDue at *
    rw [hlength]
    exact hbefore
  have hshown : (transcript.window.replace (transcript.window.items.length - 1) item
        (transcriptItemBytes stringify item)).start <
      (transcript.window.replace (transcript.window.items.length - 1) item
        (transcriptItemBytes stringify item)).items.length :=
    start_lt_of_visible (by rw [hafter]; simp)
  have hself := @trim_of_settled _ { transcript with
    window := transcript.window.replace (transcript.window.items.length - 1) item
      (transcriptItemBytes stringify item) } hsound (by rw [hafter]; exact hfits) hshown hsettled
  unfold Transcript.replaceItem
  simp only
  rw [hself]
  exact ⟨⟨hsound, .inl hshown, by rw [hafter]; exact hfits, hsettled⟩, hafter,
    ⟨rfl, hlength, rfl, rfl⟩⟩

/-- Collapsing closes the text at the end and changes nothing else. -/
theorem collapse_result (h : Bounded stringify transcript) :
    Bounded stringify (transcript.collapseTailTextChunks stringify) ∧
      (transcript.collapseTailTextChunks stringify).window.visible =
        collapsed transcript.window.visible ∧
      SameShape transcript (transcript.collapseTailTextChunks stringify) := by
  unfold Transcript.collapseTailTextChunks
  rw [tail_eq h.shown]
  rcases List.eq_nil_or_concat transcript.window.visible with hnil | ⟨front, last, hlast⟩
  · rw [hnil]
    exact ⟨h, hnil, ⟨rfl, rfl, rfl, rfl⟩⟩
  · rw [List.concat_eq_append] at hlast
    rw [hlast, List.getLast?_concat, collapsed, map_last_append]
    simp only [Option.map_some]
    obtain ⟨key, revision, body⟩ := last
    cases body with
    | streamed kind messageId chunks activityText =>
        simp only
        by_cases hone : chunks.length ≤ 1
        · have hitem : collapseItem ⟨key, revision, .streamed kind messageId chunks activityText⟩ =
              ⟨key, revision, .streamed kind messageId chunks activityText⟩ := if_pos hone
          rw [if_pos hone, hitem]
          exact ⟨h, hlast, ⟨rfl, rfl, rfl, rfl⟩⟩
        · have hitem : collapseItem ⟨key, revision, .streamed kind messageId chunks activityText⟩ =
              ⟨key, revision + 1, .streamed kind messageId [chunks.flatten] activityText⟩ :=
            if_neg hone
          rw [if_neg hone, hitem]
          refine replace_same_size h hlast ?_
          rw [← hitem]
          exact collapse_item_bytes _
    | user text attachments messageId => exact ⟨h, hlast, ⟨rfl, rfl, rfl, rfl⟩⟩
    | tool toolCallId data => exact ⟨h, hlast, ⟨rfl, rfl, rfl, rfl⟩⟩
    | permission event => exact ⟨h, hlast, ⟨rfl, rfl, rfl, rfl⟩⟩
    | plan data => exact ⟨h, hlast, ⟨rfl, rfl, rfl, rfl⟩⟩
    | error message => exact ⟨h, hlast, ⟨rfl, rfl, rfl, rfl⟩⟩
    | turnEnd stopReason => exact ⟨h, hlast, ⟨rfl, rfl, rfl, rfl⟩⟩

/-- Mapping the last item to one of the same call changes no call. -/
theorem calls_of_map_last {f : AcpTranscriptItem → AcpTranscriptItem}
    (hf : ∀ item, (f item).toolCallId = item.toolCallId) (items : List AcpTranscriptItem) :
    (mapLast f items).map (·.toolCallId) = items.map (·.toolCallId) := by
  induction items using mapLast.induct with
  | case1 => rfl
  | case2 item => simp [mapLast, hf]
  | case3 item next rest ih =>
      rw [mapLast, List.map_cons, List.map_cons, ih]

/-- Collapsing keeps the index right. -/
theorem collapse_indexed (h : Bounded stringify transcript) (hindex : Indexed transcript) :
    Indexed (transcript.collapseTailTextChunks stringify) := by
  obtain ⟨-, hvisible, hshape⟩ := collapse_result h
  intro call
  unfold RightAt
  rw [hshape.index_eq, hshape.start_eq, hvisible, hindex call]
  congr 1
  exact last_tool_congr (calls_of_map_last collapse_item_call _).symm call

/-! ## Steps -/

/-- The change introduces the call itself. -/
def TranscriptChange.introduces : TranscriptChange → String → Prop
  | .call _ toolCallId _, other => other = toolCallId
  | _, _ => False

/-- The limits drop no item of a tool call while they keep another one of it, apart from the call
that the change introduces, unless the array is cut. -/
def KeepsCalls (stringify : Json → Option Nat) (transcript : Transcript)
    (change : TranscriptChange) : Prop :=
  let items := transcript.window.visible
  Cuts transcript.window.start (transcript.window.start + (changed items change).length)
      (droppedItems stringify items change).length ∨
    ∀ call ∈ callsOf (droppedItems stringify items change),
      call ∈ callsOf (keptItems stringify items change) → change.introduces call

/-- What a change of a transcript with a right index leads to. -/
structure StepResult (stringify : Json → Option Nat) (before after : Transcript)
    (change : TranscriptChange) : Prop where
  bounded : Bounded stringify after
  visible_eq : after.window.visible = shownAfter stringify before.window.visible change
  truncated_eq : after.replayTruncated = (before.replayTruncated ||
    decide (after.window.visible ≠ changed before.window.visible change))
  indexed_iff : Indexed after ↔ KeepsCalls stringify before change

/-- A new item is pushed and the transcript is trimmed. -/
theorem append_result (h : Bounded stringify transcript) (item : AcpTranscriptItem) :
    TrimResult stringify
      { transcript with
        window := transcript.window.push item (transcriptItemBytes stringify item) }
      (transcript.appendItem stringify item).1 := by
  refine trim_result (h.sound.push item) ?_
  show transcript.window.start < (transcript.window.items ++ [item]).length
  have := h.sound.start_le
  rw [List.length_append, List.length_singleton]
  omega

/-- What a change leads to when it is made and then trimmed, for the calls that the change does not
introduce. -/
structure TrimStep (stringify : Json → Option Nat) (before after : Transcript)
    (change : TranscriptChange) : Prop where
  bounded : Bounded stringify after
  visible_eq : after.window.visible = keptItems stringify before.window.visible change
  truncated_eq : after.replayTruncated = (before.replayTruncated ||
    decide (after.window.visible ≠ changed before.window.visible change))
  right_at_iff : ∀ call, ¬ change.introduces call →
    (RightAt after call ↔
      Cuts before.window.start
          (before.window.start + (changed before.window.visible change).length)
          (droppedItems stringify before.window.visible change).length ∨
        (call ∈ callsOf (droppedItems stringify before.window.visible change) →
          call ∉ callsOf (keptItems stringify before.window.visible change)))

/-- A trim of the changed items. -/
theorem trim_step {middle after : Transcript} {change : TranscriptChange}
    (h : TrimResult stringify middle after)
    (hvisible : middle.window.visible = changed transcript.window.visible change)
    (hstart : middle.window.start = transcript.window.start)
    (hflag : middle.replayTruncated = transcript.replayTruncated)
    (hle : middle.window.start ≤ middle.window.items.length)
    (hright : ∀ call, ¬ change.introduces call → RightAt middle call) :
    TrimStep stringify transcript after change := by
  have hkept : after.window.visible =
      keptItems stringify transcript.window.visible change := by
    rw [h.visible_eq, hvisible]
    rfl
  refine ⟨h.bounded, hkept, ?_, ?_⟩
  · rw [h.truncated_eq, hflag, hvisible]
  · intro call hcall
    have hiff := h.right_at_iff (hright call hcall) hle
    rw [hvisible, hstart, hkept] at hiff
    exact hiff

/-- Without an introduced call, the index is right exactly when the calls are kept. -/
theorem TrimStep.indexed_iff {after : Transcript} {change : TranscriptChange}
    (h : TrimStep stringify transcript after change)
    (hintroduces : ∀ call, ¬ change.introduces call) :
    Indexed after ↔ KeepsCalls stringify transcript change := by
  have hall : Indexed after ↔ ∀ call, Cuts transcript.window.start
        (transcript.window.start + (changed transcript.window.visible change).length)
        (droppedItems stringify transcript.window.visible change).length ∨
      (call ∈ callsOf (droppedItems stringify transcript.window.visible change) →
        call ∉ callsOf (keptItems stringify transcript.window.visible change)) :=
    forall_congr' fun call => h.right_at_iff call (hintroduces call)
  rw [hall, forall_or_left]
  refine or_congr Iff.rfl (forall_congr' fun call => ?_)
  simp only [hintroduces call, imp_false]

/-- The array with a new item. -/
theorem push_start_le (h : Bounded stringify transcript) (item : AcpTranscriptItem) :
    (transcript.window.push item (transcriptItemBytes stringify item)).start ≤
      (transcript.window.push item (transcriptItemBytes stringify item)).items.length :=
  (h.sound.push item).start_le

/-- A change that appends an item of no call. -/
theorem push_step (h : Bounded stringify transcript) (hindex : Indexed transcript)
    {change : TranscriptChange} {item : AcpTranscriptItem} (hcall : item.toolCallId = none)
    (hchanged : changed transcript.window.visible change =
      collapsed transcript.window.visible ++ [item]) :
    TrimStep stringify transcript
      ((transcript.collapseTailTextChunks stringify).appendItem stringify item).1 change := by
  obtain ⟨hbounded, hvisible, hshape⟩ := collapse_result h
  have hpushed := Window.visible_push hbounded.sound item (transcriptItemBytes stringify item)
  rw [hvisible, ← hchanged] at hpushed
  refine trim_step (append_result hbounded item) hpushed hshape.start_eq hshape.truncated_eq
    (push_start_le hbounded item) ?_
  intro call _
  unfold RightAt
  rw [show Window.visible _ = _ from hpushed, hchanged, last_tool_append]
  simp only [lastTool, hcall, reduceCtorEq, if_false]
  rw [← hvisible]
  exact collapse_indexed h hindex call

/-- What is kept of a list with a new item ends with the item. -/
theorem kept_last (items : List AcpTranscriptItem) (item : AcpTranscriptItem) :
    ∃ front, newestFitting (transcriptFits stringify) (items ++ [item]) = front ++ [item] :=
  newest_fitting_last (by simp [transcriptFits]) items

/-- A new tool call. -/
theorem call_step (h : Bounded stringify transcript) (hindex : Indexed transcript)
    (key toolCallId : String) (data : Json) :
    StepResult stringify transcript
      ((transcript.collapseTailTextChunks stringify).appendTool stringify key toolCallId data)
      (.call key toolCallId data) := by
  obtain ⟨hbounded, hvisible, hshape⟩ := collapse_result h
  set item : AcpTranscriptItem := ⟨key, 0, .tool toolCallId data⟩ with hitem
  have hpushed := Window.visible_push hbounded.sound item (transcriptItemBytes stringify item)
  rw [hvisible] at hpushed
  have hstep : TrimStep stringify transcript
      ((transcript.collapseTailTextChunks stringify).appendItem stringify item).1
      (.call key toolCallId data) := by
    refine trim_step (append_result hbounded item) hpushed hshape.start_eq hshape.truncated_eq
      (push_start_le hbounded item) ?_
    intro call hcall
    have hne : ¬ toolCallId = call := fun h => hcall h.symm
    unfold RightAt
    rw [show Window.visible _ = _ from hpushed, last_tool_append]
    simp only [lastTool, hitem, AcpTranscriptItem.toolCallId, Option.some.injEq, hne, if_false]
    rw [← hvisible]
    exact collapse_indexed h hindex call
  unfold Transcript.appendTool
  simp only
  generalize hafter :
    ((transcript.collapseTailTextChunks stringify).appendItem stringify item).1 = after at *
  have hlast : ((transcript.collapseTailTextChunks stringify).appendItem stringify item).2 =
      after.window.items.length - 1 := by
    rw [← hafter]
    rfl
  rw [hlast]
  -- the new entry is the position of the last item
  have hown : lastTool toolCallId after.window.visible =
      some (after.window.visible.length - 1) := by
    obtain ⟨front, hfront⟩ := @kept_last stringify
      (collapsed transcript.window.visible) item
    rw [hstep.visible_eq]
    show lastTool toolCallId (newestFitting _ (collapsed transcript.window.visible ++ [item])) =
      some ((newestFitting _ (collapsed transcript.window.visible ++ [item])).length - 1)
    rw [hfront, last_tool_append]
    simp [lastTool, hitem, AcpTranscriptItem.toolCallId]
  have hposition : after.window.visible.length - 1 + after.window.start =
      after.window.items.length - 1 := by
    have hlength := Window.length_visible after.window
    have hne : after.window.visible ≠ [] := by
      intro hnil
      rw [hnil] at hown
      cases hown
    have hpos := List.length_pos_iff.mpr hne
    omega
  refine ⟨⟨hstep.bounded.sound, hstep.bounded.shown, hstep.bounded.fits, hstep.bounded.settled⟩,
    hstep.visible_eq, hstep.truncated_eq, ?_⟩
  have hcalls : ∀ call, RightAt { after with
      toolIndex := fun other =>
        if other = toolCallId then some (after.window.items.length - 1)
        else after.toolIndex other } call ↔
      (call = toolCallId ∨ RightAt after call) := by
    intro call
    unfold RightAt
    simp only
    by_cases hcall : call = toolCallId
    · subst hcall
      rw [if_pos rfl, hown, Option.map_some, hposition]
      simp
    · rw [if_neg hcall]
      simp [hcall]
  show (∀ call, _) ↔ _
  rw [forall_congr' hcalls]
  unfold KeepsCalls
  rw [← forall_or_left]
  refine forall_congr' fun call => ?_
  by_cases hcall : call = toolCallId
  · simp [hcall, TranscriptChange.introduces]
  · rw [or_iff_right hcall, hstep.right_at_iff call hcall]
    simp only [TranscriptChange.introduces, hcall, imp_false]

/-- The calls of a part of the items. -/
theorem calls_subset {items items' : List AcpTranscriptItem} (h : items ⊆ items') :
    callsOf items ⊆ callsOf items' := List.filterMap_subset _ h

/-- An update of a call without an item is a new tool call. -/
theorem update_new_step (h : Bounded stringify transcript) (hindex : Indexed transcript)
    {key toolCallId : String} {data : Json}
    (hnone : lastTool toolCallId (collapsed transcript.window.visible) = none) :
    StepResult stringify transcript
      ((transcript.collapseTailTextChunks stringify).updateTool stringify key toolCallId data)
      (.update key toolCallId data) := by
  obtain ⟨hbounded, hvisible, hshape⟩ := collapse_result h
  have hcall := call_step h hindex key toolCallId data
  have hchanged : changed transcript.window.visible (.update key toolCallId data) =
      changed transcript.window.visible (.call key toolCallId data) := by
    simp only [changed, hnone]
  have hentry : (transcript.collapseTailTextChunks stringify).toolIndex toolCallId = none := by
    rw [collapse_indexed h hindex toolCallId, hvisible, hnone]
    rfl
  have hsame : (transcript.collapseTailTextChunks stringify).updateTool stringify key toolCallId
      data = (transcript.collapseTailTextChunks stringify).appendTool stringify key toolCallId
        data := by
    unfold Transcript.updateTool
    rw [hentry]
    rfl
  rw [hsame]
  have hkept : keptItems stringify transcript.window.visible (.update key toolCallId data) =
      keptItems stringify transcript.window.visible (.call key toolCallId data) := by
    unfold keptItems
    rw [hchanged]
  have hdropped : droppedItems stringify transcript.window.visible (.update key toolCallId data) =
      droppedItems stringify transcript.window.visible (.call key toolCallId data) := by
    unfold droppedItems
    rw [hchanged, hkept]
  refine ⟨hcall.bounded, ?_, ?_, ?_⟩
  · rw [hcall.visible_eq]
    exact hkept.symm
  · rw [hcall.truncated_eq, hchanged]
  · rw [hcall.indexed_iff]
    unfold KeepsCalls
    simp only [hchanged, hkept, hdropped]
    refine or_congr Iff.rfl (forall₂_congr fun call hmem => ?_)
    refine imp_congr_right fun _ => ?_
    -- the call itself has no item that could be dropped
    refine iff_of_false ?_ id
    rintro rfl
    refine last_tool_eq_none_iff.mp hnone (calls_subset ?_ hmem)
    obtain ⟨front, hfront⟩ := @kept_last stringify
      (collapsed transcript.window.visible) ⟨key, 0, .tool call data⟩
    have hsplit := @trimmed_append stringify
      (collapsed transcript.window.visible ++ [⟨key, 0, .tool call data⟩])
    rw [hfront, ← List.append_assoc] at hsplit
    have hitems := List.append_cancel_right hsplit
    intro item hdroppedItem
    rw [hitems]
    exact List.mem_append_left _ hdroppedItem

/-- A tool item with more data belongs to the same call. -/
theorem update_item_call (data : Json) (item : AcpTranscriptItem) :
    (updateItem data item).toolCallId = item.toolCallId := by
  unfold updateItem
  split <;> rfl

/-- An update of a call with an item changes the last of them in place. -/
theorem update_place_step (h : Bounded stringify transcript) (hindex : Indexed transcript)
    {key toolCallId : String} {data : Json} {position : Nat}
    (hposition : lastTool toolCallId (collapsed transcript.window.visible) = some position) :
    StepResult stringify transcript
      ((transcript.collapseTailTextChunks stringify).updateTool stringify key toolCallId data)
      (.update key toolCallId data) := by
  obtain ⟨hbounded, hvisible, hshape⟩ := collapse_result h
  have hindexed := collapse_indexed h hindex
  generalize transcript.collapseTailTextChunks stringify = start at *
  obtain ⟨item, hitem, hcall⟩ := item_of_last_tool hposition
  rw [← hvisible] at hitem hposition
  have hlt : position < start.window.visible.length := by
    rw [List.getElem?_eq_some_iff] at hitem
    exact hitem.1
  have hlength := Window.length_visible start.window
  have hentry : start.toolIndex toolCallId = some (position + start.window.start) := by
    rw [hindexed toolCallId, hposition]
    rfl
  have hfound : start.window.items[position + start.window.start]? = some item := by
    rw [← hitem]
    unfold Window.visible
    rw [List.getElem?_drop, Nat.add_comm]
  -- the item is one of the call
  obtain ⟨itemKey, revision, body⟩ := item
  cases body with
  | tool id before =>
      obtain rfl : id = toolCallId := by simpa [AcpTranscriptItem.toolCallId] using hcall
      set updated : AcpTranscriptItem := ⟨itemKey, revision + 1, .tool id (spread before data)⟩
        with hupdated
      have hresult : start.updateTool stringify key id data =
          start.replaceItem stringify (position + start.window.start) updated none := by
        unfold Transcript.updateTool
        rw [hentry]
        simp only [Option.bind_some, hfound, Option.map_some]
        rfl
      have hmiddle : (start.window.replace (position + start.window.start) updated
          (transcriptItemBytes stringify updated)).visible =
            changed transcript.window.visible (.update key id data) := by
        rw [Window.visible_replace (Nat.le_add_left _ _), Nat.add_sub_cancel]
        simp only [changed]
        rw [← hvisible, hposition]
        simp only
        rw [List.modify_eq_set_getElem?, hitem]
        rfl
      have hsound := hbounded.sound.replace (Nat.le_add_left start.window.start position)
        (by omega) updated
      have htrim : TrimResult stringify { start with
          window := start.window.replace (position + start.window.start) updated
            (transcriptItemBytes stringify updated) }
          (start.replaceItem stringify (position + start.window.start) updated none) := by
        refine trim_result hsound ?_
        show start.window.start < (start.window.items.set _ _).length
        rw [List.length_set]
        omega
      have hstep : TrimStep stringify transcript
          (start.replaceItem stringify (position + start.window.start) updated none)
          (.update key id data) := by
        refine trim_step htrim hmiddle hshape.start_eq hshape.truncated_eq hsound.start_le ?_
        intro call _
        unfold RightAt
        rw [show Window.visible _ = _ from hmiddle]
        simp only [changed]
        rw [← hvisible, hposition]
        simp only
        have hsame : (start.window.visible.modify position (updateItem data)).map
            (·.toolCallId) = start.window.visible.map (·.toolCallId) := by
          refine List.ext_getElem? fun i => ?_
          rw [List.getElem?_map, List.getElem?_map, List.getElem?_modify]
          cases start.window.visible[i]? with
          | none => simp
          | some other =>
              by_cases hi : position = i <;> simp [hi, update_item_call]
        rw [last_tool_congr hsame call]
        exact hindexed call
      rw [hresult]
      exact ⟨hstep.bounded, hstep.visible_eq, hstep.truncated_eq,
        hstep.indexed_iff fun _ h => h⟩
  | user text attachments messageId => cases hcall
  | streamed kind messageId chunks activityText => cases hcall
  | permission event => cases hcall
  | plan data => cases hcall
  | error message => cases hcall
  | turnEnd stopReason => cases hcall

/-- An update of a tool call. -/
theorem update_step (h : Bounded stringify transcript) (hindex : Indexed transcript)
    (key toolCallId : String) (data : Json) :
    StepResult stringify transcript
      ((transcript.collapseTailTextChunks stringify).updateTool stringify key toolCallId data)
      (.update key toolCallId data) := by
  cases hposition : lastTool toolCallId (collapsed transcript.window.visible) with
  | none => exact update_new_step h hindex hposition
  | some position => exact update_place_step h hindex hposition

/-! ## Texts -/

/-- A last item that takes more text, followed by a trim. -/
theorem extend_step (h : Bounded stringify transcript) (hindex : Indexed transcript)
    {front : List AcpTranscriptItem} {last item : AcpTranscriptItem}
    (hvisible : transcript.window.visible = front ++ [last])
    (hcall : item.toolCallId = last.toolCallId) {change : TranscriptChange}
    (hchanged : changed transcript.window.visible change = front ++ [item])
    {appended : Option Nat} (happended : ∀ bytes ∈ appended,
      transcriptItemBytes stringify item = transcriptItemBytes stringify last + bytes) :
    TrimStep stringify transcript
      (transcript.replaceItem stringify (transcript.window.items.length - 1) item appended)
      change := by
  obtain ⟨hsound, hafter⟩ := replace_last h.sound hvisible item
  have hlength := Window.length_visible transcript.window
  rw [hvisible, List.length_append, List.length_singleton] at hlength
  have hresult : transcript.replaceItem stringify (transcript.window.items.length - 1) item
      appended = Transcript.trimTranscript { transcript with
        window := transcript.window.replace (transcript.window.items.length - 1) item
          (transcriptItemBytes stringify item) } := by
    cases appended with
    | none => rfl
    | some bytes =>
        have hlast : transcript.window.items[transcript.window.items.length - 1]? =
            some last := by
          have hend : transcript.window.visible[front.length]? = some last := by
            rw [hvisible, List.getElem?_concat_length]
          rw [Window.visible, List.getElem?_drop] at hend
          rwa [show transcript.window.start + front.length =
            transcript.window.items.length - 1 by omega] at hend
        have hbytes : transcript.window.bytes[transcript.window.items.length - 1]?.getD 0 + bytes =
            transcriptItemBytes stringify item := by
          rw [h.sound.bytes_eq, List.getElem?_map, hlast, happended bytes rfl]
          rfl
        unfold Transcript.replaceItem
        simp only [hbytes]
  have hstart : (transcript.window.replace (transcript.window.items.length - 1) item
        (transcriptItemBytes stringify item)).start <
      (transcript.window.replace (transcript.window.items.length - 1) item
        (transcriptItemBytes stringify item)).items.length :=
    start_lt_of_visible (by rw [hafter]; simp)
  rw [hresult]
  refine trim_step (trim_result hsound hstart) (by rw [hchanged]; exact hafter) rfl rfl
    hsound.start_le ?_
  intro call _
  unfold RightAt
  rw [show Window.visible _ = _ from hafter, hindex call, hvisible]
  congr 1
  exact last_tool_congr (by simp [hcall]) call

/-- A step without a cut. -/
theorem TrimStep.result {after : Transcript} {change : TranscriptChange}
    (h : TrimStep stringify transcript after change)
    (hintroduces : ∀ call, ¬ change.introduces call)
    (hshown : shownAfter stringify transcript.window.visible change =
      keptItems stringify transcript.window.visible change) :
    StepResult stringify transcript after change :=
  ⟨h.bounded, h.visible_eq.trans hshown.symm, h.truncated_eq, h.indexed_iff hintroduces⟩

/-- An item of a user that takes more text belongs to no call. -/
theorem with_user_chunk_call {messageId : Option String} {text : List Nat}
    {last item : AcpTranscriptItem} (h : withUserChunk messageId text last = some item) :
    last.toolCallId = none ∧ item.toolCallId = none := by
  unfold withUserChunk at h
  split at h
  case h_1 =>
      split at h
      case isTrue =>
          obtain rfl := Option.some.inj h
          exact ⟨rfl, rfl⟩
      case isFalse => cases h
  case h_2 => cases h

/-- A chunk of a user. -/
theorem user_text_step (h : Bounded stringify transcript) (hindex : Indexed transcript)
    (key : String) (messageId : Option String) (text : List Nat) :
    StepResult stringify transcript
      (transcript.appendUserChunk stringify key messageId text) (.userText key messageId text) := by
  cases htail : transcript.window.visible.getLast?.bind (withUserChunk messageId text) with
  | none =>
      have hstart : transcript.appendUserChunk stringify key messageId text =
          ((transcript.collapseTailTextChunks stringify).appendItem stringify
            ⟨key, 0, .user text [] messageId⟩).1 := by
        unfold Transcript.appendUserChunk
        rw [tail_eq h.shown]
        cases hlast : transcript.window.visible.getLast? with
        | none => rfl
        | some last =>
            rw [hlast] at htail
            obtain ⟨lastKey, revision, body⟩ := last
            cases body with
            | user text' attachments messageId' =>
                simp only [Option.bind_some, withUserChunk] at htail
                simp only [Option.map_some]
                split at htail
                case isTrue => cases htail
                case isFalse hnot => rw [if_neg hnot]
            | tool toolCallId data => rfl
            | streamed kind messageId chunks activityText => rfl
            | permission event => rfl
            | plan data => rfl
            | error message => rfl
            | turnEnd stopReason => rfl
      rw [hstart]
      refine (push_step h hindex rfl ?_).result (fun _ h => h) rfl
      simp only [changed, htail]
  | some item =>
      obtain ⟨last, hlast, hitem⟩ := Option.bind_eq_some_iff.mp htail
      have hvisible := List.dropLast_append_getLast? last hlast
      have hcalls := with_user_chunk_call hitem
      have hresult : transcript.appendUserChunk stringify key messageId text =
          transcript.replaceItem stringify (transcript.window.items.length - 1) item none := by
        unfold Transcript.appendUserChunk
        rw [tail_eq h.shown, hlast]
        obtain ⟨lastKey, revision, body⟩ := last
        cases body with
        | user text' attachments messageId' =>
            simp only [withUserChunk] at hitem
            simp only [Option.map_some]
            split at hitem
            case isTrue hsame =>
                obtain rfl := Option.some.inj hitem
                rw [if_pos hsame]
            case isFalse => cases hitem
        | tool toolCallId data => cases hitem
        | streamed kind messageId chunks activityText => cases hitem
        | permission event => cases hitem
        | plan data => cases hitem
        | error message => cases hitem
        | turnEnd stopReason => cases hitem
      rw [hresult]
      refine (extend_step h hindex hvisible.symm (by rw [hcalls.1, hcalls.2]) ?_ ?_).result
        (fun _ h => h) rfl
      · simp only [changed, htail]
      · intro bytes hbytes
        cases hbytes

/-- The end of a text has no more units than asked for. -/
theorem length_last_units_le (count : Nat) (text : List Nat) :
    (lastUnits count text).length ≤ count := by
  unfold lastUnits
  rw [List.length_drop]
  omega

/-- A cut item is within the limits. -/
theorem cut_item_bytes_le (key : String) (revision : Nat) (kind : StreamedKind)
    (messageId : Option String) (chunks : List (List Nat)) (activityText : List Nat) :
    transcriptItemBytes stringify
      (cutItem ⟨key, revision, .streamed kind messageId chunks activityText⟩) ≤
        COMPACTED_TEXT_BYTES := by
  have hlength := length_last_units_le (COMPACTED_TEXT_BYTES / 2) chunks.flatten
  show ([lastUnits (COMPACTED_TEXT_BYTES / 2) chunks.flatten].map utf16Bytes).sum ≤ _
  rw [List.map_cons, List.map_nil, List.sum_cons, List.sum_nil]
  unfold utf16Bytes
  unfold COMPACTED_TEXT_BYTES at *
  omega

/-- A streamed text at the end that is still too large is cut. -/
theorem compact_step {kind : StreamedKind} {key : String} {messageId : Option String}
    {text : List Nat} {after : Transcript}
    (h : TrimStep stringify transcript after (.streamed kind key messageId text))
    {front : List AcpTranscriptItem} {lastKey : String} {revision : Nat}
    {kind' : StreamedKind} {messageId' : Option String} {chunks : List (List Nat)}
    {activityText : List Nat}
    (hchanged : changed transcript.window.visible (.streamed kind key messageId text) =
      front ++ [⟨lastKey, revision, .streamed kind' messageId' chunks activityText⟩]) :
    StepResult stringify transcript (after.compactOversizedTailText stringify)
      (.streamed kind key messageId text) := by
  set item : AcpTranscriptItem :=
    ⟨lastKey, revision, .streamed kind' messageId' chunks activityText⟩ with hitem
  have htotal := h.bounded.sound.total_eq
  have hkept : ∃ front', keptItems stringify transcript.window.visible
      (.streamed kind key messageId text) = front' ++ [item] := by
    unfold keptItems
    rw [hchanged]
    exact kept_last front item
  obtain ⟨front', hfront'⟩ := hkept
  have hbytes : after.window.total = (itemsBytes stringify
      (keptItems stringify transcript.window.visible
        (.streamed kind key messageId text)) : Nat) := by
    rw [htotal, h.visible_eq]
    rfl
  unfold Transcript.compactOversizedTailText
  by_cases hsmall : itemsBytes stringify (keptItems stringify transcript.window.visible
      (.streamed kind key messageId text)) ≤ MAX_TRANSCRIPT_BYTES
  · rw [if_pos (by rw [hbytes]; exact_mod_cast hsmall)]
    refine h.result (fun _ h => h) ?_
    unfold shownAfter
    simp only
    rw [if_pos hsmall]
  · rw [if_neg (by rw [hbytes]; exact_mod_cast hsmall)]
    -- only the text itself is left
    have hvisible : after.window.visible = [item] := by
      have hfits := h.bounded.fits
      rw [h.visible_eq] at hfits ⊢
      unfold transcriptFits at hfits
      have hone : (keptItems stringify transcript.window.visible
          (.streamed kind key messageId text)).length ≤ 1 := by
        by_contra hmany
        simp [hmany, hsmall] at hfits
      rw [hfront', List.length_append, List.length_singleton] at hone
      have hnil : front' = [] := List.length_eq_zero_iff.mp (by omega)
      rw [hfront', hnil, List.nil_append]
    have hlarge : MAX_TRANSCRIPT_BYTES < transcriptItemBytes stringify item := by
      rw [← h.visible_eq, hvisible] at hsmall
      simpa [itemsBytes] using hsmall
    have hsplit : after.window.visible = [] ++ [item] := hvisible
    obtain ⟨hsound, hcut⟩ := replace_last h.bounded.sound hsplit (cutItem item)
    have hlength : (after.window.replace (after.window.items.length - 1) (cutItem item)
        (transcriptItemBytes stringify (cutItem item))).items.length =
          after.window.items.length := List.length_set
    have hsettled : (after.window.replace (after.window.items.length - 1) (cutItem item)
        (transcriptItemBytes stringify (cutItem item))).compactDue COMPACT_PREFIX_AT = false := by
      have hbefore := h.bounded.settled
      unfold Window.compactDue at *
      rw [hlength]
      exact hbefore
    have hshown : (after.window.replace (after.window.items.length - 1) (cutItem item)
          (transcriptItemBytes stringify (cutItem item))).start <
        (after.window.replace (after.window.items.length - 1) (cutItem item)
          (transcriptItemBytes stringify (cutItem item))).items.length :=
      start_lt_of_visible (by rw [hcut]; simp)
    have hfits : transcriptFits stringify ([] ++ [cutItem item]) = true := rfl
    have hself := @trim_of_settled _ { after with
      window := after.window.replace (after.window.items.length - 1) (cutItem item)
        (transcriptItemBytes stringify (cutItem item)) } hsound (by rw [hcut]; exact hfits)
      hshown hsettled
    have htail : after.tail = some (after.window.items.length - 1, item) := by
      rw [tail_eq h.bounded.shown, hvisible]
      rfl
    rw [htail]
    show StepResult stringify transcript
      { after.replaceItem stringify (after.window.items.length - 1) (cutItem item) none with
        replayTruncated := true } _
    have hreplaced : after.replaceItem stringify (after.window.items.length - 1) (cutItem item)
        none = { after with
          window := after.window.replace (after.window.items.length - 1) (cutItem item)
            (transcriptItemBytes stringify (cutItem item)) } := hself
    rw [hreplaced]
    refine ⟨⟨hsound, .inl hshown, by rw [hcut]; exact hfits, hsettled⟩, ?_, ?_, ?_⟩
    · rw [hcut]
      unfold shownAfter
      simp only
      rw [if_neg hsmall, ← h.visible_eq, hvisible]
      rfl
    · -- the cut text is shorter
      have hne : [] ++ [cutItem item] ≠ changed transcript.window.visible
          (.streamed kind key messageId text) := by
        rw [hchanged]
        intro heq
        have hlast := congrArg List.getLast? heq
        rw [List.nil_append, List.getLast?_concat, List.getLast?_singleton] at hlast
        have hbound := @cut_item_bytes_le stringify lastKey revision kind' messageId'
          chunks activityText
        rw [← hitem, Option.some.inj hlast] at hbound
        unfold COMPACTED_TEXT_BYTES at hbound
        unfold MAX_TRANSCRIPT_BYTES at hlarge
        omega
      show true = _
      rw [show Window.visible _ = _ from hcut, decide_eq_true hne, Bool.or_true]
    · rw [← h.indexed_iff fun _ h => h]
      refine forall_congr' fun call => ?_
      unfold RightAt
      rw [show Window.visible _ = _ from hcut, hvisible]
      rfl

/-- A streamed item that takes more text stays one of the same kind. -/
theorem with_chunk_some {kind : StreamedKind} {messageId : Option String} {text : List Nat}
    {last item : AcpTranscriptItem} (h : withChunk kind messageId text last = some item) :
    ∃ key revision kind' messageId' chunks activityText,
      last = ⟨key, revision, .streamed kind' messageId' chunks activityText⟩ ∧
      item = ⟨key, revision + 1, .streamed kind' messageId' (chunks ++ [text])
        (lastUnits MAX_ACTIVITY_TEXT_CHARS (activityText ++ text))⟩ ∧
      kind' = kind ∧ (messageId = none ∨ messageId' = messageId) := by
  unfold withChunk at h
  split at h
  case h_1 key revision kind' messageId' chunks activityText =>
      split at h
      case isTrue hsame =>
          obtain rfl := Option.some.inj h
          exact ⟨key, revision, kind', messageId', chunks, activityText, rfl, rfl, hsame⟩
      case isFalse => cases h
  case h_2 => cases h

/-- A chunk of a streamed text. -/
theorem streamed_step (h : Bounded stringify transcript) (hindex : Indexed transcript)
    (kind : StreamedKind) (key : String) (messageId : Option String) (text : List Nat) :
    StepResult stringify transcript
      (transcript.appendTextChunk stringify kind key messageId text)
      (.streamed kind key messageId text) := by
  -- the chunk goes on with the last item when that is the same message, or is a new item
  cases htail : transcript.window.visible.getLast?.bind (withChunk kind messageId text) with
  | none =>
      have hstart : transcript.appendTextChunk stringify kind key messageId text =
          ((transcript.collapseTailTextChunks stringify).appendItem stringify
            ⟨key, 0, .streamed kind messageId [text]
              (lastUnits MAX_ACTIVITY_TEXT_CHARS text)⟩).1.compactOversizedTailText stringify := by
        unfold Transcript.appendTextChunk
        rw [tail_eq h.shown]
        cases hlast : transcript.window.visible.getLast? with
        | none => rfl
        | some last =>
            rw [hlast] at htail
            obtain ⟨lastKey, revision, body⟩ := last
            cases body with
            | streamed kind' messageId' chunks activityText =>
                simp only [Option.bind_some, withChunk] at htail
                simp only [Option.map_some]
                split at htail
                case isTrue => cases htail
                case isFalse hnot => rw [if_neg hnot]
            | tool toolCallId data => rfl
            | user text attachments messageId => rfl
            | permission event => rfl
            | plan data => rfl
            | error message => rfl
            | turnEnd stopReason => rfl
      have hchanged : changed transcript.window.visible (.streamed kind key messageId text) =
          collapsed transcript.window.visible ++ [⟨key, 0, .streamed kind messageId [text]
            (lastUnits MAX_ACTIVITY_TEXT_CHARS text)⟩] := by
        simp only [changed, htail]
      rw [hstart]
      exact compact_step (push_step h hindex rfl hchanged) hchanged
  | some item =>
      obtain ⟨last, hlast, hitem⟩ := Option.bind_eq_some_iff.mp htail
      have hvisible := List.dropLast_append_getLast? last hlast
      obtain ⟨lastKey, revision, kind', messageId', chunks, activityText, rfl, rfl, hsame⟩ :=
        with_chunk_some hitem
      have hresult : transcript.appendTextChunk stringify kind key messageId text =
          (transcript.replaceItem stringify (transcript.window.items.length - 1)
            ⟨lastKey, revision + 1, .streamed kind' messageId' (chunks ++ [text])
              (lastUnits MAX_ACTIVITY_TEXT_CHARS (activityText ++ text))⟩
            (some (utf16Bytes text))).compactOversizedTailText stringify := by
        unfold Transcript.appendTextChunk
        rw [tail_eq h.shown, hlast]
        simp only [Option.map_some]
        rw [if_pos hsame]
      have hchanged : changed transcript.window.visible (.streamed kind key messageId text) =
          transcript.window.visible.dropLast ++
            [⟨lastKey, revision + 1, .streamed kind' messageId' (chunks ++ [text])
              (lastUnits MAX_ACTIVITY_TEXT_CHARS (activityText ++ text))⟩] := by
        simp only [changed, htail]
      rw [hresult]
      refine compact_step (extend_step h hindex hvisible.symm ?_ hchanged ?_) hchanged
      · rfl
      intro bytes hbytes
      obtain rfl := Option.some.inj (Option.mem_def.mp hbytes)
      show ((chunks ++ [text]).map utf16Bytes).sum = (chunks.map utf16Bytes).sum + utf16Bytes text
      rw [List.map_append, List.sum_append]
      simp

end Dopedb.Agents
