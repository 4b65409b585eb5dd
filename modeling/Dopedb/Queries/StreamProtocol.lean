import Dopedb.Queries.StreamCredit

/-!
# What a stream hands out

`StreamChange` says once what a call can do to the entry of a stream and what it records.
`StreamInv` ties the fields of the entry to the counts of the pages that became ready, were handed
out and were acknowledged, and holds after every run of calls, whoever makes them.
-/

namespace Dopedb.Queries

open Library

/-! ## What the history says -/

/-- The pages that became ready with the sequence each was dispatched under, the pages that were
handed out with the capability and the webview of the caller, and the sequences that were
acknowledged. -/
structure PageLog where
  dispatched : List (Nat × DesktopSqlStreamBatch) := []
  pulled : List (String × String × DesktopSqlStreamBatch) := []
  acknowledged : List Nat := []
  deriving DecidableEq

/-- The log after an event. -/
def PageLog.record (log : PageLog) : StreamEvent → PageLog
  | .dispatched sequence batch => { log with dispatched := log.dispatched ++ [(sequence, batch)] }
  | .pulled capability ownerWebview batch =>
    { log with pulled := log.pulled ++ [(capability, ownerWebview, batch)] }
  | .acknowledged sequence => { log with acknowledged := log.acknowledged ++ [sequence] }
  | .cancelled | .completed => log

/-- The log of a history. -/
def pageLog (history : List StreamEvent) : PageLog := history.foldl PageLog.record {}

/-- One more event is recorded last. -/
@[simp] theorem page_log_concat (history : List StreamEvent) (event : StreamEvent) :
    pageLog (history ++ [event]) = (pageLog history).record event := by
  unfold pageLog
  rw [List.foldl_append]
  rfl

/-- The sequence of the page with an index. The counter stops at its largest value. -/
def pageSequence (index : Nat) : Nat := min index U64_MAX

/-- The sequences of the first pages. -/
def pageSequences (count : Nat) : List Nat := (List.range count).map pageSequence

/-- The counter goes on to the sequence of the next page. -/
theorem saturating_succ_page_sequence (index : Nat) :
    saturatingSucc (pageSequence index) = pageSequence (index + 1) := by
  unfold saturatingSucc pageSequence
  split <;> omega

/-- One more sequence. -/
theorem page_sequences_succ (count : Nat) :
    pageSequences (count + 1) = pageSequences count ++ [pageSequence count] := by
  unfold pageSequences
  rw [List.range_succ, List.map_append]
  rfl

/-- Up to the largest sequence nothing is skipped or repeated. -/
theorem page_sequences_eq_range {count : Nat} (h : count ≤ U64_MAX + 1) :
    pageSequences count = List.range count := by
  unfold pageSequences
  conv_rhs => rw [← List.map_id (List.range count)]
  refine List.map_congr_left fun index hindex => ?_
  have hlt := List.mem_range.mp hindex
  show min index U64_MAX = index
  omega

/-! ## What a call does -/

/-- A dispatch that stores its page, between the two times it holds the lock. -/
def StreamCall.storing : StreamCall → Nat
  | .store .. | .offer .. => 1
  | _ => 0

/-- The fields that decide what is handed out are the same, and a cancelled stream stays so. -/
structure SameCredit (stream stream' : StreamCredit) : Prop where
  nextSequence : stream'.nextSequence = stream.nextSequence
  inFlight : stream'.inFlight = stream.inFlight
  pulled : stream'.pulled = stream.pulled
  capability : stream'.capability = stream.capability
  ownerWebview : stream'.ownerWebview = stream.ownerWebview
  slot : stream'.slot = stream.slot
  cancelled : stream.cancelled = true → stream'.cancelled = true

/-- What a call does to the entry of a stream: what it leaves of it, what it records, and whether
it stores a page before and afterwards. -/
inductive StreamChange (stream : StreamCredit) (before : Nat) :
    Option StreamCredit → List StreamEvent → Nat → Prop where
  /-- Nothing that matters to the pages. -/
  | kept {stream' : StreamCredit} {after : Nat} (same : SameCredit stream stream')
      (storing : after ≤ before) : StreamChange stream before (some stream') [] after
  | cancelled {stream' : StreamCredit} {after : Nat} (same : SameCredit stream stream')
      (marked : stream'.cancelled = true) (storing : after ≤ before) :
      StreamChange stream before (some stream') [.cancelled] after
  | closed {after : Nat} (storing : after ≤ before) : StreamChange stream before none [] after
  | completed {after : Nat} (storing : after ≤ before) :
      StreamChange stream before none [.completed] after
  | announced {after : Nat} (idle : stream.inFlight = none) (storing : after ≤ 1)
      (outside : before = 0) :
      StreamChange stream before
        (some { stream with inFlight := some stream.nextSequence, pulled := false }) [] after
  | offered {sequence : Nat} {batch : DesktopSqlStreamBatch} {after : Nat}
      (flying : stream.inFlight = some sequence) (inside : before = 1) (outside : after = 0) :
      StreamChange stream before (some (stream.setSlot (some batch)))
        [.dispatched sequence batch] after
  /-- The page that awaited its pull was another one. -/
  | dropped {sequence after : Nat} (flying : stream.inFlight = some sequence)
      (fresh : stream.pulled = false) (storing : after ≤ before) :
      StreamChange stream before (some (stream.setSlot none)) [] after
  | pulled {batch : DesktopSqlStreamBatch} {after : Nat}
      (flying : stream.inFlight = some batch.sequence) (fresh : stream.pulled = false)
      (ready : stream.slot = some batch) (storing : after ≤ before) :
      StreamChange stream before (some { stream.setSlot none with pulled := true })
        [.pulled stream.capability stream.ownerWebview batch] after
  | acknowledged {sequence after : Nat} {stream' : StreamCredit}
      (flying : stream.inFlight = some sequence) (taken : stream.pulled = true)
      (nextSequence : stream'.nextSequence = saturatingSucc stream.nextSequence)
      (idle : stream'.inFlight = none) (slot : stream'.slot = none)
      (capability : stream'.capability = stream.capability)
      (ownerWebview : stream'.ownerWebview = stream.ownerWebview)
      (cancelled : stream.cancelled = true → stream'.cancelled = true) (storing : after ≤ before) :
      StreamChange stream before (some stream') [.acknowledged sequence] after

/-- What a call does to a pool's shared state, as a change of its entry. -/
def Changed (state : StreamState) (stream : StreamCredit) (call : StreamCall)
    (next : StreamState × StreamCall) : Prop :=
  ∃ stream' events, next.1 = ⟨stream', state.history ++ events⟩ ∧
    StreamChange stream call.storing stream' events next.2.storing

section Calls

variable {state : StreamState} {stream : StreamCredit}

/-- The entry as it was. -/
theorem SameCredit.refl (stream : StreamCredit) : SameCredit stream stream :=
  ⟨rfl, rfl, rfl, rfl, rfl, rfl, id⟩

/-- An invalid request of the owner changes nothing that matters to the pages. -/
theorem same_reject_owned (stream : StreamCredit) : SameCredit stream stream.rejectOwned where
  nextSequence := rfl
  inFlight := rfl
  pulled := rfl
  capability := rfl
  ownerWebview := rfl
  slot := rfl
  cancelled := fun _ => rfl

/-- A call that leaves the state as it is. -/
theorem changed_of_same (hstream : state.stream = some stream) {call call' : StreamCall}
    (hstoring : call'.storing ≤ call.storing) : Changed state stream call (state, call') := by
  refine ⟨some stream, [], ?_, .kept (.refl stream) hstoring⟩
  rw [List.append_nil, ← hstream]

/-- A call that leaves an entry that is the same to the pages. -/
theorem changed_of_put {stream' : StreamCredit} (hsame : SameCredit stream stream')
    {call call' : StreamCall} (hstoring : call'.storing ≤ call.storing) :
    Changed state stream call (state.put stream' [], call') :=
  ⟨some stream', [], rfl, .kept hsame hstoring⟩

/-- A call that cancels the stream. -/
theorem changed_of_reject {call call' : StreamCall} (hstoring : call'.storing ≤ call.storing) :
    Changed state stream call (state.put stream.rejectOwned [.cancelled], call') :=
  ⟨some _, [.cancelled], rfl, .cancelled (same_reject_owned stream) rfl hstoring⟩

/-- `begin_reserved` starts the stream. -/
theorem begin_changed (hstream : state.stream = some stream) (ownerWebview capability : String)
    (pinned : Bool) (input : StreamInput) :
    Changed state stream (.beginReserved ownerWebview capability pinned)
      (streamStep state (.beginReserved ownerWebview capability pinned) input) := by
  have hstarted : SameCredit stream { stream with started := true } :=
    ⟨rfl, rfl, rfl, rfl, rfl, rfl, id⟩
  have hwriter : SameCredit stream { stream with started := true, resultWriter := true } :=
    ⟨rfl, rfl, rfl, rfl, rfl, rfl, id⟩
  unfold streamStep
  simp only [StreamState.beginReserved, hstream]
  split
  · exact changed_of_same hstream (Nat.le_refl 0)
  split
  · exact changed_of_same hstream (Nat.le_refl 0)
  split
  · exact changed_of_same hstream (Nat.le_refl 0)
  split
  · exact changed_of_put hstarted (Nat.le_refl 0)
  split
  · exact changed_of_put hstarted (Nat.le_refl 0)
  split
  · exact changed_of_put hstarted (Nat.le_refl 0)
  · exact changed_of_put hwriter (Nat.le_refl 0)

/-- `pull` hands out the page that awaits it. -/
theorem pull_changed (hstream : state.stream = some stream) (sequence : Nat)
    (capability ownerWebview : String) (input : StreamInput) :
    Changed state stream (.pull sequence capability ownerWebview)
      (streamStep state (.pull sequence capability ownerWebview) input) := by
  unfold streamStep
  simp only [StreamState.pull, hstream]
  split
  case isTrue => exact changed_of_same hstream (Nat.le_refl 0)
  case isFalse howns =>
      split
      case isTrue => exact changed_of_reject (Nat.le_refl 0)
      case isFalse hvalid =>
          have hflying : stream.inFlight = some sequence := by
            by_contra hne
            exact hvalid (.inr (.inl hne))
          have hfresh : stream.pulled = false := by
            cases hpulled : stream.pulled with
            | false => rfl
            | true => exact absurd (.inr (.inr hpulled)) hvalid
          cases hslot : stream.slot.filter fun batch => batch.sequence = sequence with
          | none => exact ⟨some _, [], rfl, .dropped hflying hfresh (Nat.le_refl 0)⟩
          | some batch =>
              obtain ⟨hready, hsequence⟩ := Option.filter_eq_some_iff.mp hslot
              have hsequence : batch.sequence = sequence := by simpa using hsequence
              have howner : stream.capability = capability ∧
                  stream.ownerWebview = ownerWebview := by
                simpa [StreamCredit.owns] using howns
              obtain ⟨rfl, rfl⟩ := howner
              rw [← hsequence] at hflying
              exact ⟨some _, _, rfl, .pulled hflying hfresh hready (Nat.le_refl 0)⟩

/-- `acknowledge` frees the stream for its next page. -/
theorem acknowledge_changed (hstream : state.stream = some stream) (sequence : Nat)
    (capability ownerWebview : String) (input : StreamInput) :
    Changed state stream (.acknowledge sequence capability ownerWebview)
      (streamStep state (.acknowledge sequence capability ownerWebview) input) := by
  unfold streamStep
  simp only [StreamState.acknowledge, hstream]
  split
  case isTrue => exact changed_of_same hstream (Nat.le_refl 0)
  case isFalse howns =>
      split
      case isTrue => exact changed_of_reject (Nat.le_refl 0)
      case isFalse hvalid =>
          have hflying : stream.inFlight = some sequence := by
            by_contra hne
            exact hvalid (.inr (.inl hne))
          have htaken : stream.pulled = true := by
            cases hpulled : stream.pulled with
            | true => rfl
            | false => exact absurd (.inr (.inr hpulled)) hvalid
          refine ⟨some _, _, rfl, .acknowledged hflying htaken rfl rfl ?_ rfl rfl id
            (Nat.le_refl 0)⟩
          show StreamCredit.slot _ = none
          unfold StreamCredit.slot StreamCredit.signal
          split <;> rfl

/-- `cancel` and `cancel_bound_by_capability` only cancel. -/
theorem cancel_changed (hstream : state.stream = some stream) (capability ownerWebview : String)
    (input : StreamInput) :
    Changed state stream (.cancel capability ownerWebview)
      (streamStep state (.cancel capability ownerWebview) input) ∧
    Changed state stream (.cancelBoundByCapability capability ownerWebview)
      (streamStep state (.cancelBoundByCapability capability ownerWebview) input) := by
  constructor
  · unfold streamStep
    simp only [StreamState.cancel, hstream]
    split
    · exact changed_of_same hstream (Nat.le_refl 0)
    · exact changed_of_reject (Nat.le_refl 0)
  · unfold streamStep
    simp only [StreamState.cancelBoundByCapability, hstream]
    split
    · exact changed_of_reject (Nat.le_refl 0)
    · exact changed_of_same hstream (Nat.le_refl 0)

/-- `close` removes the entry. -/
theorem close_changed (input : StreamInput) :
    Changed state stream .close (streamStep state .close input) :=
  ⟨none, [], by simp [streamStep, StreamState.close], .closed (Nat.le_refl 0)⟩

/-- `complete` removes the entry. -/
theorem complete_changed (hstream : state.stream = some stream) (input : StreamInput) :
    Changed state stream .complete (streamStep state .complete input) := by
  have hremoved : ∀ result, Changed state stream .complete
      ({ state with stream := none }, .done (.result result)) :=
    fun result => ⟨none, [], by rw [List.append_nil], .closed (Nat.le_refl 0)⟩
  have hcompleted : Changed state stream .complete
      ({ stream := none, history := state.history ++ [.completed] }, .done (.result (.ok ()))) :=
    ⟨none, _, rfl, .completed (Nat.le_refl 0)⟩
  unfold streamStep
  simp only [StreamState.complete, hstream]
  split
  · exact hremoved _
  split
  · exact hremoved _
  split
  · exact hremoved _
  split
  · exact hcompleted
  split
  · exact hremoved _
  split
  · exact hremoved _
  · exact hcompleted

/-- The first part of `dispatch` takes the stream for its page. -/
theorem dispatch_changed (hstream : state.stream = some stream) (sequence : Nat)
    (batch : DesktopSqlStreamBatch) (input : StreamInput) :
    Changed state stream (.dispatch sequence batch)
      (streamStep state (.dispatch sequence batch) input) := by
  unfold streamStep
  simp only [StreamState.announce, hstream]
  by_cases hcancelled : stream.cancelled = true
  · rw [if_pos hcancelled]
    exact changed_of_same hstream (Nat.le_refl 0)
  rw [if_neg hcancelled]
  by_cases hbusy : stream.inFlight.isSome = true ∨ stream.nextSequence ≠ sequence
  · rw [if_pos hbusy]
    exact changed_of_same hstream (Nat.le_refl 0)
  rw [if_neg hbusy]
  have hidle : stream.inFlight = none := by
    cases hflying : stream.inFlight with
    | none => rfl
    | some n => exact absurd (.inl (by rw [hflying]; rfl)) hbusy
  have hsequence : stream.nextSequence = sequence := by
    by_contra hne
    exact hbusy (.inr hne)
  subst hsequence
  obtain ⟨announced, hannounced⟩ : ∃ announced,
      { stream with inFlight := some stream.nextSequence, pulled := false } = announced := ⟨_, rfl⟩
  have hchange : ∀ after, after ≤ 1 → StreamChange stream 0 (some announced) [] after := by
    intro after hafter
    rw [← hannounced]
    exact .announced hidle hafter rfl
  rw [hannounced]
  cases stream.retention with
  | ephemeral => exact ⟨_, [], rfl, hchange 1 (Nat.le_refl 1)⟩
  | durable =>
      cases stream.resultWriter with
      | true => exact ⟨_, [], rfl, hchange 1 (Nat.le_refl 1)⟩
      | false => exact ⟨_, [], rfl, hchange 0 (Nat.zero_le 1)⟩

/-- The middle of `dispatch` does not hold the lock. -/
theorem store_changed (hstream : state.stream = some stream) (sequence : Nat)
    (batch : DesktopSqlStreamBatch) (retention : DesktopSqlStreamRetention)
    (input : StreamInput) :
    Changed state stream (.store sequence batch retention)
      (streamStep state (.store sequence batch retention) input) := by
  unfold streamStep
  simp only
  split
  · exact changed_of_same hstream (Nat.zero_le 1)
  split
  · exact changed_of_same hstream (Nat.zero_le 1)
  · exact changed_of_same hstream (Nat.le_refl 1)

/-- The last part of `dispatch` makes the page ready. -/
theorem offer_changed (hstream : state.stream = some stream) (sequence : Nat)
    (batch : DesktopSqlStreamBatch) (input : StreamInput) :
    Changed state stream (.offer sequence batch)
      (streamStep state (.offer sequence batch) input) := by
  unfold streamStep
  simp only [StreamState.offer, hstream]
  by_cases hcancelled : stream.cancelled = true
  · rw [if_pos hcancelled]
    exact changed_of_same hstream (Nat.zero_le 1)
  rw [if_neg hcancelled]
  by_cases hother : stream.inFlight ≠ some sequence
  · rw [if_pos hother]
    exact changed_of_same hstream (Nat.zero_le 1)
  rw [if_neg hother]
  have hflying : stream.inFlight = some sequence := not_not.mp hother
  cases input with
  | ok => exact ⟨some _, _, rfl, .offered hflying rfl rfl⟩
  | failed error => exact ⟨some _, _, rfl, .offered hflying rfl rfl⟩

/-- A waiter changes nothing. -/
theorem wait_changed (hstream : state.stream = some stream) (sequence : Nat)
    (input : StreamInput) :
    Changed state stream (.waitForAck sequence)
      (streamStep state (.waitForAck sequence) input) := by
  unfold streamStep
  simp only
  split
  · exact changed_of_same hstream (Nat.le_refl 0)
  · exact changed_of_same hstream (Nat.le_refl 0)
  · exact changed_of_same hstream (Nat.le_refl 0)

/-- Every call is one of the changes. -/
theorem stream_step_changed (hstream : state.stream = some stream) (call : StreamCall)
    (input : StreamInput) : Changed state stream call (streamStep state call input) := by
  cases call with
  | beginReserved ownerWebview capability pinned =>
      exact begin_changed hstream ownerWebview capability pinned input
  | dispatch sequence batch => exact dispatch_changed hstream sequence batch input
  | store sequence batch retention => exact store_changed hstream sequence batch retention input
  | offer sequence batch => exact offer_changed hstream sequence batch input
  | waitForAck sequence => exact wait_changed hstream sequence input
  | pull sequence capability ownerWebview =>
      exact pull_changed hstream sequence capability ownerWebview input
  | acknowledge sequence capability ownerWebview =>
      exact acknowledge_changed hstream sequence capability ownerWebview input
  | cancel capability ownerWebview => exact (cancel_changed hstream capability ownerWebview input).1
  | cancelBoundByCapability capability ownerWebview =>
      exact (cancel_changed hstream capability ownerWebview input).2
  | complete => exact complete_changed hstream input
  | close => exact close_changed input
  | done answer => exact changed_of_same hstream (Nat.le_refl 0)

/-- Without an entry a call changes nothing, and no new page is stored. -/
theorem stream_step_closed (hstream : state.stream = none) (call : StreamCall)
    (input : StreamInput) :
    (streamStep state call input).1 = state ∧
      (streamStep state call input).2.storing ≤ call.storing := by
  obtain ⟨entry, history⟩ := state
  obtain rfl : entry = none := hstream
  cases call with
  | store sequence batch retention =>
      unfold streamStep
      simp only
      split
      · exact ⟨rfl, Nat.zero_le 1⟩
      split
      · exact ⟨rfl, Nat.zero_le 1⟩
      · exact ⟨rfl, Nat.le_refl 1⟩
  | offer => exact ⟨rfl, Nat.zero_le 1⟩
  | _ => exact ⟨rfl, Nat.le_refl 0⟩

end Calls

/-! ## The invariant -/

/-- What was handed out, and how many dispatches store a page. -/
structure LogInv (ownerWebview capability : String) (log : PageLog) (storing : Nat) : Prop where
  dispatched : log.dispatched.map Prod.fst = pageSequences log.dispatched.length
  pulled : (log.pulled.map fun page => page.2.2.sequence) = pageSequences log.pulled.length
  acknowledged : log.acknowledged = pageSequences log.acknowledged.length
  order : (log.pulled.map fun page => page.2.2) <+: log.dispatched.map Prod.snd
  owned : ∀ page ∈ log.pulled, page.1 = capability ∧ page.2.1 = ownerWebview
  matched : log.acknowledged.length ≤ log.pulled.length
  single : log.dispatched.length + storing ≤ log.acknowledged.length + 1

/-- How the fields of the entry stand to the pages that became ready, were handed out and were
acknowledged, and to the dispatches that store a page. -/
structure CreditInv (ownerWebview capability : String) (log : PageLog) (storing : Nat)
    (stream : StreamCredit) : Prop where
  capability : stream.capability = capability
  ownerWebview : stream.ownerWebview = ownerWebview
  nextSequence : stream.nextSequence = pageSequence log.acknowledged.length
  idle : stream.inFlight = none →
    log.dispatched.length = log.acknowledged.length ∧ storing = 0 ∧ stream.slot = none
  flying : ∀ sequence, stream.inFlight = some sequence →
    sequence = pageSequence log.acknowledged.length ∧
      log.pulled.length = log.acknowledged.length + (if stream.pulled then 1 else 0)
  ready : ∀ batch, stream.slot = some batch →
    log.dispatched.length = log.acknowledged.length + 1 ∧
      (log.dispatched.map Prod.snd).getLast? = some batch

/-- The invariant of the calls on one stream. -/
structure StreamInv (ownerWebview capability : String) (pool : StreamPool) : Prop where
  log : LogInv ownerWebview capability (pageLog pool.shared.history)
    (total StreamCall.storing pool.tasks)
  credit : ∀ stream, pool.shared.stream = some stream →
    CreditInv ownerWebview capability (pageLog pool.shared.history)
      (total StreamCall.storing pool.tasks) stream ∧
    (.cancelled ∈ pool.shared.history → stream.cancelled = true)

section Changes

variable {ownerWebview capability : String} {log : PageLog} {before after : Nat}
variable {stream stream' : StreamCredit}

/-- At most as many pages were handed out as became ready. -/
theorem LogInv.pulled_le (h : LogInv ownerWebview capability log before) :
    log.pulled.length ≤ log.dispatched.length := by
  have hlength := h.order.length_le
  rwa [List.length_map, List.length_map] at hlength

/-- Fewer dispatches store a page. -/
theorem LogInv.weaken (h : LogInv ownerWebview capability log before) (hle : after ≤ before) :
    LogInv ownerWebview capability log after where
  dispatched := h.dispatched
  pulled := h.pulled
  acknowledged := h.acknowledged
  order := h.order
  owned := h.owned
  matched := h.matched
  single := by
    have hsingle := h.single
    omega

/-- An entry that is the same to the pages. -/
theorem CreditInv.same (h : CreditInv ownerWebview capability log before stream)
    (hsame : SameCredit stream stream') (hle : after ≤ before) :
    CreditInv ownerWebview capability log after stream' where
  capability := hsame.capability.trans h.capability
  ownerWebview := hsame.ownerWebview.trans h.ownerWebview
  nextSequence := hsame.nextSequence.trans h.nextSequence
  idle := by
    rw [hsame.inFlight, hsame.slot]
    intro hidle
    obtain ⟨hcount, hstoring, hslot⟩ := h.idle hidle
    exact ⟨hcount, by omega, hslot⟩
  flying := by
    rw [hsame.inFlight, hsame.pulled]
    exact h.flying
  ready := by
    rw [hsame.slot]
    exact h.ready

/-- The entry takes a page: it is in flight, and one dispatch may store it. -/
theorem CreditInv.announce (hlog : LogInv ownerWebview capability log before)
    (h : CreditInv ownerWebview capability log before stream) (hidle : stream.inFlight = none)
    (hle : after ≤ before + 1) :
    LogInv ownerWebview capability log after ∧
      CreditInv ownerWebview capability log after
        { stream with inFlight := some stream.nextSequence, pulled := false } := by
  obtain ⟨hcount, hstoring, hslot⟩ := h.idle hidle
  constructor
  · exact { hlog with single := by omega }
  · exact {
      capability := h.capability
      ownerWebview := h.ownerWebview
      nextSequence := h.nextSequence
      idle := nofun
      flying := by
        intro sequence hsequence
        obtain rfl : stream.nextSequence = sequence := Option.some.inj hsequence
        have hpulled := hlog.pulled_le
        have hmatched := hlog.matched
        refine ⟨h.nextSequence, ?_⟩
        show log.pulled.length = log.acknowledged.length + 0
        omega
      ready := by
        intro batch hbatch
        have hbatch : stream.slot = some batch := hbatch
        rw [hslot] at hbatch
        exact absurd hbatch nofun }

/-- What a slot holds after it was set. -/
@[simp] theorem slot_set_slot (stream : StreamCredit) (page : Option DesktopSqlStreamBatch) :
    (stream.setSlot page).slot = page := by
  unfold StreamCredit.setSlot StreamCredit.slot
  cases stream.retention <;> rfl

/-- Setting the slot changes nothing else that matters to the pages. -/
theorem set_slot_fields (stream : StreamCredit) (page : Option DesktopSqlStreamBatch) :
    (stream.setSlot page).capability = stream.capability ∧
      (stream.setSlot page).ownerWebview = stream.ownerWebview ∧
      (stream.setSlot page).nextSequence = stream.nextSequence ∧
      (stream.setSlot page).inFlight = stream.inFlight ∧
      (stream.setSlot page).pulled = stream.pulled ∧
      (stream.setSlot page).cancelled = stream.cancelled := by
  unfold StreamCredit.setSlot
  cases stream.retention <;> exact ⟨rfl, rfl, rfl, rfl, rfl, rfl⟩

/-- A stored page becomes ready. -/
theorem CreditInv.offer (hlog : LogInv ownerWebview capability log (before + 1))
    (h : CreditInv ownerWebview capability log (before + 1) stream) {sequence : Nat}
    (hflying : stream.inFlight = some sequence) (batch : DesktopSqlStreamBatch) :
    LogInv ownerWebview capability (log.record (.dispatched sequence batch)) before ∧
      CreditInv ownerWebview capability (log.record (.dispatched sequence batch)) before
        (stream.setSlot (some batch)) := by
  obtain ⟨hcapability, hwebview, hnext, hinFlight, hpulled, -⟩ := set_slot_fields stream (some batch)
  obtain ⟨hsequence, hcount⟩ := h.flying sequence hflying
  have hsingle := hlog.single
  have hle := hlog.pulled_le
  have hmatched := hlog.matched
  -- no page is on its way, and this one is the only one in the store
  have hdispatched : log.dispatched.length = log.acknowledged.length := by omega
  have hstoring : before = 0 := by omega
  constructor
  · constructor
    case dispatched =>
      show (log.dispatched ++ [(sequence, batch)]).map Prod.fst =
        pageSequences (log.dispatched ++ [(sequence, batch)]).length
      rw [List.map_append, hlog.dispatched, List.length_append, List.length_singleton,
        page_sequences_succ, hsequence, hdispatched]
      rfl
    case pulled => exact hlog.pulled
    case acknowledged => exact hlog.acknowledged
    case order =>
      show _ <+: (log.dispatched ++ [(sequence, batch)]).map Prod.snd
      rw [List.map_append]
      exact hlog.order.trans (List.prefix_append _ _)
    case owned => exact hlog.owned
    case matched => exact hlog.matched
    case single =>
      show (log.dispatched ++ [(sequence, batch)]).length + before ≤ log.acknowledged.length + 1
      rw [List.length_append, List.length_singleton]
      omega
  · constructor
    case capability => exact hcapability.trans h.capability
    case ownerWebview => exact hwebview.trans h.ownerWebview
    case nextSequence => exact hnext.trans h.nextSequence
    case idle =>
      rw [hinFlight, hflying]
      exact nofun
    case flying =>
      rw [hinFlight, hpulled]
      exact h.flying
    case ready =>
      intro batch' hbatch'
      rw [slot_set_slot] at hbatch'
      constructor
      · show (log.dispatched ++ [(sequence, batch)]).length = log.acknowledged.length + 1
        rw [List.length_append, List.length_singleton, hdispatched]
      · show ((log.dispatched ++ [(sequence, batch)]).map Prod.snd).getLast? = some batch'
        rw [← hbatch', List.map_append]
        exact List.getLast?_concat

/-- A page that was not the one asked for is dropped. -/
theorem CreditInv.drop (h : CreditInv ownerWebview capability log before stream)
    {sequence : Nat} (hflying : stream.inFlight = some sequence) :
    CreditInv ownerWebview capability log before (stream.setSlot none) := by
  obtain ⟨hcapability, hwebview, hnext, hinFlight, hpulled, -⟩ := set_slot_fields stream none
  constructor
  case capability => exact hcapability.trans h.capability
  case ownerWebview => exact hwebview.trans h.ownerWebview
  case nextSequence => exact hnext.trans h.nextSequence
  case idle =>
    rw [hinFlight, hflying]
    exact nofun
  case flying =>
    rw [hinFlight, hpulled]
    exact h.flying
  case ready =>
    rw [slot_set_slot]
    exact nofun

/-- The page that awaited its pull is handed out. -/
theorem CreditInv.pull (hlog : LogInv ownerWebview capability log before)
    (h : CreditInv ownerWebview capability log before stream) {batch : DesktopSqlStreamBatch}
    (hflying : stream.inFlight = some batch.sequence) (hfresh : stream.pulled = false)
    (hready : stream.slot = some batch) :
    LogInv ownerWebview capability
        (log.record (.pulled stream.capability stream.ownerWebview batch)) before ∧
      CreditInv ownerWebview capability
        (log.record (.pulled stream.capability stream.ownerWebview batch)) before
        { stream.setSlot none with pulled := true } := by
  obtain ⟨hcapability, hwebview, hnext, hinFlight, -, -⟩ := set_slot_fields stream none
  obtain ⟨hsequence, hcount⟩ := h.flying _ hflying
  obtain ⟨hdispatched, hlast⟩ := h.ready batch hready
  rw [hfresh] at hcount
  have hcount : log.pulled.length = log.acknowledged.length := hcount
  have hmatched := hlog.matched
  constructor
  · constructor
    case dispatched => exact hlog.dispatched
    case pulled =>
      show (log.pulled ++ [_]).map _ = pageSequences (log.pulled ++ [_]).length
      rw [List.map_append, hlog.pulled, List.length_append, List.length_singleton,
        page_sequences_succ, hcount, List.map_singleton, hsequence]
    case acknowledged => exact hlog.acknowledged
    case order =>
      -- All dispatched pages but the last were handed out, and this is the last.
      show (log.pulled ++ [_]).map _ <+: log.dispatched.map Prod.snd
      obtain ⟨rest, hrest⟩ := hlog.order
      have hlength := congrArg List.length hrest
      rw [List.length_append, List.length_map, List.length_map] at hlength
      obtain ⟨last, rfl⟩ := List.length_eq_one_iff.mp (show rest.length = 1 by omega)
      rw [← hrest, List.getLast?_concat] at hlast
      obtain rfl : last = batch := Option.some.inj hlast
      rw [List.map_append, List.map_singleton, hrest]
    case owned =>
      show ∀ page ∈ log.pulled ++ [_], _
      intro page hpage
      rcases List.mem_append.mp hpage with hold | hnew
      · exact hlog.owned page hold
      · rw [List.mem_singleton.mp hnew]
        exact ⟨h.capability, h.ownerWebview⟩
    case matched =>
      show log.acknowledged.length ≤ (log.pulled ++ [_]).length
      rw [List.length_append]
      omega
    case single => exact hlog.single
  · constructor
    case capability => exact hcapability.trans h.capability
    case ownerWebview => exact hwebview.trans h.ownerWebview
    case nextSequence => exact hnext.trans h.nextSequence
    case idle =>
      show (stream.setSlot none).inFlight = none → _
      rw [hinFlight, hflying]
      exact nofun
    case flying =>
      intro sequence hsome
      have hsame : (stream.setSlot none).inFlight = some sequence := hsome
      rw [hinFlight] at hsame
      refine ⟨(h.flying sequence hsame).1, ?_⟩
      simp [PageLog.record, hcount]
    case ready =>
      show ∀ page, (stream.setSlot none).slot = some page → _
      rw [slot_set_slot]
      exact nofun

/-- The page in flight was handed out and is acknowledged. -/
theorem CreditInv.acknowledge (hlog : LogInv ownerWebview capability log before)
    (h : CreditInv ownerWebview capability log before stream) {sequence : Nat}
    (hflying : stream.inFlight = some sequence) (htaken : stream.pulled = true)
    (hnext : stream'.nextSequence = saturatingSucc stream.nextSequence)
    (hidle : stream'.inFlight = none) (hslot : stream'.slot = none)
    (hcapability : stream'.capability = stream.capability)
    (hwebview : stream'.ownerWebview = stream.ownerWebview) :
    LogInv ownerWebview capability (log.record (.acknowledged sequence)) before ∧
      CreditInv ownerWebview capability (log.record (.acknowledged sequence)) before stream' := by
  obtain ⟨hsequence, hcount⟩ := h.flying sequence hflying
  rw [htaken] at hcount
  have hcount : log.pulled.length = log.acknowledged.length + 1 := hcount
  have hle := hlog.pulled_le
  have hsingle := hlog.single
  have hlength : (log.acknowledged ++ [sequence]).length = log.acknowledged.length + 1 := by
    rw [List.length_append, List.length_singleton]
  constructor
  · constructor
    case dispatched => exact hlog.dispatched
    case pulled => exact hlog.pulled
    case acknowledged =>
      show log.acknowledged ++ [sequence] = pageSequences (log.acknowledged ++ [sequence]).length
      rw [hlength, page_sequences_succ, ← hlog.acknowledged, hsequence]
    case order => exact hlog.order
    case owned => exact hlog.owned
    case matched =>
      show (log.acknowledged ++ [sequence]).length ≤ log.pulled.length
      omega
    case single =>
      show log.dispatched.length + before ≤ (log.acknowledged ++ [sequence]).length + 1
      omega
  · constructor
    case capability => exact hcapability.trans h.capability
    case ownerWebview => exact hwebview.trans h.ownerWebview
    case nextSequence =>
      show stream'.nextSequence = pageSequence (log.acknowledged ++ [sequence]).length
      rw [hnext, h.nextSequence, hlength, saturating_succ_page_sequence]
    case idle =>
      intro _
      show log.dispatched.length = (log.acknowledged ++ [sequence]).length ∧ _
      exact ⟨by omega, by omega, hslot⟩
    case flying =>
      rw [hidle]
      exact nofun
    case ready =>
      rw [hslot]
      exact nofun

end Changes

end Dopedb.Queries
