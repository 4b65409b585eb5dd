import Dopedb.Queries.StreamProtocol

/-!
# Every run over one stream

The invariant is carried through the moves of the pool, and `StreamLaw` says what it means for the
callers: which pages they get, whose calls have an effect, and when a stream is complete.
-/

namespace Dopedb.Queries

open Library

/-! ## The run -/

section Moves

variable {ownerWebview capability : String} {pool : StreamPool}

/-- Whatever a call does to the entry keeps the invariant. -/
theorem StreamInv.change (h : StreamInv ownerWebview capability pool) {stream : StreamCredit}
    (hstream : pool.shared.stream = some stream) {before after : Nat}
    {stream' : Option StreamCredit} {events : List StreamEvent}
    (hchange : StreamChange stream before stream' events after) {tasks : List StreamCall}
    (htotal : total StreamCall.storing tasks + before = total StreamCall.storing pool.tasks + after) :
    StreamInv ownerWebview capability ⟨⟨stream', pool.shared.history ++ events⟩, tasks⟩ := by
  obtain ⟨hlog, hcredit⟩ := h
  obtain ⟨hcredit, hcancelled⟩ := hcredit stream hstream
  -- a call publishes one event that is no cancellation, or none; the entry stays in both cases
  have hleft : ∀ {event : StreamEvent} {left : StreamCredit}, event ≠ .cancelled →
      (stream.cancelled = true → left.cancelled = true) →
      LogInv ownerWebview capability (pageLog (pool.shared.history ++ [event]))
        (total StreamCall.storing tasks) →
      CreditInv ownerWebview capability (pageLog (pool.shared.history ++ [event]))
        (total StreamCall.storing tasks) left →
      StreamInv ownerWebview capability ⟨⟨some left, pool.shared.history ++ [event]⟩, tasks⟩ := by
    intro event left hnotCancelled hkept hlog' hcredit'
    refine ⟨hlog', ?_⟩
    intro other hother
    obtain rfl : left = other := Option.some.inj hother
    refine ⟨hcredit', ?_⟩
    intro hmem
    rcases List.mem_append.mp hmem with hold | hnew
    · exact hkept (hcancelled hold)
    · exact absurd (List.mem_singleton.mp hnew).symm hnotCancelled
  have hsilent : ∀ {left : StreamCredit}, (stream.cancelled = true → left.cancelled = true) →
      LogInv ownerWebview capability (pageLog pool.shared.history)
        (total StreamCall.storing tasks) →
      CreditInv ownerWebview capability (pageLog pool.shared.history)
        (total StreamCall.storing tasks) left →
      StreamInv ownerWebview capability ⟨⟨some left, pool.shared.history ++ []⟩, tasks⟩ := by
    intro left hkept hlog' hcredit'
    rw [List.append_nil]
    refine ⟨hlog', ?_⟩
    intro other hother
    obtain rfl : left = other := Option.some.inj hother
    exact ⟨hcredit', fun hmem => hkept (hcancelled hmem)⟩
  cases hchange with
  | kept same storing =>
      exact hsilent same.cancelled (hlog.weaken (by omega)) (hcredit.same same (by omega))
  | @cancelled left _ same marked storing =>
      have hrecord : pageLog (pool.shared.history ++ [.cancelled]) = pageLog pool.shared.history :=
        page_log_concat _ _
      refine ⟨?_, ?_⟩
      · rw [hrecord]
        exact hlog.weaken (by show total _ tasks ≤ _; omega)
      · intro other hother
        obtain rfl : left = other := Option.some.inj hother
        rw [hrecord]
        exact ⟨hcredit.same same (by show total _ tasks ≤ _; omega), fun _ => marked⟩
  | closed storing =>
      rw [List.append_nil]
      exact ⟨hlog.weaken (by show total _ tasks ≤ _; omega), fun _ hnone => absurd hnone nofun⟩
  | completed storing =>
      have hrecord : pageLog (pool.shared.history ++ [.completed]) = pageLog pool.shared.history :=
        page_log_concat _ _
      refine ⟨?_, fun _ hnone => absurd hnone nofun⟩
      rw [hrecord]
      exact hlog.weaken (by show total _ tasks ≤ _; omega)
  | announced idle storing outside =>
      obtain ⟨hlog', hcredit'⟩ := hcredit.announce hlog idle
        (show total StreamCall.storing tasks ≤ _ by omega)
      exact hsilent id hlog' hcredit'
  | offered flying inside outside =>
      -- the page that was in the store is in the record of pages from now on
      have hone : total StreamCall.storing pool.tasks = total StreamCall.storing tasks + 1 := by
        omega
      rw [hone] at hlog hcredit
      obtain ⟨hlog', hcredit'⟩ := hcredit.offer hlog flying _
      rw [← page_log_concat] at hlog' hcredit'
      refine hleft nofun ?_ hlog' hcredit'
      rw [(set_slot_fields stream _).2.2.2.2.2]
      exact id
  | dropped flying fresh storing =>
      have hle : total StreamCall.storing tasks ≤ total StreamCall.storing pool.tasks := by omega
      refine hsilent ?_ (hlog.weaken hle) ((hcredit.same (.refl stream) hle).drop flying)
      rw [(set_slot_fields stream _).2.2.2.2.2]
      exact id
  | pulled flying fresh ready storing =>
      have hle : total StreamCall.storing tasks ≤ total StreamCall.storing pool.tasks := by omega
      obtain ⟨hlog', hcredit'⟩ := (hcredit.same (.refl stream) hle).pull (hlog.weaken hle) flying
        fresh ready
      rw [← page_log_concat] at hlog' hcredit'
      refine hleft nofun ?_ hlog' hcredit'
      show stream.cancelled = true → (stream.setSlot none).cancelled = true
      rw [(set_slot_fields stream _).2.2.2.2.2]
      exact id
  | acknowledged flying taken nextSequence idle slot capability ownerWebview cancelled storing =>
      have hle : total StreamCall.storing tasks ≤ total StreamCall.storing pool.tasks := by omega
      obtain ⟨hlog', hcredit'⟩ := (hcredit.same (.refl stream) hle).acknowledge (hlog.weaken hle)
        flying taken nextSequence idle slot capability ownerWebview
      rw [← page_log_concat] at hlog' hcredit'
      exact hleft nofun cancelled hlog' hcredit'

/-- A call that starts is not in the middle of a dispatch. -/
theorem storing_of_is_call {call : StreamCall} (h : call.isCall = true) : call.storing = 0 := by
  cases call with
  | store => exact absurd h nofun
  | offer => exact absurd h nofun
  | _ => rfl

/-- Every move keeps the invariant. -/
theorem StreamInv.move (h : StreamInv ownerWebview capability pool)
    (move : Move StreamCall StreamInput) :
    StreamInv ownerWebview capability (streamMove pool move) := by
  cases move with
  | start call =>
      show StreamInv ownerWebview capability
        (if call.isCall then pool.move streamResume (.start call) else pool)
      by_cases hcall : call.isCall = true
      · rw [if_pos hcall]
        have htotal : total StreamCall.storing (pool.tasks ++ [call]) =
            total StreamCall.storing pool.tasks := by
          rw [total_append, total_cons, total_nil, storing_of_is_call hcall]
          rfl
        obtain ⟨hlog, hcredit⟩ := h
        rw [← htotal] at hlog hcredit
        exact ⟨hlog, hcredit⟩
      · rw [if_neg hcall]
        exact h
  | resume task input =>
      show StreamInv ownerWebview capability (pool.move streamResume (.resume task input))
      cases htask : pool.tasks[task]? with
      | none =>
          simp only [Pool.move, htask]
          exact h
      | some call =>
          have hset := total_set StreamCall.storing htask
            (streamStep pool.shared call input).2
          simp only [Pool.move, htask, streamResume, List.append_nil]
          -- a call that finds the stream closed stores nothing more
          cases hstream : pool.shared.stream with
          | none =>
              obtain ⟨hsame, hstoring⟩ := stream_step_closed hstream call input
              have hle : total StreamCall.storing
                  (pool.tasks.set task (streamStep pool.shared call input).2) ≤
                    total StreamCall.storing pool.tasks := by omega
              rw [hsame]
              refine ⟨h.log.weaken hle, ?_⟩
              intro stream hsome
              rw [hstream] at hsome
              cases hsome
          | some stream =>
              obtain ⟨stream', events, hnext, hchange⟩ :=
                stream_step_changed hstream call input
              rw [hnext]
              exact h.change hstream hchange hset

/-- A stream that was reserved satisfies the invariant. -/
theorem reserved_inv (ownerWebview capability : String) (retention : DesktopSqlStreamRetention) :
    StreamInv ownerWebview capability (reserved ownerWebview capability retention) := by
  refine ⟨⟨rfl, rfl, rfl, List.nil_prefix, nofun, Nat.le_refl 0, Nat.zero_le 1⟩, ?_⟩
  intro stream hstream
  obtain rfl := Option.some.inj hstream
  refine ⟨⟨rfl, rfl, rfl, fun _ => ⟨rfl, rfl, ?_⟩, nofun, ?_⟩, nofun⟩
  · cases retention <;> rfl
  · intro batch hbatch
    cases retention <;> exact absurd hbatch nofun

end Moves

/-! ## The law of a stream -/

/-- The capability and the webview that a call presents. -/
def StreamCall.presents : StreamCall → Option (String × String)
  | .beginReserved ownerWebview capability _ => some (capability, ownerWebview)
  | .pull _ capability ownerWebview => some (capability, ownerWebview)
  | .acknowledge _ capability ownerWebview => some (capability, ownerWebview)
  | .cancel capability ownerWebview => some (capability, ownerWebview)
  | .cancelBoundByCapability capability ownerWebview => some (capability, ownerWebview)
  | _ => none

/-- The pages that were handed out. -/
def PageLog.handedOut (log : PageLog) : List DesktopSqlStreamBatch :=
  log.pulled.map fun page => page.2.2

/-- What the callers of a stream can rely on, at any point of a run. -/
structure StreamLaw (ownerWebview capability : String) (pool : StreamPool) (log : PageLog) :
    Prop where
  /-- Pages are handed out in the order of their sequences, and the counter stops at its largest
  value. -/
  sequences : log.handedOut.map (·.sequence) = pageSequences log.pulled.length
  /-- Until then no sequence is skipped or repeated. -/
  increasing : log.pulled.length ≤ U64_MAX + 1 →
    log.handedOut.map (·.sequence) = List.range log.pulled.length
  /-- Pages are handed out at most once each, in the order in which they became ready. -/
  once : log.handedOut <+: log.dispatched.map Prod.snd
  /-- At most one page is in flight: stored, ready or handed out but not acknowledged. -/
  single : log.dispatched.length + total StreamCall.storing pool.tasks ≤
    log.acknowledged.length + 1
  /-- Only the owner gets pages. -/
  owned : ∀ page ∈ log.pulled, page.1 = capability ∧ page.2.1 = ownerWebview
  /-- A page that is handed out is the next one, and it was asked for by its owner. -/
  pull : ∀ sequence capability' ownerWebview' batch,
    (pool.shared.pull sequence capability' ownerWebview').2 = some batch →
      (capability', ownerWebview') = (capability, ownerWebview) ∧ batch.sequence = sequence ∧
        log.dispatched.map Prod.snd = log.handedOut ++ [batch]
  /-- A call of anybody else changes nothing. -/
  foreign : ∀ task call input identity, pool.tasks[task]? = some call →
    call.presents = some identity → identity ≠ (capability, ownerWebview) →
      (streamMove pool (.resume task input)).shared = pool.shared
  /-- Acknowledgements are those of the pages that were handed out, in their order. -/
  matched : log.acknowledged <+: log.handedOut.map (·.sequence)
  /-- An accepted acknowledgement is that of the one page that was handed out last. -/
  acknowledge : ∀ sequence capability' ownerWebview',
    (pool.shared.acknowledge sequence capability' ownerWebview').2 = true →
      log.handedOut.map (·.sequence) = log.acknowledged ++ [sequence]
  /-- A stream completes only when every page was handed out and acknowledged, and never after it
  was cancelled. -/
  complete : ∀ writer, (pool.shared.complete writer).2 = .ok () →
    log.handedOut = log.dispatched.map Prod.snd ∧
      log.acknowledged = log.handedOut.map (·.sequence) ∧ .cancelled ∉ pool.shared.history

section Law

variable {ownerWebview capability : String} {pool : StreamPool}

/-- A call of anybody else changes nothing. -/
theorem stream_step_foreign {state : StreamState} {call : StreamCall} {identity : String × String}
    (hpresents : call.presents = some identity)
    (hforeign : ∀ stream, state.stream = some stream →
      identity ≠ (stream.capability, stream.ownerWebview)) (input : StreamInput) :
    (streamStep state call input).1 = state := by
  cases hstream : state.stream with
  | none => exact (stream_step_closed hstream call input).1
  | some stream =>
      have hne := hforeign stream hstream
      have howns : ∀ capability ownerWebview, (capability, ownerWebview) = identity →
          stream.owns capability ownerWebview = false := by
        intro capability ownerWebview heq
        subst heq
        unfold StreamCredit.owns
        simp only [Bool.and_eq_false_iff, decide_eq_false_iff_not]
        by_contra hboth
        push Not at hboth
        exact hne (by rw [hboth.1, hboth.2])
      cases call with
      | beginReserved webview capability pinned =>
          have hfalse := howns _ _ (Option.some.inj hpresents)
          simp only [streamStep, StreamState.beginReserved, hstream, hfalse, if_true]
      | pull sequence capability webview =>
          have hfalse := howns _ _ (Option.some.inj hpresents)
          simp only [streamStep, StreamState.pull, hstream, hfalse, if_true]
      | acknowledge sequence capability webview =>
          have hfalse := howns _ _ (Option.some.inj hpresents)
          simp only [streamStep, StreamState.acknowledge, hstream, hfalse, if_true]
      | cancel capability webview =>
          have hfalse := howns _ _ (Option.some.inj hpresents)
          simp only [streamStep, StreamState.cancel, hstream, hfalse, if_true]
      | cancelBoundByCapability capability webview =>
          have hfalse := howns _ _ (Option.some.inj hpresents)
          simp [streamStep, StreamState.cancelBoundByCapability, hstream, hfalse]
      | _ => cases hpresents

/-- The sequences of the pages that were handed out. -/
theorem LogInv.handed_out {log : PageLog} {storing : Nat}
    (h : LogInv ownerWebview capability log storing) :
    log.handedOut.map (·.sequence) = pageSequences log.pulled.length := by
  unfold PageLog.handedOut
  rw [List.map_map]
  exact h.pulled

/-- The sequences of fewer pages are the first ones. -/
theorem page_sequences_prefix {count count' : Nat} (h : count ≤ count') :
    pageSequences count <+: pageSequences count' := by
  obtain ⟨more, rfl⟩ := Nat.exists_eq_add_of_le h
  unfold pageSequences
  rw [List.range_add, List.map_append]
  exact List.prefix_append _ _

/-- The acknowledged sequences are those of the first pages that were handed out. -/
theorem LogInv.acknowledged_handed_out {log : PageLog} {storing : Nat}
    (h : LogInv ownerWebview capability log storing) :
    log.acknowledged <+: log.handedOut.map (·.sequence) := by
  rw [h.handed_out, h.acknowledged]
  exact page_sequences_prefix h.matched

/-- A pull that hands out a page was made by the owner, for the page that was ready. -/
theorem pull_some {state : StreamState} {sequence : Nat} {capability' ownerWebview' : String}
    {batch : DesktopSqlStreamBatch}
    (h : (state.pull sequence capability' ownerWebview').2 = some batch) :
    ∃ stream, state.stream = some stream ∧
      (capability', ownerWebview') = (stream.capability, stream.ownerWebview) ∧
      stream.inFlight = some sequence ∧ stream.pulled = false ∧ stream.slot = some batch ∧
      batch.sequence = sequence := by
  cases hstream : state.stream with
  | none =>
      simp only [StreamState.pull, hstream] at h
      cases h
  | some stream =>
      refine ⟨stream, rfl, ?_⟩
      simp only [StreamState.pull, hstream] at h
      by_cases howns : stream.owns capability' ownerWebview' = false
      · rw [if_pos howns] at h
        cases h
      rw [if_neg howns] at h
      have howner : stream.capability = capability' ∧ stream.ownerWebview = ownerWebview' := by
        simpa [StreamCredit.owns] using howns
      by_cases hinvalid : stream.cancelled = true ∨ stream.inFlight ≠ some sequence ∨
          stream.pulled = true
      · rw [if_pos hinvalid] at h
        cases h
      rw [if_neg hinvalid] at h
      push Not at hinvalid
      cases hslot : stream.slot.filter fun batch => batch.sequence = sequence with
      | none =>
          rw [hslot] at h
          cases h
      | some page =>
          rw [hslot] at h
          obtain rfl : page = batch := Option.some.inj h
          obtain ⟨hready, hsequence⟩ := Option.filter_eq_some_iff.mp hslot
          exact ⟨by rw [howner.1, howner.2], hinvalid.2.1, by simpa using hinvalid.2.2, hready,
            by simpa using hsequence⟩

/-- An acknowledgement that is accepted is for the page in flight, and it was handed out. -/
theorem acknowledge_true {state : StreamState} {sequence : Nat}
    {capability' ownerWebview' : String}
    (h : (state.acknowledge sequence capability' ownerWebview').2 = true) :
    ∃ stream, state.stream = some stream ∧ stream.inFlight = some sequence ∧
      stream.pulled = true := by
  cases hstream : state.stream with
  | none =>
      simp only [StreamState.acknowledge, hstream] at h
      cases h
  | some stream =>
      refine ⟨stream, rfl, ?_⟩
      simp only [StreamState.acknowledge, hstream] at h
      by_cases howns : stream.owns capability' ownerWebview' = false
      · rw [if_pos howns] at h
        cases h
      rw [if_neg howns] at h
      by_cases hinvalid : stream.cancelled = true ∨ stream.inFlight ≠ some sequence ∨
          stream.pulled = false
      · rw [if_pos hinvalid] at h
        cases h
      push Not at hinvalid
      exact ⟨hinvalid.2.1, by simpa using hinvalid.2.2⟩

/-- A stream that completes is idle and was not cancelled. -/
theorem complete_ok {state : StreamState} {writer : Except DesktopSqlStreamSinkError Unit}
    (h : (state.complete writer).2 = .ok ()) :
    ∃ stream, state.stream = some stream ∧ stream.cancelled = false ∧ stream.inFlight = none := by
  cases hstream : state.stream with
  | none =>
      simp only [StreamState.complete, hstream] at h
      cases h
  | some stream =>
      refine ⟨stream, rfl, ?_⟩
      simp only [StreamState.complete, hstream] at h
      by_cases hcancelled : stream.cancelled = true
      · rw [if_pos hcancelled] at h
        cases h
      rw [if_neg hcancelled] at h
      by_cases hflying : stream.inFlight.isSome = true
      · rw [if_pos hflying] at h
        cases h
      exact ⟨by simpa using hcancelled, by simpa using hflying⟩

/-- The invariant is what the callers rely on. -/
theorem StreamInv.law (h : StreamInv ownerWebview capability pool) :
    StreamLaw ownerWebview capability pool (pageLog pool.shared.history) := by
  obtain ⟨hlog, hcredit⟩ := h
  constructor
  case sequences => exact hlog.handed_out
  case increasing =>
    intro hcount
    rw [hlog.handed_out, page_sequences_eq_range hcount]
  case once => exact hlog.order
  case single => exact hlog.single
  case owned => exact hlog.owned
  case pull =>
    intro sequence capability' ownerWebview' batch hpull
    obtain ⟨stream, hstream, howner, hflying, hfresh, hready, hsequence⟩ := pull_some hpull
    obtain ⟨hcredit, -⟩ := hcredit stream hstream
    refine ⟨by rw [howner, hcredit.capability, hcredit.ownerWebview], hsequence, ?_⟩
    rw [← hsequence] at hflying
    obtain ⟨hlog', -⟩ := hcredit.pull hlog hflying hfresh hready
    have horder : (pageLog pool.shared.history).handedOut ++ [batch] <+:
        (pageLog pool.shared.history).dispatched.map Prod.snd := by
      have hprefix := hlog'.order
      simpa [PageLog.record, PageLog.handedOut] using hprefix
    -- no more pages were dispatched than were pulled and this one
    have hcount := (hcredit.flying _ hflying).2
    have hdispatched := (hcredit.ready batch hready).1
    rw [hfresh] at hcount
    refine (horder.eq_of_length ?_).symm
    rw [List.length_append, List.length_singleton, PageLog.handedOut, List.length_map,
      List.length_map, hdispatched, hcount]
    rfl
  case foreign =>
    intro task call input identity htask hpresents hne
    have hsame := @stream_step_foreign pool.shared _ _ hpresents (by
      intro stream hstream
      obtain ⟨hcredit, -⟩ := hcredit stream hstream
      rw [hcredit.capability, hcredit.ownerWebview]
      exact hne) input
    show (pool.move streamResume (.resume task input)).shared = pool.shared
    simp only [Pool.move, htask, streamResume]
    exact hsame
  case matched => exact hlog.acknowledged_handed_out
  case acknowledge =>
    intro sequence capability' ownerWebview' haccepted
    obtain ⟨stream, hstream, hflying, htaken⟩ := acknowledge_true haccepted
    obtain ⟨hcredit, -⟩ := hcredit stream hstream
    obtain ⟨hsequence, hcount⟩ := hcredit.flying sequence hflying
    rw [htaken] at hcount
    have hcount : (pageLog pool.shared.history).pulled.length =
        (pageLog pool.shared.history).acknowledged.length + 1 := hcount
    rw [hlog.handed_out, hcount, page_sequences_succ, ← hlog.acknowledged, hsequence]
  case complete =>
    intro writer hcomplete
    obtain ⟨stream, hstream, hcancelled, hidle⟩ := complete_ok hcomplete
    obtain ⟨hcredit, hkept⟩ := hcredit stream hstream
    have hcount := (hcredit.idle hidle).1
    have hmatched := hlog.matched
    have hpulled := hlog.pulled_le
    refine ⟨hlog.order.eq_of_length ?_, hlog.acknowledged_handed_out.eq_of_length ?_, ?_⟩
    · rw [List.length_map, List.length_map]
      omega
    · rw [List.length_map, PageLog.handedOut, List.length_map]
      omega
    · intro hmem
      rw [hkept hmem] at hcancelled
      exact absurd hcancelled (by decide)

end Law

/-- Whoever calls, and however the calls interleave, the pages of a stream go to its owner one at a
time, each once and in their order, until the counter of the sequences is exhausted. -/
theorem stream_protocol (ownerWebview capability : String)
    (retention : DesktopSqlStreamRetention) (moves : List (Move StreamCall StreamInput)) :
    StreamLaw ownerWebview capability
      (run streamMove (reserved ownerWebview capability retention) moves)
      (pageLog
        (run streamMove (reserved ownerWebview capability retention) moves).shared.history) :=
  (run_invariant (reserved_inv ownerWebview capability retention)
    (fun _ move h => StreamInv.move h move) moves).law

/-! ## The end of the counter -/

/-- A page without rows. -/
def emptyPage (sequence : Nat) : DesktopSqlStreamBatch where
  operationId := ⟨"018f4f5e-0000-7000-8000-000000000000"⟩
  sequence := sequence
  rowStart := 0
  columns := []
  rows := []
  decodeFailures := []

/-- An empty page is within its limits, whatever its sequence. -/
theorem empty_page_fits {sequence : Nat} (h : sequence ≤ U64_MAX) :
    (emptyPage sequence).fits = true := by
  have hdigits : byteLength (sequence : Int).repr.toList ≤ 20 :=
    byte_length_repr_le (by omega) (by unfold U64_MAX at h; omega)
  have hmembers := byte_length_intercalate_le
    [renderString "operationId" ++ ':' :: renderString "018f4f5e-0000-7000-8000-000000000000",
      renderString "sequence" ++ [':'] ++ (sequence : Int).repr.toList,
      "\"rowStart\":0".toList, "\"columns\":[]".toList, "\"rows\":[]".toList]
  have hoperation : byteLength (renderString "operationId" ++ ':' ::
      renderString "018f4f5e-0000-7000-8000-000000000000") = 52 := by decide
  have hsequence : byteLength (renderString "sequence" ++ [':']) = 11 := by decide
  have hrest : byteLength "\"rowStart\":0".toList + byteLength "\"columns\":[]".toList +
      byteLength "\"rows\":[]".toList = 33 := by decide
  simp only [List.map_cons, List.map_nil, List.sum_cons, List.sum_nil] at hmembers
  rw [byte_length_append _ (sequence : Int).repr.toList, hoperation, hsequence] at hmembers
  have hencoded : (emptyPage sequence).encoded.length =
      byteLength ('\x7b' :: [','].intercalate
        [renderString "operationId" ++ ':' :: renderString "018f4f5e-0000-7000-8000-000000000000",
          renderString "sequence" ++ [':'] ++ (sequence : Int).repr.toList,
          "\"rowStart\":0".toList, "\"columns\":[]".toList, "\"rows\":[]".toList] ++ ['\x7d']) := by
    unfold DesktopSqlStreamBatch.encoded
    rw [length_text_bytes]
    simp only [emptyPage, DesktopSqlStreamBatch.toJson, Json.render, Json.renderMembers,
      Json.renderItems, List.isEmpty_nil, if_true, List.append_nil, List.map_nil]
    rw [List.append_assoc (renderString "sequence")]
    rfl
  have hlength : (emptyPage sequence).encoded.length ≤ DESKTOP_STREAM_BATCH_MAX_BYTES := by
    have hbraces : byteLength ['\x7b'] = 1 ∧ byteLength ['\x7d'] = 1 := by decide
    rw [hencoded, byte_length_append, ← List.singleton_append, byte_length_append, hbraces.1,
      hbraces.2]
    unfold DESKTOP_STREAM_BATCH_MAX_BYTES
    omega
  have hrows : (emptyPage sequence).rows.length ≤ 256 := Nat.zero_le 256
  unfold DesktopSqlStreamBatch.fits
  rw [decide_eq_true hrows, decide_eq_true hlength]
  rfl

/-- A call that starts and goes on at once. -/
theorem resume_last (shared : StreamState) (tasks : List StreamCall) (call : StreamCall)
    (input : StreamInput) :
    streamMove ⟨shared, tasks ++ [call]⟩ (.resume tasks.length input) =
      ⟨(streamStep shared call input).1, tasks ++ [(streamStep shared call input).2]⟩ := by
  show Pool.move streamResume ⟨shared, tasks ++ [call]⟩ (.resume tasks.length input) = _
  simp only [Pool.move, List.getElem?_concat_length, streamResume, List.append_nil]
  rw [List.set_append_right _ _ (Nat.le_refl _), Nat.sub_self]
  rfl

/-- A call that starts and goes on at once. -/
theorem run_call (shared : StreamState) (tasks : List StreamCall) {call : StreamCall}
    (hcall : call.isCall = true) (input : StreamInput) :
    run streamMove ⟨shared, tasks⟩ [.start call, .resume tasks.length input] =
      ⟨(streamStep shared call input).1, tasks ++ [(streamStep shared call input).2]⟩ := by
  have hstart : streamMove ⟨shared, tasks⟩ (.start call) = ⟨shared, tasks ++ [call]⟩ := by
    show (if call.isCall then _ else _) = _
    rw [if_pos hcall]
    rfl
  rw [run_cons, hstart, run_cons, resume_last]
  rfl

/-- A capability as `reserve` accepts it. -/
def someCapability : String := "00112233445566778899aabbccddeeff00112233445566778899aabbccddeeff"

/-- The stream before the page with an index. -/
def streamBefore (index : Nat) : StreamCredit where
  nextSequence := pageSequence index
  ownerWebview := "main"
  capability := someCapability
  retention := .ephemeral
  started := true
  changed := pageSequence index

/-- The stream while its page is in flight. -/
def streamFlying (index : Nat) (page : Option DesktopSqlStreamBatch) (pulled : Bool) :
    StreamCredit :=
  { streamBefore index with
    inFlight := some (pageSequence index)
    pulled := pulled
    ephemeralBatch := page }

section PageSteps

variable (index : Nat) (history : List StreamEvent)

/-- The page is announced. -/
theorem dispatch_step (page : DesktopSqlStreamBatch) :
    streamStep ⟨some (streamBefore index), history⟩ (.dispatch (pageSequence index) page) .ok =
      (⟨some (streamFlying index none false), history⟩,
        .store (pageSequence index) page .ephemeral) := by
  simp [streamStep, StreamState.announce, streamBefore, StreamState.put, streamFlying]

/-- The page is within its limits. -/
theorem store_step (shared : StreamState) :
    streamStep shared (.store (pageSequence index) (emptyPage (pageSequence index)) .ephemeral)
        .ok = (shared, .offer (pageSequence index) (emptyPage (pageSequence index))) := by
  have hfits : (emptyPage (pageSequence index)).fits = true :=
    empty_page_fits (Nat.min_le_right _ _)
  simp [streamStep, hfits]

/-- The page becomes ready. -/
theorem offer_step (page : DesktopSqlStreamBatch) :
    streamStep ⟨some (streamFlying index none false), history⟩ (.offer (pageSequence index) page)
        .ok =
      (⟨some (streamFlying index (some page) false),
        history ++ [.dispatched (pageSequence index) page]⟩, .done (.result (.ok ()))) := by
  simp [streamStep, StreamState.offer, streamFlying, streamBefore, StreamState.put,
    StreamCredit.setSlot]

/-- The owner pulls the page. -/
theorem pull_step (page : DesktopSqlStreamBatch) (hpage : page.sequence = pageSequence index) :
    streamStep ⟨some (streamFlying index (some page) false), history⟩
        (.pull (pageSequence index) someCapability "main") .ok =
      (⟨some (streamFlying index none true), history ++ [.pulled someCapability "main" page]⟩,
        .done (.page (some page))) := by
  have hfilter : (some page).filter (fun batch => batch.sequence = pageSequence index) =
      some page := by
    simp [Option.filter, hpage]
  simp [streamStep, StreamState.pull, streamFlying, streamBefore, StreamState.put,
    StreamCredit.setSlot, StreamCredit.slot, StreamCredit.owns, hfilter]

/-- The owner acknowledges the page. -/
theorem acknowledge_step :
    streamStep ⟨some (streamFlying index none true), history⟩
        (.acknowledge (pageSequence index) someCapability "main") .ok =
      (⟨some (streamBefore (index + 1)), history ++ [.acknowledged (pageSequence index)]⟩,
        .done (.accepted true)) := by
  simp [streamStep, StreamState.acknowledge, streamFlying, streamBefore, StreamState.put,
    StreamCredit.owns, StreamCredit.signal, saturating_succ_page_sequence]

end PageSteps

/-- The calls for the page with an index: it is dispatched, pulled and acknowledged. -/
def pageCycle (index tasks : Nat) : List (Move StreamCall StreamInput) :=
  let sequence := pageSequence index
  List.append [.start (.dispatch sequence (emptyPage sequence)), .resume tasks .ok]
    (List.append [.resume tasks .ok] (List.append [.resume tasks .ok]
      (List.append [.start (.pull sequence someCapability "main"), .resume (tasks + 1) .ok]
        [.start (.acknowledge sequence someCapability "main"), .resume (tasks + 2) .ok])))

/-- The page with an index goes through the stream. -/
theorem run_page_cycle (index : Nat) (history : List StreamEvent) (tasks : List StreamCall) :
    ∃ tasks' history', run streamMove ⟨⟨some (streamBefore index), history⟩, tasks⟩
        (pageCycle index tasks.length) =
          ⟨⟨some (streamBefore (index + 1)), history'⟩, tasks'⟩ ∧
      tasks'.length = tasks.length + 3 ∧
      (pageLog history').pulled.length = (pageLog history).pulled.length + 1 := by
  have hone : ∀ answer, (tasks ++ [answer]).length = tasks.length + 1 := fun answer =>
    List.length_append
  have htwo : ∀ answer answer', (tasks ++ [answer] ++ [answer']).length = tasks.length + 2 :=
    fun answer answer' => by rw [List.length_append, hone answer]; rfl
  simp only [pageCycle, List.append_eq]
  rw [run_append, run_call _ _ rfl, dispatch_step, run_append, run_cons, run_nil, resume_last, store_step,
    run_append, run_cons, run_nil, resume_last, offer_step, run_append,
    ← hone (.done (.result (.ok ()))), run_call _ _ rfl, pull_step _ _ _ rfl,
    ← htwo (.done (.result (.ok ()))) (.done (.page (some (emptyPage (pageSequence index))))),
    run_call _ _ rfl, acknowledge_step]
  refine ⟨_, _, rfl, ?_, ?_⟩
  · rw [List.length_append, htwo]
    rfl
  · rw [page_log_concat, page_log_concat, page_log_concat]
    exact List.length_append

/-- The calls for the first pages, after the stream was begun. -/
def pageCycles : Nat → List (Move StreamCall StreamInput)
  | 0 => [.start (.beginReserved "main" someCapability false), .resume 0 .ok]
  | count + 1 => pageCycles count ++ pageCycle count (3 * count + 1)

/-- That many pages go through the stream. -/
theorem run_page_cycles (count : Nat) :
    ∃ tasks history, run streamMove (reserved "main" someCapability .ephemeral) (pageCycles count) =
        ⟨⟨some (streamBefore count), history⟩, tasks⟩ ∧
      tasks.length = 3 * count + 1 ∧ (pageLog history).pulled.length = count := by
  induction count with
  | zero => exact ⟨_, _, rfl, rfl, rfl⟩
  | succ count ih =>
      obtain ⟨tasks, history, hrun, htasks, hpulled⟩ := ih
      obtain ⟨tasks', history', hcycle, htasks', hpulled'⟩ := run_page_cycle count history tasks
      refine ⟨tasks', history', ?_, by omega, by omega⟩
      rw [pageCycles, run_append, hrun, ← htasks, hcycle]

/-- The sequences of that many pages. -/
theorem page_cycles_handed_out (count : Nat) :
    (pageLog (run streamMove (reserved "main" someCapability .ephemeral)
      (pageCycles count)).shared.history).handedOut.map (·.sequence) = pageSequences count := by
  obtain ⟨tasks, history, hrun, -, hpulled⟩ := run_page_cycles count
  have hinv := run_invariant (reserved_inv "main" someCapability .ephemeral)
    (fun _ move h => StreamInv.move h move) (pageCycles count)
  rw [hinv.law.sequences, hrun, hpulled]

/-- The sequences of more pages than the counter has values are not increasing. -/
theorem page_sequences_repeat {count : Nat} (h : count = U64_MAX) :
    ¬ (pageSequences (count + 2)).Pairwise (· < ·) := by
  rw [page_sequences_succ, page_sequences_succ, List.append_assoc]
  intro hpairwise
  have hlast := (List.pairwise_append.mp hpairwise).2.1
  have hlt : pageSequence count < pageSequence (count + 1) :=
    (List.pairwise_cons.mp hlast).1 _ (List.mem_singleton_self _)
  unfold pageSequence at hlt
  omega

/-- The counter stops at its largest value, and the page after it repeats the sequence. -/
theorem stream_sequences_repeat : ∃ moves : List (Move StreamCall StreamInput),
    ¬ ((pageLog (run streamMove (reserved "main" someCapability .ephemeral) moves).shared.history
      ).handedOut.map (·.sequence)).Pairwise (· < ·) := by
  obtain ⟨count, hcount⟩ : ∃ count, count = U64_MAX := ⟨_, rfl⟩
  refine ⟨pageCycles (count + 2), ?_⟩
  rw [page_cycles_handed_out]
  exact page_sequences_repeat hcount

end Dopedb.Queries
