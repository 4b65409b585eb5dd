import Dopedb.Queries.StreamCredit
import Mathlib.Data.List.AList

/-!
# Reservations of pending streams

The `pending` map of `desktop_stream_registry.rs`: a webview reserves a capability before it knows
its operation, the plan binds the capability to the operation, and until then the capability alone
is cancelled or forgotten. `history` records what happened to the reservations.
-/

namespace Dopedb.Queries

open Library

/-- A reservation that waits for its operation. -/
structure PendingStream where
  ownerWebview : String
  cancelled : Bool
  retention : DesktopSqlStreamRetention
  deriving DecidableEq, Repr

/-- What happened to a reservation: a successful call made it, `cancel_pending` answered true for
it, or it was removed, by `forget_pending` or because `bind_pending` took it. -/
inductive PendingEvent where
  | reserved (capability : String)
  | cancelled (capability : String)
  | removed (capability : String)
  deriving DecidableEq, Repr

/-- The two maps of the registry, and what happened to the reservations. -/
structure StreamRegistry where
  streams : AList (fun _ : OperationId => StreamCredit) := ∅
  pending : AList (fun _ : String => PendingStream) := ∅
  history : List PendingEvent := []

/-- `u8::is_ascii_hexdigit`, of a character; the bytes of any other character are no digits. -/
def isAsciiHexdigit (c : Char) : Bool :=
  ('0' ≤ c && c ≤ '9') || ('a' ≤ c && c ≤ 'f') || ('A' ≤ c && c ≤ 'F')

/-- `validate_capability`. -/
def validateCapability (capability : String) : Except DesktopSqlStreamSinkError Unit :=
  if capability.utf8ByteSize ≠ 64 ∨ capability.toList.all isAsciiHexdigit = false then
    .error .invalidAcknowledgement
  else .ok ()

namespace StreamRegistry

/-- `reserve_pending_with_retention`. -/
def reservePendingWithRetention (registry : StreamRegistry) (ownerWebview capability : String)
    (retention : DesktopSqlStreamRetention) :
    StreamRegistry × Except DesktopSqlStreamSinkError Unit :=
  match validateCapability capability with
  | .error error => (registry, .error error)
  | .ok _ =>
    -- The new reservation is in the map before the old one is looked at.
    let displaced := registry.pending.lookup capability
    let pending := registry.pending.insert capability ⟨ownerWebview, false, retention⟩
    match displaced with
    | some _ => ({ registry with pending }, .error .streamAlreadyActive)
    | none =>
      ({ registry with pending, history := registry.history ++ [.reserved capability] }, .ok ())

/-- `reserve_pending`. -/
def reservePending (registry : StreamRegistry) (ownerWebview capability : String) :
    StreamRegistry × Except DesktopSqlStreamSinkError Unit :=
  registry.reservePendingWithRetention ownerWebview capability .durable

/-- `reserve_pending_ephemeral`. -/
def reservePendingEphemeral (registry : StreamRegistry) (ownerWebview capability : String) :
    StreamRegistry × Except DesktopSqlStreamSinkError Unit :=
  registry.reservePendingWithRetention ownerWebview capability .ephemeral

/-- `reserve_with_retention`. -/
def reserveWithRetention (registry : StreamRegistry) (operationId : OperationId)
    (ownerWebview capability : String) (retention : DesktopSqlStreamRetention) :
    StreamRegistry × Except DesktopSqlStreamSinkError Unit :=
  match validateCapability capability with
  | .error error => (registry, .error error)
  | .ok _ =>
    if operationId ∈ registry.streams then (registry, .error .streamAlreadyActive)
    else
      let stream : StreamCredit := { ownerWebview, capability, retention }
      ({ registry with streams := registry.streams.insert operationId stream }, .ok ())

/-- The reservation of a capability is taken out of the map. -/
def takePending (registry : StreamRegistry) (capability : String) : StreamRegistry :=
  { registry with
    pending := registry.pending.erase capability
    history := registry.history ++ [.removed capability] }

/-- `bind_pending`. -/
def bindPending (registry : StreamRegistry) (operationId : OperationId)
    (ownerWebview capability : String) :
    StreamRegistry × Except DesktopSqlStreamSinkError Unit :=
  match registry.pending.lookup capability with
  | none => (registry, .error .cancelled)
  | some pending =>
    let registry := registry.takePending capability
    if pending.ownerWebview ≠ ownerWebview ∨ pending.cancelled then (registry, .error .cancelled)
    else registry.reserveWithRetention operationId ownerWebview capability pending.retention

/-- `cancel_pending`. -/
def cancelPending (registry : StreamRegistry) (capability ownerWebview : String) :
    StreamRegistry × Bool :=
  match registry.pending.lookup capability with
  | none => (registry, false)
  | some stream =>
    if stream.ownerWebview ≠ ownerWebview then (registry, false)
    else
      ({ registry with
          pending := registry.pending.insert capability { stream with cancelled := true }
          history := registry.history ++ [.cancelled capability] }, true)

/-- `forget_pending`. -/
def forgetPending (registry : StreamRegistry) (capability ownerWebview : String) :
    StreamRegistry :=
  match registry.pending.lookup capability with
  | none => registry
  | some stream =>
    if stream.ownerWebview = ownerWebview then registry.takePending capability else registry

end StreamRegistry

/-- A call about a pending stream. -/
inductive PendingCall where
  | reserve (ownerWebview capability : String)
  | reserveEphemeral (ownerWebview capability : String)
  | bind (operationId : OperationId) (ownerWebview capability : String)
  | cancel (capability ownerWebview : String)
  | forget (capability ownerWebview : String)
  deriving DecidableEq, Repr

/-- What a call answers. -/
inductive PendingAnswer where
  | result (result : Except DesktopSqlStreamSinkError Unit)
  | found (found : Bool)
  | unit

/-- A call. -/
def pendingCall (registry : StreamRegistry) : PendingCall → StreamRegistry × PendingAnswer
  | .reserve ownerWebview capability =>
    let (registry, result) := registry.reservePending ownerWebview capability
    (registry, .result result)
  | .reserveEphemeral ownerWebview capability =>
    let (registry, result) := registry.reservePendingEphemeral ownerWebview capability
    (registry, .result result)
  | .bind operationId ownerWebview capability =>
    let (registry, result) := registry.bindPending operationId ownerWebview capability
    (registry, .result result)
  | .cancel capability ownerWebview =>
    let (registry, found) := registry.cancelPending capability ownerWebview
    (registry, .found found)
  | .forget capability ownerWebview => (registry.forgetPending capability ownerWebview, .unit)

/-- The registry after a call. -/
def pendingStep (registry : StreamRegistry) (call : PendingCall) : StreamRegistry :=
  (pendingCall registry call).1

/-- The reservation that a call asks for: capability, owner and retention. -/
def PendingCall.reserves : PendingCall → Option (String × PendingStream)
  | .reserve ownerWebview capability => some (capability, ⟨ownerWebview, false, .durable⟩)
  | .reserveEphemeral ownerWebview capability =>
    some (capability, ⟨ownerWebview, false, .ephemeral⟩)
  | _ => none

/-- The call answers with an error. -/
def PendingAnswer.isError : PendingAnswer → Bool
  | .result (.error _) => true
  | _ => false

/-- The call answers with success. -/
def PendingAnswer.isOk : PendingAnswer → Bool
  | .result (.ok _) => true
  | _ => false

/-! ## The law of the reservations -/

/-- A call that asks for a reservation and fails leaves every reservation as it was. -/
def FailsWithoutEffect (registry : StreamRegistry) (call : PendingCall) : Prop :=
  call.reserves.isSome → (pendingCall registry call).2.isError →
    ∀ capability, (pendingStep registry call).pending.lookup capability =
      registry.pending.lookup capability

/-- Afterwards the reservation was removed, and a successful call made it anew. -/
def Renewed (capability : String) (history : List PendingEvent) : Prop :=
  ∃ before after, history = before ++ .reserved capability :: after ∧
    .removed capability ∈ before

/-- A call that binds a capability succeeds only where each cancellation of it was followed by its
renewal. -/
def BindsUncancelled (registry : StreamRegistry) (call : PendingCall) : Prop :=
  ∀ operationId ownerWebview capability, call = .bind operationId ownerWebview capability →
    (pendingCall registry call).2.isOk →
      ∀ before after, registry.history = before ++ .cancelled capability :: after →
        Renewed capability after

/-- The law of the reservations, at one call. -/
def PendingLaw (registry : StreamRegistry) (call : PendingCall) : Prop :=
  FailsWithoutEffect registry call ∧ BindsUncancelled registry call

/-- A call that asks for a reservation of a valid capability finds none, or the very same one, not
cancelled. -/
def ReservesFresh (registry : StreamRegistry) (call : PendingCall) : Prop :=
  ∀ capability wanted, call.reserves = some (capability, wanted) →
    validateCapability capability = .ok () →
      ∀ held, registry.pending.lookup capability = some held → held = wanted

/-! ## What a call does -/

variable {registry : StreamRegistry}

/-- A call that asks for a reservation. -/
theorem pending_call_reserve {call : PendingCall} {capability : String} {wanted : PendingStream}
    (h : call.reserves = some (capability, wanted)) :
    wanted.cancelled = false ∧
      pendingStep registry call = (registry.reservePendingWithRetention wanted.ownerWebview
        capability wanted.retention).1 ∧
      (pendingCall registry call).2 = .result (registry.reservePendingWithRetention
        wanted.ownerWebview capability wanted.retention).2 := by
  cases call with
  | reserve ownerWebview capability' =>
      obtain ⟨rfl, rfl⟩ := Prod.mk.inj (Option.some.inj h)
      exact ⟨rfl, rfl, rfl⟩
  | reserveEphemeral ownerWebview capability' =>
      obtain ⟨rfl, rfl⟩ := Prod.mk.inj (Option.some.inj h)
      exact ⟨rfl, rfl, rfl⟩
  | bind operationId ownerWebview capability' => exact nomatch h
  | cancel capability' ownerWebview => exact nomatch h
  | forget capability' ownerWebview => exact nomatch h

/-- An invalid capability is refused without a look at the map. -/
theorem reserve_invalid {capability : String} {error : DesktopSqlStreamSinkError}
    (hinvalid : validateCapability capability = .error error) (ownerWebview : String)
    (retention : DesktopSqlStreamRetention) :
    registry.reservePendingWithRetention ownerWebview capability retention =
      (registry, .error error) := by
  simp only [StreamRegistry.reservePendingWithRetention, hinvalid]

/-- A free capability is reserved. -/
theorem reserve_free {capability : String} (hvalid : validateCapability capability = .ok ())
    (hfree : registry.pending.lookup capability = none) (ownerWebview : String)
    (retention : DesktopSqlStreamRetention) :
    registry.reservePendingWithRetention ownerWebview capability retention =
      ({ registry with
          pending := registry.pending.insert capability ⟨ownerWebview, false, retention⟩
          history := registry.history ++ [.reserved capability] }, .ok ()) := by
  simp only [StreamRegistry.reservePendingWithRetention, hvalid, hfree]

/-- A reserved capability is refused, and its reservation replaced. -/
theorem reserve_held {capability : String} {held : PendingStream}
    (hvalid : validateCapability capability = .ok ())
    (hheld : registry.pending.lookup capability = some held) (ownerWebview : String)
    (retention : DesktopSqlStreamRetention) :
    registry.reservePendingWithRetention ownerWebview capability retention =
      ({ registry with
          pending := registry.pending.insert capability ⟨ownerWebview, false, retention⟩ },
        .error .streamAlreadyActive) := by
  simp only [StreamRegistry.reservePendingWithRetention, hvalid, hheld]

/-- Binding a stream does not touch the reservations. -/
theorem reserve_with_retention_pending (operationId : OperationId)
    (ownerWebview capability : String) (retention : DesktopSqlStreamRetention) :
    (registry.reserveWithRetention operationId ownerWebview capability retention).1.pending =
        registry.pending ∧
      (registry.reserveWithRetention operationId ownerWebview capability retention).1.history =
        registry.history := by
  unfold StreamRegistry.reserveWithRetention
  split
  · exact ⟨rfl, rfl⟩
  · split
    · exact ⟨rfl, rfl⟩
    · exact ⟨rfl, rfl⟩

/-- What one call does to the reservations. -/
inductive PendingChange (registry : StreamRegistry) (call : PendingCall) : Prop where
  /-- Nothing. -/
  | same (hpending : (pendingStep registry call).pending = registry.pending)
      (hhistory : (pendingStep registry call).history = registry.history)
  /-- A free capability is reserved. -/
  | reserve (capability : String) (wanted : PendingStream)
      (hfree : registry.pending.lookup capability = none)
      (hpending : (pendingStep registry call).pending = registry.pending.insert capability wanted)
      (hhistory : (pendingStep registry call).history =
        registry.history ++ [.reserved capability])
  /-- A refused call replaces a reservation. -/
  | displace (capability : String) (wanted held : PendingStream)
      (hcall : call.reserves = some (capability, wanted))
      (hvalid : validateCapability capability = .ok ())
      (hheld : registry.pending.lookup capability = some held)
      (hpending : (pendingStep registry call).pending = registry.pending.insert capability wanted)
      (hhistory : (pendingStep registry call).history = registry.history)
  /-- A reservation is taken out. -/
  | remove (capability : String)
      (hpending : (pendingStep registry call).pending = registry.pending.erase capability)
      (hhistory : (pendingStep registry call).history =
        registry.history ++ [.removed capability])
  /-- A reservation is cancelled. -/
  | cancel (capability : String) (held : PendingStream) (hheld : held.cancelled = true)
      (hpending : (pendingStep registry call).pending = registry.pending.insert capability held)
      (hhistory : (pendingStep registry call).history =
        registry.history ++ [.cancelled capability])

/-- A call that asks for a reservation. -/
theorem reserve_change {call : PendingCall} {capability : String} {wanted : PendingStream}
    (h : call.reserves = some (capability, wanted)) : PendingChange registry call := by
  obtain ⟨hcancelled, hstep, -⟩ := @pending_call_reserve registry _ _ _ h
  have hwanted : (⟨wanted.ownerWebview, false, wanted.retention⟩ : PendingStream) = wanted := by
    rw [← hcancelled]
  cases hvalid : validateCapability capability with
  | error error =>
      rw [reserve_invalid hvalid] at hstep
      exact .same (by rw [hstep]) (by rw [hstep])
  | ok _ =>
      cases hheld : registry.pending.lookup capability with
      | none =>
          rw [reserve_free hvalid hheld, hwanted] at hstep
          exact .reserve capability wanted hheld (by rw [hstep]) (by rw [hstep])
      | some held =>
          rw [reserve_held hvalid hheld, hwanted] at hstep
          exact .displace capability wanted held h hvalid hheld (by rw [hstep]) (by rw [hstep])

/-- Binding takes the reservation, whether or not it succeeds. -/
theorem bind_change (operationId : OperationId) (ownerWebview capability : String) :
    PendingChange registry (.bind operationId ownerWebview capability) := by
  have hstep : pendingStep registry (.bind operationId ownerWebview capability) =
      (registry.bindPending operationId ownerWebview capability).1 := rfl
  unfold StreamRegistry.bindPending at hstep
  cases hheld : registry.pending.lookup capability with
  | none =>
      rw [hheld] at hstep
      exact .same (by rw [hstep]) (by rw [hstep])
  | some held =>
      rw [hheld] at hstep
      by_cases hrefused : held.ownerWebview ≠ ownerWebview ∨ held.cancelled = true
      · simp only [hrefused, if_true] at hstep
        exact .remove capability (by rw [hstep]; rfl) (by rw [hstep]; rfl)
      · simp only [hrefused, if_false] at hstep
        obtain ⟨hpending, hhistory⟩ := @reserve_with_retention_pending
          (registry.takePending capability) operationId ownerWebview capability
          held.retention
        exact .remove capability (by rw [hstep, hpending]; rfl) (by rw [hstep, hhistory]; rfl)

/-- Cancelling. -/
theorem cancel_change (capability ownerWebview : String) :
    PendingChange registry (.cancel capability ownerWebview) := by
  have hstep : pendingStep registry (.cancel capability ownerWebview) =
      (registry.cancelPending capability ownerWebview).1 := rfl
  unfold StreamRegistry.cancelPending at hstep
  cases hheld : registry.pending.lookup capability with
  | none =>
      rw [hheld] at hstep
      exact .same (by rw [hstep]) (by rw [hstep])
  | some held =>
      rw [hheld] at hstep
      by_cases hforeign : held.ownerWebview ≠ ownerWebview
      · dsimp only at hstep
        rw [if_pos hforeign] at hstep
        exact .same (by rw [hstep]) (by rw [hstep])
      · dsimp only at hstep
        rw [if_neg hforeign] at hstep
        exact .cancel capability { held with cancelled := true } rfl (by rw [hstep])
          (by rw [hstep])

/-- Forgetting. -/
theorem forget_change (capability ownerWebview : String) :
    PendingChange registry (.forget capability ownerWebview) := by
  have hstep : pendingStep registry (.forget capability ownerWebview) =
      registry.forgetPending capability ownerWebview := rfl
  unfold StreamRegistry.forgetPending at hstep
  cases hheld : registry.pending.lookup capability with
  | none =>
      rw [hheld] at hstep
      exact .same (by rw [hstep]) (by rw [hstep])
  | some held =>
      rw [hheld] at hstep
      by_cases howned : held.ownerWebview = ownerWebview
      · simp only [howned, if_true] at hstep
        exact .remove capability (by rw [hstep]; rfl) (by rw [hstep]; rfl)
      · simp only [howned, if_false] at hstep
        exact .same (by rw [hstep]) (by rw [hstep])

/-- Every call is one of these changes. -/
theorem pending_change (call : PendingCall) : PendingChange registry call := by
  cases call with
  | reserve ownerWebview capability => exact reserve_change rfl
  | reserveEphemeral ownerWebview capability => exact reserve_change rfl
  | bind operationId ownerWebview capability => exact bind_change operationId _ _
  | cancel capability ownerWebview => exact cancel_change _ _
  | forget capability ownerWebview => exact forget_change _ _

/-! ## Cancelled reservations -/

/-- Since a capability was cancelled it was renewed, or it was removed and is free, or its
reservation still is the cancelled one. -/
def CancellationsSettled (registry : StreamRegistry) : Prop :=
  ∀ capability before after, registry.history = before ++ .cancelled capability :: after →
    Renewed capability after ∨
    (registry.pending.lookup capability = none ∧ .removed capability ∈ after) ∨
    ∃ held, registry.pending.lookup capability = some held ∧ held.cancelled = true

/-- What was renewed stays renewed. -/
theorem renewed_append {capability : String} {history : List PendingEvent}
    (h : Renewed capability history) (more : List PendingEvent) :
    Renewed capability (history ++ more) := by
  obtain ⟨before, after, rfl, hremoved⟩ := h
  exact ⟨before, after ++ more, by simp, hremoved⟩

/-- Where a history with one more event has a cancellation, that event is it, or the history had it
before. -/
theorem split_snoc {history before after : List PendingEvent} {event : PendingEvent}
    {capability : String}
    (h : history ++ [event] = before ++ .cancelled capability :: after) :
    (event = .cancelled capability ∧ after = []) ∨
    ∃ rest, after = rest ++ [event] ∧ history = before ++ .cancelled capability :: rest := by
  rcases List.eq_nil_or_concat after with rfl | ⟨rest, last, rfl⟩
  · exact .inl ⟨(List.append_inj' h rfl).2 |> List.singleton_inj.mp, rfl⟩
  · rw [List.concat_eq_append, ← List.cons_append, ← List.append_assoc] at h
    obtain ⟨hhistory, hevent⟩ := List.append_inj' h rfl
    obtain rfl := List.singleton_inj.mp hevent
    exact .inr ⟨rest, List.concat_eq_append .., hhistory⟩

/-- Calls that reserve freshly keep cancelled reservations settled. -/
theorem settled_step {call : PendingCall} (hsettled : CancellationsSettled registry)
    (hfresh : ReservesFresh registry call) : CancellationsSettled (pendingStep registry call) := by
  intro capability before after hhistory'
  cases @pending_change registry call with
  | same hpending hhistory =>
      rw [hpending]
      exact hsettled capability before after (hhistory ▸ hhistory')
  | displace other wanted held hcall hvalid hheld hpending hhistory =>
      -- The reservation is replaced by the very same one.
      obtain rfl := hfresh other wanted hcall hvalid held hheld
      have hlookup : ∀ c, (registry.pending.insert other held).lookup c =
          registry.pending.lookup c := by
        intro c
        by_cases hc : c = other
        · rw [hc, AList.lookup_insert, hheld]
        · rw [AList.lookup_insert_ne hc]
      rw [hpending, hlookup]
      exact hsettled capability before after (hhistory ▸ hhistory')
  | reserve other wanted hfree hpending hhistory =>
      rcases split_snoc (hhistory ▸ hhistory') with ⟨habsurd, -⟩ | ⟨rest, rfl, hbefore⟩
      · exact nomatch habsurd
      · rw [hpending]
        rcases hsettled capability before rest hbefore with hrenewed | ⟨hnone, hremoved⟩ | hheld
        · exact .inl (renewed_append hrenewed _)
        · by_cases hsame : capability = other
          · rw [hsame] at hremoved ⊢
            exact .inl ⟨rest, [], rfl, hremoved⟩
          · rw [AList.lookup_insert_ne hsame]
            exact .inr (.inl ⟨hnone, List.mem_append_left _ hremoved⟩)
        · obtain ⟨held, hheld, hcancelled⟩ := hheld
          have hne : capability ≠ other := by
            rintro rfl
            exact absurd (hfree.symm.trans hheld) (by simp)
          rw [AList.lookup_insert_ne hne]
          exact .inr (.inr ⟨held, hheld, hcancelled⟩)
  | remove other hpending hhistory =>
      rcases split_snoc (hhistory ▸ hhistory') with ⟨habsurd, -⟩ | ⟨rest, rfl, hbefore⟩
      · exact nomatch habsurd
      · rw [hpending]
        by_cases hsame : capability = other
        · rw [hsame, AList.lookup_erase]
          exact .inr (.inl ⟨rfl, List.mem_append_right _ (List.mem_singleton_self _)⟩)
        · rw [AList.lookup_erase_ne hsame]
          rcases hsettled capability before rest hbefore with hrenewed | ⟨hnone, hremoved⟩ | hheld
          · exact .inl (renewed_append hrenewed _)
          · exact .inr (.inl ⟨hnone, List.mem_append_left _ hremoved⟩)
          · exact .inr (.inr hheld)
  | cancel other held hcancelled hpending hhistory =>
      rw [hpending]
      by_cases hsame : capability = other
      · rw [hsame, AList.lookup_insert]
        exact .inr (.inr ⟨held, rfl, hcancelled⟩)
      · rw [AList.lookup_insert_ne hsame]
        rcases split_snoc (hhistory ▸ hhistory') with ⟨heq, -⟩ | ⟨rest, rfl, hbefore⟩
        · exact absurd (PendingEvent.cancelled.inj heq).symm hsame
        · rcases hsettled capability before rest hbefore with hrenewed | ⟨hnone, hremoved⟩ | hheld
          · exact .inl (renewed_append hrenewed _)
          · exact .inr (.inl ⟨hnone, List.mem_append_left _ hremoved⟩)
          · exact .inr (.inr hheld)

/-- A bind that succeeds took a reservation that was not cancelled. -/
theorem bind_pending_ok {operationId : OperationId} {ownerWebview capability : String}
    (h : (pendingCall registry (.bind operationId ownerWebview capability)).2.isOk = true) :
    ∃ held, registry.pending.lookup capability = some held ∧ held.cancelled = false := by
  have hanswer : (pendingCall registry (.bind operationId ownerWebview capability)).2 =
      .result (registry.bindPending operationId ownerWebview capability).2 := rfl
  rw [hanswer] at h
  unfold StreamRegistry.bindPending at h
  cases hheld : registry.pending.lookup capability with
  | none =>
      rw [hheld] at h
      exact absurd h (by simp [PendingAnswer.isOk])
  | some held =>
      rw [hheld] at h
      refine ⟨held, rfl, ?_⟩
      cases hcancelled : held.cancelled with
      | false => rfl
      | true =>
          dsimp only at h
          rw [if_pos (.inr hcancelled)] at h
          exact absurd h (by simp [PendingAnswer.isOk])

/-- While cancelled reservations are settled, a bind succeeds only of what was renewed since. -/
theorem binds_of_settled (hsettled : CancellationsSettled registry) (call : PendingCall) :
    BindsUncancelled registry call := by
  rintro operationId ownerWebview capability rfl hok before after hhistory
  obtain ⟨held, hheld, hcancelled⟩ := bind_pending_ok hok
  rcases hsettled capability before after hhistory with hrenewed | ⟨hnone, -⟩ | ⟨held', hheld', h⟩
  · exact hrenewed
  · exact absurd (hnone.symm.trans hheld) (by simp)
  · obtain rfl := Option.some.inj (hheld.symm.trans hheld')
    rw [hcancelled] at h
    exact absurd h (by simp)

/-- A refused call leaves the reservations as they were exactly when it reserves freshly. -/
theorem fails_without_effect_iff (call : PendingCall) :
    FailsWithoutEffect registry call ↔ ReservesFresh registry call := by
  constructor
  · intro h capability wanted hcall hvalid held hheld
    obtain ⟨hcancelled, hstep, hanswer⟩ := @pending_call_reserve registry _ _ _ hcall
    rw [reserve_held hvalid hheld] at hstep hanswer
    have hsame := h (by rw [hcall]; rfl) (by rw [hanswer]; rfl) capability
    rw [hstep, hheld, AList.lookup_insert] at hsame
    rw [← Option.some.inj hsame, ← hcancelled]
  · intro h hreserves herror capability
    obtain ⟨⟨wantedCapability, wanted⟩, hcall⟩ := Option.isSome_iff_exists.mp hreserves
    obtain ⟨hcancelled, hstep, hanswer⟩ := @pending_call_reserve registry _ _ _ hcall
    cases hvalid : validateCapability wantedCapability with
    | error error =>
        rw [hstep, reserve_invalid hvalid]
    | ok _ =>
        cases hheld : registry.pending.lookup wantedCapability with
        | none =>
            rw [hanswer, reserve_free hvalid hheld] at herror
            exact absurd herror (by simp [PendingAnswer.isError])
        | some held =>
            obtain rfl := h wantedCapability wanted hcall hvalid held hheld
            rw [hstep, reserve_held hvalid hheld, ← hcancelled]
            by_cases hsame : capability = wantedCapability
            · rw [hsame, AList.lookup_insert, hheld]
            · rw [AList.lookup_insert_ne hsame]

/-- In every sequence of calls, from a registry that holds no reservation and any streams, every
call keeps the law exactly when every call reserves freshly. -/
theorem pending_law_iff (streams : AList (fun _ : OperationId => StreamCredit))
    (calls : List PendingCall) :
    EachCall pendingStep PendingLaw { streams } calls ↔
      EachCall pendingStep ReservesFresh { streams } calls := by
  refine each_call_iff (P := CancellationsSettled) ?_ ?_ ?_ calls
  · intro registry call hsettled
    constructor
    · exact fun hlaw => (fails_without_effect_iff call).mp hlaw.1
    · exact fun hfresh =>
        ⟨(fails_without_effect_iff call).mpr hfresh, binds_of_settled hsettled call⟩
  · exact fun registry call hsettled hlaw =>
      settled_step hsettled ((fails_without_effect_iff call).mp hlaw.1)
  · intro capability before after hhistory
    exact absurd hhistory (by simp)

/-- A capability as the renderer makes it. -/
def sampleCapability : String :=
  "5f70bf18a086007016e948b04aed3b82103a36bea41755b6cddfaf10ace3c6ef"

/-- The reservation was cancelled, a refused repeat replaced it, and the bind goes through. -/
theorem cancelled_pending_binds :
    ¬ EachCall pendingStep PendingLaw {} [.reserve "main" sampleCapability,
      .cancel sampleCapability "main", .reserve "main" sampleCapability,
      .bind ⟨"0d9c5a3e-8d0f-4a35-9f0f-5f5b1c1f2a77"⟩ "main" sampleCapability] := by
  rintro ⟨-, -, -, hbind, -⟩
  have hhistory : (pendingStep (pendingStep (pendingStep {} (.reserve "main" sampleCapability))
      (.cancel sampleCapability "main")) (.reserve "main" sampleCapability)).history =
        [.reserved sampleCapability, .cancelled sampleCapability] := by decide
  obtain ⟨before, after, hrenewed, -⟩ :=
    hbind.2 _ _ _ rfl (by decide) [.reserved sampleCapability] [] hhistory
  exact absurd hrenewed (by simp)

end Dopedb.Queries
