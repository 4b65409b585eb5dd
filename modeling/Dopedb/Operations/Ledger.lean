import Dopedb.Library.HashChain
import Dopedb.Operations.Lifecycle
import Mathlib.Data.List.Chain

/-!
# The event ledger

Each operation's events form a hash chain (`Library.HashChain`) whose states follow the
lifecycle. `reached_ledger` says that every reachable ledger is well formed, `verify_events_iff`
what the executable check decides, and `events_eq_of_verified` that a ledger which passes the
check and has the honest tail hash is the honest ledger.
-/

namespace Dopedb.Operations

open Library OperationState

variable {platform : Platform} {s s' : Store}

/-! ## Well-formed ledgers -/

/-- The hash of an event after a predecessor's hash. -/
def ledgerHash (platform : Platform) (prev : Option String) (event : EventRow) : String :=
  eventHash platform { event.hashInput with prevHash := prev }

/-- An event as a link of its chain. -/
def EventRow.link (event : EventRow) : Link EventRow String :=
  ⟨event, event.prevHash, event.hash⟩

/-- A well-formed ledger that ends in `state`. -/
structure LedgerWellFormed (platform : Platform) (events : List EventRow)
    (state : OperationState) : Prop where
  sequences : events.map EventRow.sequence =
    (List.range events.length).map fun (i : Nat) => (i : Int) + 1
  first : ∃ event, events.head? = some event ∧ event.kind = .planned ∧ event.state = planned
  chained : HashChain.Linked (ledgerHash platform) none (events.map EventRow.link)
  steps : events.IsChain fun a b => b.state = a.state ∨ Allowed a.state b.state
  last : events.getLast?.map EventRow.state = some state
  details : ∀ event ∈ events, ∃ details, event.eventJson = canonicalJson platform details

/-- The last event of a well-formed ledger. -/
theorem LedgerWellFormed.concat {events : List EventRow} {state : OperationState}
    (h : LedgerWellFormed platform events state) :
    ∃ front last, events = front ++ [last] ∧ last.state = state ∧
      last.sequence = (front.length : Int) + 1 := by
  rcases List.eq_nil_or_concat events with rfl | ⟨front, last, rfl⟩
  · cases h.last
  · rw [List.concat_eq_append] at h ⊢
    refine ⟨front, last, rfl, by simpa using h.last, ?_⟩
    have hsequences := h.sequences
    rw [List.length_append, List.length_singleton, List.range_succ, List.map_append,
      List.map_append] at hsequences
    simpa using (List.append_inj' hsequences rfl).2

/-- A ledger of one first event is well formed. -/
theorem ledger_well_formed_first {event : EventRow} (hkind : event.kind = .planned)
    (hstate : event.state = planned) (hlink : nextLink none = .ok (event.sequence, event.prevHash))
    (hhash : event.hash = eventHash platform event.hashInput)
    (hdetails : ∃ details, event.eventJson = canonicalJson platform details) :
    LedgerWellFormed platform [event] planned := by
  simp only [nextLink, Except.ok.injEq, Prod.mk.injEq] at hlink
  refine ⟨by simp [← hlink.1], ⟨event, rfl, hkind, hstate⟩, ⟨hlink.2.symm, hhash, trivial⟩, by simp,
    by simp [hstate], ?_⟩
  intro e he
  obtain rfl := List.mem_singleton.mp he
  exact hdetails

/-- A well-formed ledger stays well formed when an event that is linked to its tail follows the
lifecycle. -/
theorem LedgerWellFormed.extend {events : List EventRow} {state : OperationState}
    {event : EventRow} (h : LedgerWellFormed platform events state)
    (hlink : nextLink events.getLast? = .ok (event.sequence, event.prevHash))
    (hhash : event.hash = eventHash platform event.hashInput)
    (hdetails : ∃ details, event.eventJson = canonicalJson platform details)
    (hstep : event.state = state ∨ Allowed state event.state) :
    LedgerWellFormed platform (events ++ [event]) event.state := by
  obtain ⟨front, last, rfl, rfl, hsequence⟩ := h.concat
  have hnext : last.sequence + 1 = event.sequence ∧ some last.hash = event.prevHash := by
    simp only [List.getLast?_concat, nextLink] at hlink
    split at hlink
    · simpa using hlink
    · cases hlink
  refine ⟨?_, ?_, ?_, ?_, by simp, ?_⟩
  · rw [List.map_append, h.sequences, @List.length_append _ _ [event], List.length_singleton,
      List.range_succ, List.map_append]
    simp [← hnext.1, hsequence]
  · obtain ⟨first, hfirst, hkind, hstate⟩ := h.first
    exact ⟨first, by rw [List.head?_append, hfirst]; rfl, hkind, hstate⟩
  · rw [List.map_append]
    refine HashChain.linked_concat h.chained ?_ hhash
    rw [List.map_append, List.map_singleton, HashChain.tailHash_concat]
    exact hnext.2.symm
  · refine List.isChain_append.mpr ⟨h.steps, by simp, ?_⟩
    intro a ha b hb
    simp only [List.getLast?_concat, Option.mem_some_iff] at ha
    simp only [List.head?_cons, Option.mem_some_iff] at hb
    subst ha hb
    exact hstep
  · intro e he
    rcases List.mem_append.mp he with hold | hnew
    · exact h.details e hold
    · obtain rfl := List.mem_singleton.mp hnew
      exact hdetails

/-! ## Reachable ledgers -/

/-- Every operation loads and its ledger is well formed and ends in the operation's state. -/
def Recorded (platform : Platform) (s : Store) : Prop :=
  ∀ row ∈ s.operations, (∃ record, rowToOperation platform row = .ok record) ∧
    LedgerWellFormed platform (s.eventsOf row.id) row.state

/-- A step keeps the operation loadable and its ledger well formed. -/
theorem recorded_step {row row' : OperationRow}
    (h : LedgerWellFormed platform (s.eventsOf row.id) row.state)
    (hstep : RowStep platform s s' row row') :
    LedgerWellFormed platform (s'.eventsOf row'.id) row'.state := by
  cases hstep with
  | kept hevents => exact hevents ▸ h
  | reowned runtimeId now hlive hevents =>
      change LedgerWellFormed platform (s'.eventsOf row.id) row.state
      exact hevents ▸ h
  | progressed event hkind hstate hextends =>
      rw [hextends.eventsOf, ← hstate]
      exact h.extend hextends.link hextends.hash hextends.details (.inl hstate)
  | advanced target now event hallowed hstart hkind hstate hextends =>
      change LedgerWellFormed platform (s'.eventsOf row.id) target
      rw [hextends.eventsOf, ← hstate]
      exact h.extend hextends.link hextends.hash hextends.details (.inr (hstate ▸ hallowed))

/-- A step keeps the columns that decide whether the operation loads. -/
theorem loads_step {row row' : OperationRow} {record : OperationRecord}
    (h : rowToOperation platform row = .ok record) (hstep : RowStep platform s s' row row') :
    ∃ record', rowToOperation platform row' = .ok record' := by
  cases hstep <;> refine row_to_operation_congr ?_ ?_ ?_ ?_ ?_ h <;> rfl

/-- Every change keeps the ledgers well formed. -/
theorem recorded_change (s s' : Store) (hs : Sound s ∧ Recorded platform s)
    (h : Change platform s s') : Sound s' ∧ Recorded platform s' := by
  obtain ⟨hsound, hrecorded⟩ := hs
  refine ⟨sound_change s s' hsound h, fun row' hrow' => ?_⟩
  rcases change_row h hrow' with hnew | ⟨row, hrow, hstep⟩
  · obtain ⟨event, hkind, hstate, hevents, hextends⟩ := hnew.first_event hsound
    refine ⟨hnew.loads, ?_⟩
    rw [hevents, hnew.state]
    have hlink := hextends.link
    rw [Store.tail, hsound.events_of_fresh hnew.fresh] at hlink
    exact ledger_well_formed_first hkind hstate hlink hextends.hash hextends.details
  · obtain ⟨⟨record, hload⟩, hledger⟩ := hrecorded row hrow
    exact ⟨loads_step hload hstep, recorded_step hledger hstep⟩

/-- Every reachable ledger is well formed. -/
theorem reached_recorded (platform : Platform) (calls : List Call) :
    Recorded platform (reached platform calls) :=
  (reached_invariant (P := fun s => Sound s ∧ Recorded platform s)
    ⟨sound_empty, fun _ h => (Table.not_mem_empty h).elim⟩ recorded_change calls).2

/-! ## Verification -/

/-- The loaded event comes from the row. -/
def Loads (platform : Platform) (row : EventRow) (event : OperationEventRecord) : Prop :=
  rowToEvent platform row = .ok event

/-- What a loaded event shows of its row. -/
theorem Loads.fields {row : EventRow} {event : OperationEventRecord} (h : Loads platform row event) :
    event.sequence = row.sequence ∧ event.kind = row.kind ∧ event.state = row.state ∧
      event.prevHash = row.prevHash ∧ event.hash = row.hash ∧
      event.hashInput platform = row.hashInput := by
  obtain ⟨hparse, hevent⟩ := row_to_event_ok.mp h
  have hjson := canonical_json_of_parse hparse
  rw [hevent]
  refine ⟨rfl, rfl, rfl, rfl, rfl, ?_⟩
  simp only [OperationEventRecord.hashInput, EventRow.hashInput, hjson]

/-- The ledger passes the check from position `index` on, after an event whose hash is
`previousHash`. -/
structure Verified (platform : Platform) (index : Nat) (previousHash : Option String)
    (events : List EventRow) : Prop where
  sequences : events.map EventRow.sequence =
    (List.range events.length).map fun (i : Nat) => (index : Int) + i + 1
  first : index = 0 → ∀ event, events.head? = some event →
    event.kind = .planned ∧ event.state = planned
  chained : HashChain.Linked (ledgerHash platform) previousHash (events.map EventRow.link)

/-- The check of one event and of the rest. -/
theorem verified_cons {index : Nat} {previousHash : Option String} {event : EventRow}
    {rest : List EventRow} :
    Verified platform index previousHash (event :: rest) ↔
      event.sequence = (index : Int) + 1 ∧ event.prevHash = previousHash ∧
      (index = 0 → event.kind = .planned ∧ event.state = planned) ∧
      eventHash platform event.hashInput = event.hash ∧
      Verified platform (index + 1) (some event.hash) rest := by
  constructor
  · rintro ⟨hsequences, hfirst, hprev, hhash, hrest⟩
    rw [List.length_cons, List.range_succ_eq_map, List.map_cons, List.map_cons,
      List.map_map] at hsequences
    obtain ⟨hhead, htail⟩ := List.cons.inj hsequences
    refine ⟨by simpa using hhead, hprev, fun hindex => hfirst hindex event rfl, hhash.symm,
      ⟨?_, by simp, hrest⟩⟩
    rw [htail]
    exact List.map_congr_left fun i _ => by simp; omega
  · rintro ⟨hhead, hprev, hfirst, hhash, hrest⟩
    refine ⟨?_, fun hindex e he => ?_, hprev, hhash.symm, hrest.chained⟩
    · rw [List.length_cons, List.range_succ_eq_map, List.map_cons, List.map_cons, List.map_map,
        hrest.sequences, hhead]
      refine congrArg₂ _ (by simp) (List.map_congr_left fun i _ => by simp; omega)
    · cases he
      exact hfirst hindex

/-- The executable check decides `Verified`, by induction on the loaded events. -/
theorem verify_events_iff {rows : List EventRow} {events : List OperationEventRecord}
    (hload : List.Forall₂ (Loads platform) rows events) (index : Nat)
    (previousHash : Option String) :
    verifyEvents platform index previousHash events = true ↔
      Verified platform index previousHash rows := by
  induction hload generalizing index previousHash with
  | nil => exact iff_of_true rfl ⟨rfl, by simp, trivial⟩
  | @cons row event rows events hrow _ ih =>
      obtain ⟨hsequence, hkind, hstate, hprev, hhash, hinput⟩ := hrow.fields
      rw [verified_cons, verifyEvents, hsequence, hkind, hstate, hprev, hhash, hinput,
        ← ih]
      by_cases hlink : row.sequence = (index : Int) + 1 ∧ row.prevHash = previousHash ∧
          (index = 0 → row.kind = .planned ∧ row.state = planned)
      · obtain ⟨h1, h2, h3⟩ := hlink
        rw [if_neg]
        · by_cases hsame : eventHash platform row.hashInput = row.hash
          · simp only [hsame, ne_eq, not_true_eq_false, if_false, h1, h2, true_and]
            exact (and_iff_right h3).symm
          · simp [hsame]
        · rintro (hne | hne | ⟨hzero, hne⟩)
          · exact hne h1
          · exact hne h2
          · obtain ⟨h3k, h3s⟩ := h3 hzero
            exact hne.elim (absurd h3k) (absurd h3s)
      · rw [if_pos]
        · exact iff_of_false (by simp) fun h => hlink ⟨h.1, h.2.1, h.2.2.1⟩
        · by_contra hall
          simp only [not_or, not_not, not_and] at hall
          exact hlink ⟨hall.1, hall.2.1, hall.2.2⟩

/-- Loading an operation finds its row. -/
theorem get_ok {operationId : Uuid} {record : OperationRecord} :
    get platform s operationId = .ok record ↔
      ∃ row ∈ s.operations, row.id = operationId ∧ rowToOperation platform row = .ok record := by
  unfold get
  cases hfind : s.operations.find? operationId with
  | none =>
      refine iff_of_false (by simp) ?_
      rintro ⟨row, hrow, hid, -⟩
      exact Table.find?_eq_none.mp hfind row hrow hid
  | some row =>
      obtain ⟨hrow, hid⟩ := Table.find?_eq_some.mp hfind
      constructor
      · exact fun h => ⟨row, hrow, hid, h⟩
      · rintro ⟨row', hrow', hid', h⟩
        obtain rfl := Table.eq_of_key_eq hrow' hrow (hid'.trans hid.symm)
        exact h

/-- The last loaded event is in the state of the last row. -/
theorem loads_last_state {rows : List EventRow} {events : List OperationEventRecord}
    (hload : List.Forall₂ (Loads platform) rows events) :
    events.getLast?.map OperationEventRecord.state = rows.getLast?.map EventRow.state := by
  have hstates : events.map OperationEventRecord.state = rows.map EventRow.state := by
    induction hload with
    | nil => rfl
    | cons hrow _ ih =>
        rw [List.map_cons, List.map_cons, ih, hrow.fields.2.2.1]
  rw [← List.getLast?_map, ← List.getLast?_map, hstates]

/-- The check of one operation passes exactly when its row and its events load, its ledger is
verified and ends in the row's state. -/
theorem verify_event_chain_iff {operationId : Uuid} :
    verifyEventChain platform s operationId = .ok true ↔
      ∃ row ∈ s.operations, row.id = operationId ∧
        (∃ record, rowToOperation platform row = .ok record) ∧
        (∃ events, List.Forall₂ (Loads platform) (s.eventsOf operationId) events) ∧
        Verified platform 0 none (s.eventsOf operationId) ∧
        (s.eventsOf operationId).getLast?.map EventRow.state = some row.state := by
  have hcheck : ∀ {row : OperationRow} {record : OperationRecord}
      {loaded : List OperationEventRecord},
      rowToOperation platform row = .ok record →
      List.Forall₂ (Loads platform) (s.eventsOf operationId) loaded →
      ((if loaded.isEmpty then .ok false
        else if verifyEvents platform 0 none loaded then
          .ok (loaded.getLast?.any fun event => event.state = record.state)
        else .ok false : Except AppError Bool) = .ok true ↔
        Verified platform 0 none (s.eventsOf operationId) ∧
          (s.eventsOf operationId).getLast?.map EventRow.state = some row.state) := by
    intro row record loaded hrecord hload
    have hstate : record.state = row.state := by rw [(row_to_operation_ok.mp hrecord).1]
    rw [← verify_events_iff hload 0 none, ← loads_last_state hload, ← hstate]
    rcases List.eq_nil_or_concat loaded with rfl | ⟨front, last, rfl⟩
    · simp
    · rw [List.concat_eq_append]
      by_cases hverify : verifyEvents platform 0 none (front ++ [last]) = true <;> simp [hverify]
  simp only [verifyEventChain, except_bind_ok, get_ok, events, except_map_m_ok]
  constructor
  · rintro ⟨record, ⟨row, hrow, hid, hrecord⟩, loaded, hload, h⟩
    exact ⟨row, hrow, hid, ⟨record, hrecord⟩, ⟨loaded, hload⟩, (hcheck hrecord hload).mp h⟩
  · rintro ⟨row, hrow, hid, ⟨record, hrecord⟩, ⟨loaded, hload⟩, h⟩
    exact ⟨record, ⟨row, hrow, hid, hrecord⟩, loaded, hload, (hcheck hrecord hload).mpr h⟩

/-- A well-formed ledger is verified. -/
theorem LedgerWellFormed.verified {events : List EventRow} {state : OperationState}
    (h : LedgerWellFormed platform events state) : Verified platform 0 none events := by
  refine ⟨by simpa using h.sequences, fun _ event hevent => ?_, h.chained⟩
  obtain ⟨first, hfirst, hkind, hstate⟩ := h.first
  obtain rfl : first = event := Option.some.inj (hfirst.symm.trans hevent)
  exact ⟨hkind, hstate⟩

/-- The texts of the details of some events. -/
def detailTexts (events : List EventRow) : Set String :=
  {text | ∃ event ∈ events, event.eventJson = text}

/-- Events whose texts are read back load. -/
theorem events_load {rows : List EventRow} (h : platform.Rereads (detailTexts rows)) :
    ∃ events, List.Forall₂ (Loads platform) rows events := by
  induction rows with
  | nil => exact ⟨[], .nil⟩
  | cons row rest ih =>
      obtain ⟨events, hevents⟩ := ih fun text ⟨event, hevent, htext⟩ =>
        h text ⟨event, List.mem_cons_of_mem _ hevent, htext⟩
      obtain ⟨details, hread, hcanonical⟩ := h row.eventJson ⟨row, by simp, rfl⟩
      have hparse : parseCanonicalJson platform row.eventJson = .ok details := by
        simp [parseCanonicalJson, readJson, hread, canonicalJson, CanonicalJson.fromValue,
          hcanonical, bind, Except.bind]
      have hload : Loads platform row { row with details } := row_to_event_ok.mpr ⟨hparse, rfl⟩
      exact ⟨_, .cons hload hevents⟩

/-! ## Tamper evidence -/

/-- The hashed document of an event has its members in key order. -/
theorem canonical_hash_input (input : EventHashInput) :
    (input.toJson platform).canonicalValue = input.toJson platform := by
  have hsorted : (input.toJson platform).canonicalValue =
      .obj (Json.sortFields [("createdAt", .str (platform.rfc3339 input.createdAt)),
        ("eventId", .str input.eventId.text), ("eventJson", .str input.eventJson),
        ("eventKind", .str (eventKindStr input.kind)),
        ("operationId", .str input.operationId.text), ("prevHash", optionalText input.prevHash),
        ("sequence", .int input.sequence), ("state", .str (stateStr input.state))]) := by
    cases hprev : input.prevHash <;>
      simp [EventHashInput.toJson, Json.canonicalValue, Json.canonicalFields, optionalText, hprev]
  rw [hsorted, Json.sort_fields_of_keys]
  · rfl
  · simp only [List.map_cons, List.map_nil]
    decide

/-- The hashed document determines the fields of the event. -/
theorem hash_input_inj {input input' : EventHashInput} {instants : Set DateTime}
    (hstamps : platform.StampsApart instants) (hat : input.createdAt ∈ instants)
    (hat' : input'.createdAt ∈ instants)
    (h : input.toJson platform = input'.toJson platform) : input = input' := by
  obtain ⟨⟨eventId⟩, ⟨operationId⟩, sequence, kind, state, eventJson, createdAt, prevHash⟩ := input
  obtain ⟨⟨eventId'⟩, ⟨operationId'⟩, sequence', kind', state', eventJson', createdAt',
    prevHash'⟩ := input'
  simp only [EventHashInput.toJson, Json.obj.injEq, List.cons.injEq, Prod.mk.injEq, Json.str.injEq,
    Json.int.injEq, true_and, and_true] at h
  obtain ⟨hcreated, rfl, rfl, hkind, rfl, hprev, rfl, hstate⟩ := h
  obtain rfl : createdAt = createdAt' := hstamps hat hat' hcreated
  obtain rfl := event_kind_str_inj hkind
  obtain rfl := state_str_inj hstate
  obtain rfl : prevHash = prevHash' := by
    cases prevHash <;> cases prevHash' <;> simp_all [optionalText]
  rfl

/-- The hashed documents of some events. -/
def hashDocuments (platform : Platform) (events : List EventRow) : Set Json :=
  {v | ∃ event ∈ events, event.hashInput.toJson platform = v}

/-- The hashed texts of some events. -/
def hashTexts (platform : Platform) (events : List EventRow) : Set String :=
  {text | ∃ event ∈ events, eventText platform event.hashInput = text}

/-- The instants of some events. -/
def instants (events : List EventRow) : Set DateTime :=
  {at_ | ∃ event ∈ events, event.createdAt = at_}

/-- On these events SHA-256 has no collision, `serde_json` reads the hashed documents back and the
time stamps are told apart. -/
structure HashesApart (platform : Platform) (events : List EventRow) : Prop where
  collisionFree : platform.CollisionFree (hashTexts platform events)
  readsBack : platform.ReadsBack (hashDocuments platform events)
  stampsApart : platform.StampsApart (instants events)

/-- Events of one hash are the same event. -/
theorem event_hash_inj {events : List EventRow} (happart : HashesApart platform events)
    {event event' : EventRow} (hevent : event ∈ events) (hevent' : event' ∈ events)
    (h : eventHash platform event.hashInput = eventHash platform event'.hashInput) :
    event.hashInput = event'.hashInput := by
  have htext : eventText platform event.hashInput = eventText platform event'.hashInput :=
    happart.collisionFree ⟨event, hevent, rfl⟩ ⟨event', hevent', rfl⟩ (lower_hex_inj h)
  have hdoc := happart.readsBack.canonical_inj ⟨event, hevent, rfl⟩ ⟨event', hevent', rfl⟩ htext
  rw [canonical_hash_input, canonical_hash_input] at hdoc
  exact hash_input_inj happart.stampsApart ⟨event, hevent, rfl⟩ ⟨event', hevent', rfl⟩ hdoc

/-- A row is determined by its hashed fields and its hash. -/
theorem event_row_ext {row row' : EventRow} (hinput : row.hashInput = row'.hashInput)
    (hhash : row.hash = row'.hash) : row = row' := by
  cases row
  cases row'
  simp only [EventRow.hashInput, EventHashInput.mk.injEq] at hinput
  simp_all

/-- Intact ledgers of one tail hash are the same ledger. -/
theorem ledger_determined {rows rows' : List EventRow} (happart : HashesApart platform (rows ++ rows'))
    (h : HashChain.Linked (ledgerHash platform) none (rows.map EventRow.link))
    (h' : HashChain.Linked (ledgerHash platform) none (rows'.map EventRow.link))
    (htail : rows.getLast?.map EventRow.hash = rows'.getLast?.map EventRow.hash) :
    rows = rows' := by
  have hfree : HashChain.CollisionFree (ledgerHash platform)
      (fun row row' : EventRow => row.hashInput = row'.hashInput)
      (rows.map EventRow.link) (rows'.map EventRow.link) := by
    intro link hlink link' hlink' hhash
    obtain ⟨row, hrow, rfl⟩ := List.mem_map.mp hlink
    obtain ⟨row', hrow', rfl⟩ := List.mem_map.mp hlink'
    have hinput : row.hashInput = row'.hashInput :=
      event_hash_inj happart (List.mem_append_left _ hrow) (List.mem_append_right _ hrow') hhash
    exact ⟨congrArg EventHashInput.prevHash hinput, hinput⟩
  have htail' : HashChain.tailHash none (rows.map EventRow.link) =
      HashChain.tailHash none (rows'.map EventRow.link) := by
    rw [HashChain.tailHash_none, HashChain.tailHash_none, List.getLast?_map, List.getLast?_map,
      Option.map_map, Option.map_map]
    exact htail
  have hagree := HashChain.tail_determines hfree h h' htail'
  rw [List.forall₂_map_left_iff, List.forall₂_map_right_iff] at hagree
  refine List.forall₂_eq_eq_eq ▸ hagree.imp fun row row' hsame => ?_
  exact event_row_ext hsame.body hsame.hash

/-- Every reachable ledger is well formed and passes its check, and an altered ledger that keeps
the honest tail hash and passes the check is the honest ledger. -/
theorem event_ledger_tamper_evident (platform : Platform) (calls : List Call) :
    (∀ row ∈ (reached platform calls).operations,
      LedgerWellFormed platform ((reached platform calls).eventsOf row.id) row.state) ∧
    (∀ row ∈ (reached platform calls).operations,
      platform.Rereads (detailTexts ((reached platform calls).eventsOf row.id)) →
      verifyEventChain platform (reached platform calls) row.id = .ok true) ∧
    (∀ (operationId : Uuid) (altered : Store),
      HashesApart platform
        (altered.eventsOf operationId ++ (reached platform calls).eventsOf operationId) →
      (altered.tail operationId).map EventRow.hash =
        ((reached platform calls).tail operationId).map EventRow.hash →
      verifyEventChain platform altered operationId = .ok true →
      altered.eventsOf operationId = (reached platform calls).eventsOf operationId ∧
      events platform altered operationId = events platform (reached platform calls) operationId) := by
  have hrecorded := reached_recorded platform calls
  refine ⟨fun row hrow => (hrecorded row hrow).2, fun row hrow hreads => ?_,
    fun operationId altered happart htail hverify => ?_⟩
  · obtain ⟨hloads, hledger⟩ := hrecorded row hrow
    exact verify_event_chain_iff.mpr
      ⟨row, hrow, rfl, hloads, events_load hreads, hledger.verified, hledger.last⟩
  · obtain ⟨-, -, -, -, -, hverified, -⟩ := verify_event_chain_iff.mp hverify
    have hlinked : HashChain.Linked (ledgerHash platform) none
        (((reached platform calls).eventsOf operationId).map EventRow.link) := by
      -- an operation that is unknown has no events
      by_cases hrow : ∃ row ∈ (reached platform calls).operations, row.id = operationId
      · obtain ⟨row, hrow, rfl⟩ := hrow
        exact (hrecorded row hrow).2.chained
      · rw [(reached_sound platform calls).events_of_fresh fun row hmem hid =>
          hrow ⟨row, hmem, hid⟩]
        trivial
    have hsame := ledger_determined happart hverified.chained hlinked htail
    exact ⟨hsame, by rw [events, events, hsame]⟩

/-- The store of the planned write with another account in its row. -/
def alteredStore : Store :=
  (reached Reference.platform plannedCalls).modifyOperation samplePlan.id
    (fun row => { row with accountScope := "other" }) fun _ => rfl

/-- The events of the planned write. -/
def plannedEvents : List EventRow :=
  (reached Reference.platform plannedCalls).eventsOf samplePlan.id

/-- The events of the altered store are those of the planned write. -/
theorem altered_events : alteredStore.eventsOf samplePlan.id = plannedEvents := by
  rw [alteredStore, plannedEvents, Store.eventsOf, Store.eventsOf, Store.modifyOperation]

/-- The planned write is in its store. -/
theorem sample_planned :
    ((reached Reference.platform plannedCalls).operations.find? samplePlan.id).isSome = true := by
  decide +kernel

/-- The texts of the planned write's events are read back. -/
theorem sample_rereads : Reference.platform.Rereads (detailTexts plannedEvents) := by
  have hread : plannedEvents.all (fun event => (Reference.platform.jsonRead event.eventJson).any
      fun v => Reference.platform.jsonText v.canonicalValue = event.eventJson) = true := by
    decide +kernel
  rintro text ⟨event, hevent, rfl⟩
  obtain ⟨v, hv, htext⟩ := Option.any_eq_true _ _ |>.mp (List.all_eq_true.mp hread event hevent)
  exact ⟨v, hv, of_decide_eq_true htext⟩

/-- The events of the planned write have different hashes and times and are read back. -/
theorem sample_hashes_apart : HashesApart Reference.platform (plannedEvents ++ plannedEvents) := by
  have hhashes : (plannedEvents.map fun event =>
      Reference.platform.sha256 (eventText Reference.platform event.hashInput)).Nodup := by
    decide +kernel
  have htimes : (plannedEvents.map fun event =>
      Reference.platform.rfc3339 event.createdAt).Nodup := by
    decide +kernel
  have hread : ∀ event ∈ plannedEvents, Reference.platform.jsonRead (Reference.platform.jsonText
      (event.hashInput.toJson Reference.platform).canonicalValue) =
        some (event.hashInput.toJson Reference.platform).canonicalValue := by
    decide +kernel
  have hmem : ∀ {event}, event ∈ plannedEvents ++ plannedEvents → event ∈ plannedEvents :=
    fun hevent => (List.mem_append.mp hevent).elim id id
  refine ⟨?_, ?_, ?_⟩
  · rintro _ ⟨event, hevent, rfl⟩ _ ⟨event', hevent', rfl⟩ h
    rw [List.inj_on_of_nodup_map hhashes (hmem hevent) (hmem hevent') h]
  · rintro _ ⟨event, hevent, rfl⟩
    exact hread event (hmem hevent)
  · rintro _ ⟨event, hevent, rfl⟩ _ ⟨event', hevent', rfl⟩ h
    rw [List.inj_on_of_nodup_map htimes (hmem hevent) (hmem hevent') h]

/-- The altered store passes the check when the store of the planned write does. -/
theorem altered_verified
    (h : verifyEventChain Reference.platform (reached Reference.platform plannedCalls)
      samplePlan.id = .ok true) :
    verifyEventChain Reference.platform alteredStore samplePlan.id = .ok true := by
  obtain ⟨row, hrow, hid, ⟨record, hload⟩, hevents, hverified, hlast⟩ :=
    verify_event_chain_iff.mp h
  have hmem : ({ row with accountScope := "other" } : OperationRow) ∈ alteredStore.operations :=
    mem_modify_operation.mpr ⟨row, hrow, (if_pos hid).symm⟩
  have hloads : ∃ record', rowToOperation Reference.platform { row with accountScope := "other" } =
      .ok record' := by
    refine row_to_operation_congr ?_ ?_ ?_ ?_ ?_ hload <;> rfl
  rw [← plannedEvents, ← altered_events] at hevents hverified hlast
  exact verify_event_chain_iff.mpr ⟨_, hmem, hid, hloads, hevents, hverified, hlast⟩

/-- The ledger of the planned write passes its check, and the altered store, which passes it with
the same tail hash, has the same events. -/
theorem sample_ledger_tamper_evident :
    verifyEventChain Reference.platform (reached Reference.platform plannedCalls) samplePlan.id =
      .ok true ∧
    events Reference.platform alteredStore samplePlan.id =
      events Reference.platform (reached Reference.platform plannedCalls) samplePlan.id := by
  obtain ⟨-, hverified, hsame⟩ := event_ledger_tamper_evident Reference.platform plannedCalls
  obtain ⟨row, hfind⟩ := Option.isSome_iff_exists.mp sample_planned
  obtain ⟨hrow, hid⟩ := Table.find?_eq_some.mp hfind
  have hid : row.id = samplePlan.id := hid
  have hhonest := hverified row hrow
  rw [hid] at hhonest
  have hverify := hhonest sample_rereads
  refine ⟨hverify, (hsame samplePlan.id alteredStore ?_ ?_ (altered_verified hverify)).2⟩
  · rw [altered_events]
    exact sample_hashes_apart
  · rw [Store.tail, Store.tail, altered_events, plannedEvents]

end Dopedb.Operations
