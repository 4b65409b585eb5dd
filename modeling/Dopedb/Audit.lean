import Dopedb.Library.Framing
import Dopedb.Library.HashChain
import Dopedb.Library.Runs
import Dopedb.Library.Table
import Dopedb.Library.Transaction
import Dopedb.Model
import Dopedb.Reference

/-!
# The audit log

`audit/chain.rs` and the recording and verifying halves of `audit/mod.rs`. Each connection has a
hash chain of rows and an anchor with the chain's length and last hash. `recorded_verified` says
that an honest log verifies. `audit_alteration_detected_iff` says exactly which alterations of an
anchored chain are detected: all but the exchange of an absent value with an empty one.
-/

namespace Dopedb.Audit

open Library
open Library.Tx (read write update)

/-! ## Hashing -/

/-- The audited fields of one entry. -/
structure AuditFields where
  connectionId : Uuid
  ts : DateTime
  engine : Engine
  agentPrompt : Option String
  sql : String
  kind : QueryKind
  action : String
  approvedBy : Option String
  affectedEstimate : Option Int
  error : Option String
  deriving DecidableEq

section
variable (platform : Platform)

/-- The fields in the order in which they are written. -/
def AuditFields.texts (fields : AuditFields) : List String :=
  [fields.connectionId.text, platform.toRfc3339 fields.ts, engineStr fields.engine,
    fields.agentPrompt.getD "", fields.sql, kindStr fields.kind, fields.action,
    fields.approvedBy.getD "", (fields.affectedEstimate.map Int.repr).getD "",
    fields.error.getD ""]

/-- Serialize the audited fields, each with its length. -/
def canonical (fields : AuditFields) : String := frames (fields.texts platform)

/-- The text that is hashed: the previous hash, a record separator and the row. -/
def chainText (prevHash : Option String) (fields : AuditFields) : String :=
  prevHash.getD "" ++ "\x1e" ++ canonical platform fields

/-- The hash of a row after its predecessor's hash. -/
def computeHash (prevHash : Option String) (fields : AuditFields) : String :=
  lowerHex (platform.sha256 (chainText platform prevHash fields))

end

/-! ## The log -/

/-- One row of `audit_log`. -/
structure AuditRow extends AuditFields where
  id : Uuid
  prevHash : Option String
  hash : String
  deriving DecidableEq

/-- One row of `audit_chain_anchors`. -/
structure AnchorRow where
  connectionId : Uuid
  entryCount : Int
  tailHash : String
  deriving DecidableEq

/-- The two tables of the audit log. The rows stand in the order of their row ids. -/
structure AuditLog where
  rows : Table AuditRow.id
  anchors : Table AnchorRow.connectionId

/-- The log before the first entry. -/
def AuditLog.empty : AuditLog := ⟨.empty, .empty⟩

/-- The rows of one connection. -/
def AuditLog.chain (log : AuditLog) (connectionId : Uuid) : List AuditRow :=
  log.rows.rows.filter fun row => row.connectionId = connectionId

/-- The semantic fields of one audit record. -/
structure RecordArgs where
  connectionId : Uuid
  engine : Engine
  agentPrompt : Option String
  sql : String
  kind : QueryKind
  action : String
  approvedBy : Option String
  affectedEstimate : Option Int
  error : Option String

/-- The audited fields of a record at an instant. -/
def RecordArgs.fields (args : RecordArgs) (ts : DateTime) : AuditFields :=
  { args with ts }

/-- `INSERT INTO audit_log`. -/
def AuditLog.insertRow (row : AuditRow) (log : AuditLog) : Option AuditLog :=
  (log.rows.insert row).map fun rows => { log with rows }

/-- An anchor moved past one more row. -/
def AnchorRow.advance (hash : String) (anchor : AnchorRow) : AnchorRow :=
  { anchor with entryCount := anchor.entryCount + 1, tailHash := hash }

/-- Advance the anchor of a connection past a new row. -/
def AuditLog.advanceAnchor (connectionId : Uuid) (hash : String) (log : AuditLog) : AuditLog :=
  { log with
    anchors := log.anchors.upsert ⟨connectionId, 1, hash⟩ (AnchorRow.advance hash) fun _ => rfl }

/-- A failed audit statement. -/
inductive AuditError where
  | db (message : String)

section
variable (platform : Platform)

/-- Append one entry to its connection's chain and advance the chain's anchor. -/
def record (args : RecordArgs) (id : Uuid) (ts : DateTime) :
    Tx AuditError AuditLog (Except AuditError AuditRow) := do
  let log ← read
  let prevHash := (log.chain args.connectionId).getLast?.map AuditRow.hash
  let fields := args.fields ts
  let hash := computeHash platform prevHash fields
  let row : AuditRow := { fields with id, prevHash, hash }
  write (AuditLog.insertRow row) (.db "audit id is not unique")
  update (AuditLog.advanceAnchor args.connectionId hash)
  pure (.ok row)

/-- One call of `record` with its fresh id and its reading of the clock. -/
structure RecordCall where
  args : RecordArgs
  id : Uuid
  ts : DateTime

/-- The log after one call. -/
def execRecord (log : AuditLog) (call : RecordCall) : AuditLog :=
  (Tx.commit (record platform call.args call.id call.ts) log).2

/-- The log after a list of calls. -/
def recorded (calls : List RecordCall) : AuditLog := run (execRecord platform) AuditLog.empty calls

end

/-! ## Verification -/

/-- How a chain compares with its anchor. -/
inductive AuditAnchorStatus where
  | matched | missing | shorter | longer | tailMismatch
  deriving DecidableEq, Repr

/-- Compare a chain's length and last hash with its anchor. -/
def anchorStatus (anchor : Option AnchorRow) (entryCount : Int) (tailHash : Option String) :
    AuditAnchorStatus :=
  match anchor with
  -- without an anchor only an empty chain matches
  | none => if entryCount = 0 then .matched else .missing
  | some anchor =>
    if entryCount < anchor.entryCount then .shorter
    else if entryCount > anchor.entryCount then .longer
    else if tailHash ≠ some anchor.tailHash then .tailMismatch
    else .matched

/-- The result of verifying one chain. -/
structure AuditVerification where
  ok : Bool
  firstBadIndex : Option Int
  firstBadId : Option Uuid
  entryCount : Int
  tailHash : Option String
  anchorStatus : AuditAnchorStatus
  anchoredCount : Option Int

/-- The state of the scan over a chain. -/
structure Scan where
  expectedPrev : Option String
  firstBadIndex : Option Int
  firstBadId : Option Uuid
  entryCount : Int
  tailHash : Option String

/-- The scan before the first row. -/
def Scan.start : Scan := ⟨none, none, none, 0, none⟩

section
variable (platform : Platform)

/-- Check one row against the running tail and its own hash. -/
def Scan.step (scan : Scan) (row : AuditRow) : Scan :=
  let linkMatches := row.prevHash == scan.expectedPrev
  let hashMatches := computeHash platform row.prevHash row.toAuditFields == row.hash
  let bad := scan.firstBadIndex.isNone && (!linkMatches || !hashMatches)
  -- behind a bad row the scan goes on from the hash that the row states
  { expectedPrev := some row.hash
    firstBadIndex := if bad then some scan.entryCount else scan.firstBadIndex
    firstBadId := if bad then some row.id else scan.firstBadId
    entryCount := scan.entryCount + 1
    tailHash := some row.hash }

/-- Recompute the chain of a connection and compare it with its anchor. -/
def verifyChain (log : AuditLog) (connectionId : Uuid) : AuditVerification :=
  let anchor := log.anchors.find? connectionId
  let scan := (log.chain connectionId).foldl (Scan.step platform) Scan.start
  let status := anchorStatus anchor scan.entryCount scan.tailHash
  { ok := scan.firstBadIndex.isNone && status = .matched
    firstBadIndex := scan.firstBadIndex
    firstBadId := scan.firstBadId
    entryCount := scan.entryCount
    tailHash := scan.tailHash
    anchorStatus := status
    anchoredCount := anchor.map AnchorRow.entryCount }

end

/-! ## What the scan computes -/

variable {platform : Platform}

/-- An entry as a link of its chain. -/
def AuditRow.link (row : AuditRow) : Link AuditFields String :=
  ⟨row.toAuditFields, row.prevHash, row.hash⟩

/-- The chain of some rows is intact after a row whose hash is `prev`. -/
def Intact (platform : Platform) (prev : Option String) (rows : List AuditRow) : Prop :=
  HashChain.Linked (computeHash platform) prev (rows.map AuditRow.link)

/-- The first bad row stays the first bad row. -/
theorem scan_bad_stays {scan : Scan} (h : scan.firstBadIndex.isSome = true)
    (rows : List AuditRow) :
    (rows.foldl (Scan.step platform) scan).firstBadIndex.isSome = true := by
  induction rows generalizing scan with
  | nil => exact h
  | cons row rest ih =>
      refine ih ?_
      have hnone : scan.firstBadIndex.isNone = false := by simpa using h
      simp [Scan.step, hnone, h]

/-- The scan finds no bad row exactly when the chain is intact, by induction on the rows. -/
theorem scan_intact {scan : Scan} (h : scan.firstBadIndex = none) (rows : List AuditRow) :
    (rows.foldl (Scan.step platform) scan).firstBadIndex = none ↔
      Intact platform scan.expectedPrev rows := by
  induction rows generalizing scan with
  | nil => exact iff_of_true h trivial
  | cons row rest ih =>
      rw [List.foldl_cons]
      by_cases hgood : row.prevHash = scan.expectedPrev ∧
          computeHash platform row.prevHash row.toAuditFields = row.hash
      · have hstep : (scan.step platform row).firstBadIndex = none := by
          simp [Scan.step, h, hgood.1, ← hgood.2]
        rw [ih hstep]
        exact ⟨fun hrest => ⟨hgood.1, hgood.2.symm, hrest⟩, fun hall => hall.2.2⟩
      · have hstep : (scan.step platform row).firstBadIndex.isSome = true := by
          have hbad : (!(row.prevHash == scan.expectedPrev) ||
              !(computeHash platform row.prevHash row.toAuditFields == row.hash)) = true := by
            by_contra hnot
            simp only [Bool.or_eq_true, Bool.not_eq_true', beq_eq_false_iff_ne, not_or,
              ne_eq, not_not] at hnot
            exact hgood hnot
          simp [Scan.step, h, hbad]
        refine iff_of_false (fun hnone => ?_) fun hall => hgood ⟨hall.1, hall.2.1.symm⟩
        have hsome : (rest.foldl (Scan.step platform)
            (scan.step platform row)).firstBadIndex.isSome = true := scan_bad_stays hstep rest
        rw [hnone] at hsome
        cases hsome

/-- The scan counts the rows and keeps the last hash. -/
theorem scan_totals (scan : Scan) (rows : List AuditRow) :
    (rows.foldl (Scan.step platform) scan).entryCount = scan.entryCount + rows.length ∧
      (rows.foldl (Scan.step platform) scan).tailHash =
        (rows.getLast?.map AuditRow.hash).or scan.tailHash := by
  induction rows generalizing scan with
  | nil => simp
  | cons row rest ih =>
      obtain ⟨hcount, htail⟩ := ih (scan.step platform row)
      rw [List.foldl_cons, hcount, htail]
      refine ⟨by simp [Scan.step]; omega, ?_⟩
      rcases List.eq_nil_or_concat rest with rfl | ⟨front, last, rfl⟩
      · rfl
      · simp [List.getLast?_cons]

/-- A chain matches its anchor when both are missing, or when the anchor has its length and its
last hash. -/
theorem anchor_status_matched {anchor : Option AnchorRow} {entryCount : Int}
    {tailHash : Option String} :
    anchorStatus anchor entryCount tailHash = .matched ↔
      (anchor = none ∧ entryCount = 0) ∨ ∃ row, anchor = some row ∧
        entryCount = row.entryCount ∧ tailHash = some row.tailHash := by
  cases anchor with
  | none => by_cases hzero : entryCount = 0 <;> simp [anchorStatus, hzero]
  | some row =>
      rcases lt_trichotomy entryCount row.entryCount with hlt | heq | hgt
      · simp [anchorStatus, hlt, hlt.ne]
      · by_cases htail : tailHash = some row.tailHash <;> simp [anchorStatus, heq, htail]
      · simp [anchorStatus, hgt, hgt.ne', not_lt.mpr hgt.le]

/-- The length and the last hash of a chain. -/
def tailOf (rows : List AuditRow) : Option (Int × String) :=
  rows.getLast?.map fun last => ((rows.length : Int), last.hash)

/-- The length and the hash an anchor records. -/
def AnchorRow.recorded (anchor : AnchorRow) : Int × String := (anchor.entryCount, anchor.tailHash)

/-- Verification succeeds exactly on an intact chain that its anchor describes. -/
theorem verify_chain_ok {log : AuditLog} {connectionId : Uuid} :
    (verifyChain platform log connectionId).ok = true ↔
      Intact platform none (log.chain connectionId) ∧
        (log.anchors.find? connectionId).map AnchorRow.recorded =
          tailOf (log.chain connectionId) := by
  have htotals := @scan_totals platform Scan.start (log.chain connectionId)
  simp only [verifyChain, Bool.and_eq_true, Option.isNone_iff_eq_none, decide_eq_true_eq,
    scan_intact (show Scan.start.firstBadIndex = none from rfl), htotals.1, htotals.2,
    anchor_status_matched]
  refine and_congr_right fun _ => ?_
  rcases List.eq_nil_or_concat (log.chain connectionId) with hnil | ⟨front, last, hconcat⟩
  · cases hanchor : log.anchors.find? connectionId <;>
      simp [hnil, tailOf, Scan.start]
  · rw [List.concat_eq_append] at hconcat
    cases hanchor : log.anchors.find? connectionId with
    | none => simp [hconcat, tailOf, Scan.start]; omega
    | some anchor =>
        simp [hconcat, tailOf, Scan.start, AnchorRow.recorded, eq_comm]

/-! ## Honest logs -/

/-- What a completed `record` did: it added one linked row to its connection's chain and moved the
chain's anchor to it. -/
theorem record_ok {args : RecordArgs} {id : Uuid} {ts : DateTime} {log : AuditLog}
    {r : Except AuditError AuditRow × AuditLog}
    (h : record platform args id ts log = .ok r) :
    ∃ row : AuditRow, row.connectionId = args.connectionId ∧
      row.prevHash = (log.chain args.connectionId).getLast?.map AuditRow.hash ∧
      row.hash = computeHash platform row.prevHash row.toAuditFields ∧
      r.2.rows.rows = log.rows.rows ++ [row] ∧
      r.2.anchors = (log.advanceAnchor args.connectionId row.hash).anchors := by
  simp only [record, Tx.read_bind_ok, Tx.write_bind_ok, Tx.update_bind_ok, Tx.pure_ok] at h
  obtain ⟨log', hinsert, rfl⟩ := h
  obtain ⟨rows, htable, rfl⟩ := Option.map_eq_some_iff.mp hinsert
  exact ⟨_, rfl, rfl, rfl, (Table.insert_eq_some htable).1, rfl⟩

/-- The anchor of the recorded connection counts one more row and has the new hash. -/
theorem advance_anchor_self (log : AuditLog) (connectionId : Uuid) (hash : String) :
    ((log.advanceAnchor connectionId hash).anchors.find? connectionId).map AnchorRow.recorded =
      some (((log.anchors.find? connectionId).map AnchorRow.entryCount).getD 0 + 1, hash) := by
  have hself : (log.advanceAnchor connectionId hash).anchors.find? connectionId =
      some (((log.anchors.find? connectionId).map (AnchorRow.advance hash)).getD
        ⟨connectionId, 1, hash⟩) := Table.find?_upsert_self
  rw [hself]
  cases log.anchors.find? connectionId <;> rfl

/-- The anchors of other connections stay as they were. -/
theorem advance_anchor_of_ne {log : AuditLog} {connectionId other : Uuid} {hash : String}
    (hne : connectionId ≠ other) :
    (log.advanceAnchor connectionId hash).anchors.find? other = log.anchors.find? other :=
  Table.find?_upsert_of_ne hne

/-- An anchor that describes a chain counts its rows. -/
theorem anchored_count {anchor : Option AnchorRow} {rows : List AuditRow}
    (h : anchor.map AnchorRow.recorded = tailOf rows) :
    (anchor.map AnchorRow.entryCount).getD 0 = rows.length := by
  rcases List.eq_nil_or_concat rows with rfl | ⟨front, last, rfl⟩
  · cases anchor with
    | none => rfl
    | some anchor => simp [tailOf] at h
  · cases anchor with
    | none => simp [tailOf] at h
    | some anchor =>
        simp only [tailOf, AnchorRow.recorded, List.concat_eq_append, List.getLast?_concat,
          Option.map_some, Option.some.injEq, Prod.mk.injEq] at h
        rw [List.concat_eq_append, Option.map_some, Option.getD_some, h.1]

/-- Every chain is intact and described by its anchor. -/
def Anchored (platform : Platform) (log : AuditLog) : Prop :=
  ∀ connectionId, Intact platform none (log.chain connectionId) ∧
    (log.anchors.find? connectionId).map AnchorRow.recorded = tailOf (log.chain connectionId)

/-- Recording keeps every chain intact and anchored. -/
theorem anchored_record {args : RecordArgs} {id : Uuid} {ts : DateTime} {log : AuditLog}
    {r : Except AuditError AuditRow × AuditLog} (hlog : Anchored platform log)
    (h : record platform args id ts log = .ok r) : Anchored platform r.2 := by
  obtain ⟨row, hconnection, hprev, hhash, hrows, hanchors⟩ := record_ok h
  intro connectionId
  obtain ⟨hintact, hanchor⟩ := hlog connectionId
  rw [hanchors]
  by_cases hsame : args.connectionId = connectionId
  · subst hsame
    have hchain : r.2.chain args.connectionId = log.chain args.connectionId ++ [row] := by
      simp [AuditLog.chain, hrows, hconnection]
    rw [hchain]
    constructor
    · rw [Intact, List.map_append]
      refine HashChain.linked_concat hintact ?_ hhash
      rw [HashChain.tailHash_none, List.getLast?_map, Option.map_map]
      exact hprev
    · rw [advance_anchor_self, anchored_count hanchor]
      simp [tailOf]
  · have hchain : r.2.chain connectionId = log.chain connectionId := by
      simp [AuditLog.chain, hrows, hconnection, hsame]
    rw [hchain, advance_anchor_of_ne hsame]
    exact ⟨hintact, hanchor⟩

/-- Every recorded log is intact and anchored. -/
theorem recorded_anchored (platform : Platform) (calls : List RecordCall) :
    Anchored platform (recorded platform calls) := by
  refine run_invariant (fun connectionId => ⟨trivial, rfl⟩) (fun log call hlog => ?_) calls
  rw [execRecord]
  rcases Tx.commit_cases (record platform call.args call.id call.ts) log with
    ⟨e, -, hcommit⟩ | ⟨a, log', hrecord, hcommit⟩
  · rw [hcommit]
    exact hlog
  · rw [hcommit]
    exact anchored_record hlog hrecord

/-! ## Altered logs -/

/-- The fields with every absent text read as the empty text. -/
def AuditFields.blanked (fields : AuditFields) : AuditFields :=
  { fields with
    agentPrompt := some (fields.agentPrompt.getD "")
    approvedBy := some (fields.approvedBy.getD "")
    error := some (fields.error.getD "") }

/-- The audited fields and the hashes of a row, with every absent text read as the empty text. -/
def AuditRow.storedBlanked (row : AuditRow) : AuditFields × Option String × String :=
  (row.toAuditFields.blanked, row.prevHash, row.hash)

/-- The altered rows differ from the honest ones only where an absent text became an empty one or
the other way round. -/
def OnlyBlanksExchanged (altered honest : List AuditRow) : Prop :=
  altered.map AuditRow.storedBlanked = honest.map AuditRow.storedBlanked ∧
    altered.map AuditRow.toAuditFields ≠ honest.map AuditRow.toAuditFields

/-- The serialization does not see the difference between an absent and an empty text. -/
theorem canonical_blanked (platform : Platform) (fields : AuditFields) :
    canonical platform fields.blanked = canonical platform fields := rfl

/-- An optional number is determined by its text. -/
theorem estimate_text_inj {estimate estimate' : Option Int}
    (h : (estimate.map Int.repr).getD "" = (estimate'.map Int.repr).getD "") :
    estimate = estimate' := by
  cases estimate with
  | none =>
      cases estimate' with
      | none => rfl
      | some n => exact absurd h.symm (int_repr_ne_empty n)
  | some n =>
      cases estimate' with
      | none => exact absurd h (int_repr_ne_empty n)
      | some n' => rw [int_repr_inj h]

/-- Apart from that the serialization determines the fields. -/
theorem canonical_inj {fields fields' : AuditFields} {instants : Set DateTime}
    (hstamps : platform.DefaultStampsApart instants) (hat : fields.ts ∈ instants)
    (hat' : fields'.ts ∈ instants) (h : canonical platform fields = canonical platform fields') :
    fields.blanked = fields'.blanked := by
  have htexts := frames_inj h
  simp only [AuditFields.texts, List.cons.injEq, and_true] at htexts
  obtain ⟨hconnection, hts, hengine, hprompt, hsql, hkind, haction, happroved, hestimate, herror⟩ :=
    htexts
  have hconnection' : fields.connectionId = fields'.connectionId := by
    cases hid : fields.connectionId
    cases hid' : fields'.connectionId
    simp_all
  simp only [AuditFields.blanked, AuditFields.mk.injEq]
  exact ⟨hconnection', hstamps hat hat' hts, engine_str_inj hengine, by rw [hprompt], hsql,
    kind_str_inj hkind, haction, by rw [happroved], estimate_text_inj hestimate, by rw [herror]⟩

/-- An optional text is absent in one of the rows and there in the other. -/
def AuditFields.PresenceDiffers (fields fields' : AuditFields) : Prop :=
  fields.agentPrompt.isSome ≠ fields'.agentPrompt.isSome ∨
    fields.approvedBy.isSome ≠ fields'.approvedBy.isSome ∨
    fields.error.isSome ≠ fields'.error.isSome

/-- An optional text is determined by its blanked text and by whether it is there. -/
theorem text_of_blanked {text text' : Option String}
    (hblanked : some (text.getD "") = some (text'.getD ""))
    (hpresence : text.isSome = text'.isSome) : text = text' := by
  cases text with
  | none =>
      cases text' with
      | none => rfl
      | some value' => cases hpresence
  | some value =>
      cases text' with
      | none => cases hpresence
      | some value' => exact hblanked

/-- Rows with the same blanked fields and the same texts there are equal. -/
theorem eq_of_blanked {fields fields' : AuditFields} (hblanked : fields.blanked = fields'.blanked)
    (hpresence : ¬fields.PresenceDiffers fields') : fields = fields' := by
  simp only [AuditFields.PresenceDiffers, not_or, ne_eq, not_not] at hpresence
  obtain ⟨hprompt, happroved, herror⟩ := hpresence
  cases fields
  cases fields'
  simp only [AuditFields.blanked, AuditFields.mk.injEq] at hblanked ⊢
  obtain ⟨hconnection, hts, hengine, hprompt', hsql, hkind, haction, happroved', hestimate,
    herror'⟩ := hblanked
  exact ⟨hconnection, hts, hengine, text_of_blanked hprompt' hprompt, hsql, hkind, haction,
    text_of_blanked happroved' happroved, hestimate, text_of_blanked herror' herror⟩

/-- The serialization tells two rows apart exactly when they do not only exchange absent and empty
texts. -/
theorem canonical_injective_iff (platform : Platform) (fields fields' : AuditFields)
    (hstamps : platform.DefaultStampsApart {fields.ts, fields'.ts}) :
    (canonical platform fields = canonical platform fields' → fields = fields') ↔
      ¬(fields.blanked = fields'.blanked ∧ fields.PresenceDiffers fields') := by
  constructor
  · rintro hinjective ⟨hblanked, hpresence⟩
    have hcanonical : canonical platform fields = canonical platform fields' := by
      rw [← canonical_blanked platform fields, hblanked, canonical_blanked]
    rw [hinjective hcanonical] at hpresence
    simp [AuditFields.PresenceDiffers] at hpresence
  · intro hcondition hcanonical
    have hblanked := canonical_inj hstamps (.inl rfl) (.inr rfl) hcanonical
    exact eq_of_blanked hblanked fun hpresence => hcondition ⟨hblanked, hpresence⟩

/-- The fields of an executed read with an error text or without one. -/
def readFields (error : Option String) : AuditFields where
  connectionId := ⟨"00000000-0000-4000-8000-000000000003"⟩
  ts := 1709210096120000000
  engine := .postgres
  agentPrompt := none
  sql := "SELECT 1"
  kind := .read
  action := "execute"
  approvedBy := none
  affectedEstimate := some 1
  error := error

/-- An absent and a given error are told apart. -/
theorem given_error_serialized :
    readFields none ≠ readFields (some "timeout") ∧
      (canonical Reference.platform (readFields none) =
          canonical Reference.platform (readFields (some "timeout")) →
        readFields none = readFields (some "timeout")) := by
  refine ⟨?_, (canonical_injective_iff Reference.platform _ _ ?_).mpr ?_⟩
  · intro heq
    have herror := congrArg AuditFields.error heq
    simp [readFields] at herror
  · rintro _ (rfl | rfl) _ (rfl | rfl) _
    all_goals rfl
  · rintro ⟨hblanked, _⟩
    have herror := congrArg AuditFields.error hblanked
    simp [AuditFields.blanked, readFields] at herror

/-- An absent and an empty error are serialized alike. -/
theorem empty_error_serialized_as_absent :
    ¬∀ (platform : Platform) (fields fields' : AuditFields),
      canonical platform fields = canonical platform fields' → fields = fields' := by
  intro hinjective
  have hsame := hinjective Reference.platform (readFields none) (readFields (some "")) rfl
  cases hsame

/-- The hash does not see the difference between an absent and an empty text. -/
theorem compute_hash_blanked {fields fields' : AuditFields} (prevHash : Option String)
    (h : fields.blanked = fields'.blanked) :
    computeHash platform prevHash fields = computeHash platform prevHash fields' := by
  rw [computeHash, computeHash, chainText, chainText, ← canonical_blanked platform fields, h,
    canonical_blanked]

/-- A previous hash is absent or the text of a digest. -/
def IsHash (prevHash : Option String) : Prop :=
  prevHash = none ∨ ∃ digest, prevHash = some (lowerHex digest)

/-- In an intact chain every previous hash is absent or the text of a digest. -/
theorem is_hash_of_intact {prev : Option String} {rows : List AuditRow} (hprev : IsHash prev)
    (h : Intact platform prev rows) : ∀ row ∈ rows, IsHash row.prevHash := by
  induction rows generalizing prev with
  | nil => simp
  | cons first rest ih =>
      obtain ⟨hlink, hhash, hrest⟩ := h
      have hnext : IsHash (some first.hash) := .inr ⟨_, congrArg some hhash⟩
      intro row hrow
      rcases List.mem_cons.mp hrow with rfl | hmem
      · exact (show row.prevHash = prev from hlink) ▸ hprev
      · exact ih hnext hrest row hmem

/-- Hashes are separated from the row that follows them. -/
theorem separator_not_mem {prevHash : Option String} (h : IsHash prevHash) :
    '\x1e' ∉ (prevHash.getD "").toList := by
  rcases h with rfl | ⟨digest, rfl⟩
  · simp
  · exact fun hmem => absurd (mem_lower_hex hmem) (by decide)

/-- The hashed text determines the previous hash and the serialized row. -/
theorem chain_text_inj {prevHash prevHash' : Option String} {fields fields' : AuditFields}
    (hprev : IsHash prevHash) (hprev' : IsHash prevHash')
    (h : chainText platform prevHash fields = chainText platform prevHash' fields') :
    prevHash = prevHash' ∧ canonical platform fields = canonical platform fields' := by
  have hchars : (prevHash.getD "").toList ++ '\x1e' :: (canonical platform fields).toList =
      (prevHash'.getD "").toList ++ '\x1e' :: (canonical platform fields').toList := by
    simpa [chainText] using congrArg String.toList h
  obtain ⟨hfront, hrow⟩ := prefix_eq_of_separator hchars (separator_not_mem hprev)
    (separator_not_mem hprev')
  refine ⟨?_, String.toList_inj.mp hrow⟩
  have htext : prevHash.getD "" = prevHash'.getD "" := String.toList_inj.mp hfront
  rcases hprev with rfl | ⟨digest, rfl⟩ <;> rcases hprev' with rfl | ⟨digest', rfl⟩
  · rfl
  · exact absurd htext.symm (lower_hex_ne_empty digest')
  · exact absurd htext (lower_hex_ne_empty digest)
  · exact congrArg some htext

/-- SHA-256 has no collision on the texts of these rows, and their time stamps are told apart. -/
structure HashesApart (platform : Platform) (rows : List AuditRow) : Prop where
  collisionFree : platform.CollisionFree
    {text | ∃ row ∈ rows, chainText platform row.prevHash row.toAuditFields = text}
  stampsApart : platform.DefaultStampsApart {ts | ∃ row ∈ rows, row.ts = ts}

/-- Intact chains of one tail hash store the same, up to absent and empty texts. -/
theorem stored_blanked_determined {rows rows' : List AuditRow}
    (happart : HashesApart platform (rows ++ rows')) (h : Intact platform none rows)
    (h' : Intact platform none rows')
    (htail : rows.getLast?.map AuditRow.hash = rows'.getLast?.map AuditRow.hash) :
    rows.map AuditRow.storedBlanked = rows'.map AuditRow.storedBlanked := by
  have hfree : HashChain.CollisionFree (computeHash platform)
      (fun fields fields' => fields.blanked = fields'.blanked)
      (rows.map AuditRow.link) (rows'.map AuditRow.link) := by
    intro link hlink link' hlink' hhash
    obtain ⟨row, hrow, rfl⟩ := List.mem_map.mp hlink
    obtain ⟨row', hrow', rfl⟩ := List.mem_map.mp hlink'
    have hmem : row ∈ rows ++ rows' := List.mem_append_left _ hrow
    have hmem' : row' ∈ rows ++ rows' := List.mem_append_right _ hrow'
    have htext := happart.collisionFree ⟨row, hmem, rfl⟩ ⟨row', hmem', rfl⟩ (lower_hex_inj hhash)
    obtain ⟨hprev, hcanonical⟩ := chain_text_inj (is_hash_of_intact (.inl rfl) h row hrow)
      (is_hash_of_intact (.inl rfl) h' row' hrow') htext
    exact ⟨hprev, canonical_inj happart.stampsApart ⟨row, hmem, rfl⟩ ⟨row', hmem', rfl⟩ hcanonical⟩
  have htail' : HashChain.tailHash none (rows.map AuditRow.link) =
      HashChain.tailHash none (rows'.map AuditRow.link) := by
    rw [HashChain.tailHash_none, HashChain.tailHash_none, List.getLast?_map, List.getLast?_map,
      Option.map_map, Option.map_map]
    exact htail
  have hagree := HashChain.tail_determines hfree h h' htail'
  rw [List.forall₂_map_left_iff, List.forall₂_map_right_iff] at hagree
  refine List.forall₂_eq_eq_eq ▸ ?_
  rw [List.forall₂_map_left_iff, List.forall₂_map_right_iff]
  exact hagree.imp fun row row' hsame =>
    Prod.ext hsame.body (Prod.ext hsame.prev hsame.hash)

/-- A chain that stores the same up to absent and empty texts is intact too. -/
theorem intact_of_stored_blanked {prev : Option String} {rows rows' : List AuditRow}
    (h : rows.map AuditRow.storedBlanked = rows'.map AuditRow.storedBlanked)
    (h' : Intact platform prev rows') : Intact platform prev rows := by
  induction rows' generalizing rows prev with
  | nil =>
      rw [List.map_nil, List.map_eq_nil_iff] at h
      subst h
      trivial
  | cons row' rest' ih =>
      obtain ⟨row, rest, rfl, hrow, hrest⟩ := List.map_eq_cons_iff.mp h
      obtain ⟨hlink, hhash, hintact⟩ := h'
      simp only [AuditRow.storedBlanked, Prod.mk.injEq] at hrow
      obtain ⟨hblanked, hprev, hsame⟩ := hrow
      refine ⟨hprev.trans hlink, ?_, ?_⟩
      · change row.hash = computeHash platform row.prevHash row.toAuditFields
        rw [hsame, hprev, compute_hash_blanked _ hblanked]
        exact hhash
      · change Intact platform (some row.hash) rest
        rw [hsame]
        exact ih hrest hintact

/-- A chain that stores the same up to absent and empty texts has the same length and tail. -/
theorem tail_of_stored_blanked {rows rows' : List AuditRow}
    (h : rows.map AuditRow.storedBlanked = rows'.map AuditRow.storedBlanked) :
    tailOf rows = tailOf rows' := by
  have hhashes : rows.map AuditRow.hash = rows'.map AuditRow.hash := by
    simpa [List.map_map, Function.comp_def, AuditRow.storedBlanked] using
      congrArg (List.map fun stored => stored.2.2) h
  have hlength : rows.length = rows'.length := by simpa using congrArg List.length h
  have hlast : rows.getLast?.map AuditRow.hash = rows'.getLast?.map AuditRow.hash := by
    rw [← List.getLast?_map, ← List.getLast?_map, hhashes]
  simpa [tailOf, Option.map_map, Function.comp_def, hlength] using
    congrArg (Option.map fun hash => ((rows'.length : Int), hash)) hlast

/-- Every recorded chain verifies and matches its anchor. An alteration that leaves the anchor as
it was is detected exactly when it does more than exchange absent and empty texts. -/
theorem audit_alteration_detected_iff (platform : Platform) (calls : List RecordCall)
    (connectionId : Uuid) :
    ((verifyChain platform (recorded platform calls) connectionId).ok = true ∧
      (verifyChain platform (recorded platform calls) connectionId).anchorStatus = .matched) ∧
    ∀ altered : AuditLog,
      altered.anchors.find? connectionId =
        (recorded platform calls).anchors.find? connectionId →
      HashesApart platform
        (altered.chain connectionId ++ (recorded platform calls).chain connectionId) →
      (((verifyChain platform altered connectionId).ok = true →
          (altered.chain connectionId).map AuditRow.toAuditFields =
            ((recorded platform calls).chain connectionId).map AuditRow.toAuditFields) ↔
        ¬ OnlyBlanksExchanged (altered.chain connectionId)
          ((recorded platform calls).chain connectionId)) := by
  obtain ⟨hintact, hanchor⟩ := recorded_anchored platform calls connectionId
  have hok := verify_chain_ok.mpr ⟨hintact, hanchor⟩
  refine ⟨⟨hok, ?_⟩, fun altered hsame happart => ?_⟩
  · simp only [verifyChain, Bool.and_eq_true, decide_eq_true_eq] at hok
    exact hok.2
  · rw [verify_chain_ok, hsame, hanchor]
    constructor
    · rintro hdetects ⟨hblanked, hdiffers⟩
      exact hdiffers (hdetects ⟨intact_of_stored_blanked hblanked hintact,
        (tail_of_stored_blanked hblanked).symm⟩)
    · rintro hnot ⟨haltered, htail⟩
      by_contra hdiffers
      refine hnot ⟨stored_blanked_determined happart haltered hintact ?_, hdiffers⟩
      simpa [tailOf, Option.map_map, Function.comp_def] using
        congrArg (Option.map Prod.snd) htail.symm

/-- The connection of the sample log. -/
def sampleConnection : Uuid := ⟨"00000000-0000-4000-8000-000000000003"⟩

/-- One executed read without an error. -/
def sampleCalls : List RecordCall :=
  [{ args :=
      { connectionId := sampleConnection
        engine := .postgres
        agentPrompt := none
        sql := "SELECT 1"
        kind := .read
        action := "execute"
        approvedBy := none
        affectedEstimate := some 1
        error := none }
     id := ⟨"00000000-0000-4000-8000-000000000021"⟩
     ts := 1709210096120000000 }]

/-- The sample log with the absent error replaced by an empty one. -/
def alteredLog : AuditLog :=
  { recorded Reference.platform sampleCalls with
    rows := (recorded Reference.platform sampleCalls).rows.modify
      ⟨"00000000-0000-4000-8000-000000000021"⟩ (fun row => { row with error := some "" })
      fun _ => rfl }

/-- The rows of the altered and of the sample log. -/
def sampleRows : List AuditRow :=
  alteredLog.chain sampleConnection ++
    (recorded Reference.platform sampleCalls).chain sampleConnection

set_option maxRecDepth 100000 in
/-- The altered log exchanges only an absent text. -/
theorem sample_only_blanks : OnlyBlanksExchanged (alteredLog.chain sampleConnection)
    ((recorded Reference.platform sampleCalls).chain sampleConnection) := by
  constructor <;> decide

/-- The rows of the altered and of the sample log have one text and one time stamp. -/
theorem sample_rows_apart : HashesApart Reference.platform sampleRows := by
  have hsame : ∀ row ∈ sampleRows, ∀ row' ∈ sampleRows,
      chainText Reference.platform row.prevHash row.toAuditFields =
        chainText Reference.platform row'.prevHash row'.toAuditFields ∧ row.ts = row'.ts := by
    decide
  constructor
  · rintro _ ⟨row, hrow, rfl⟩ _ ⟨row', hrow', rfl⟩ -
    exact (hsame row hrow row' hrow').1
  · rintro _ ⟨row, hrow, rfl⟩ _ ⟨row', hrow', rfl⟩ -
    exact (hsame row hrow row' hrow').2

/-- The sample log verifies, and its alteration is not detected. -/
theorem sample_alteration_missed :
    (verifyChain Reference.platform (recorded Reference.platform sampleCalls)
      sampleConnection).ok = true ∧
    ¬ ((verifyChain Reference.platform alteredLog sampleConnection).ok = true →
      (alteredLog.chain sampleConnection).map AuditRow.toAuditFields =
        ((recorded Reference.platform sampleCalls).chain sampleConnection).map
          AuditRow.toAuditFields) := by
  obtain ⟨⟨hok, -⟩, hdetected⟩ :=
    audit_alteration_detected_iff Reference.platform sampleCalls sampleConnection
  rw [hdetected alteredLog rfl sample_rows_apart, not_not]
  exact ⟨hok, sample_only_blanks⟩

set_option maxRecDepth 100000 in
/-- An absent error replaced by an empty one leaves the anchor and the verdict as they were. -/
theorem absent_error_replaced_undetected :
    alteredLog.anchors.find? sampleConnection =
      (recorded Reference.platform sampleCalls).anchors.find? sampleConnection ∧
    (verifyChain Reference.platform alteredLog sampleConnection).ok = true ∧
    (alteredLog.chain sampleConnection).map AuditRow.toAuditFields ≠
      ((recorded Reference.platform sampleCalls).chain sampleConnection).map
        AuditRow.toAuditFields := by
  refine ⟨?_, ?_, ?_⟩ <;> decide

end Dopedb.Audit
