import Dopedb.Cloud.ConnectionHistory
import Dopedb.Cloud.StoredTemplates

/-!
# What an event changes about the history of connections

`HistoryView` is the part of the tables that the history is about, and `HistoryChange` lists its
small changes, each with what its batch had checked. Read `history_step_changes` first: every event
is a sequence of them. They are stated for a condition on switches, which the readers of the history
choose.
-/

namespace Dopedb.Cloud

open Library ProviderStore HistoryStore

/-- Connections, versions, conflicts, resolutions, and the rows that requests have read. -/
structure HistoryView where
  connections : List WorkspaceConnection
  versions : List ResourceVersion
  conflicts : List ResourceConflict
  resolutions : List ConflictResolution
  reads : List WorkspaceConnection

/-- The view of a store. -/
def HistoryStore.view (store : HistoryStore) : HistoryView where
  connections := store.tables.connections
  versions := store.tables.versions
  conflicts := store.tables.conflicts
  resolutions := store.tables.resolutions
  reads := store.reads

/-- The version is on the main branch of a connection at a revision. -/
def ResourceVersion.IsMain (version : ResourceVersion) (connectionId : String) (revision : Nat) :
    Prop :=
  version.resourceId = connectionId ∧ version.branch = .main ∧ version.revision = revision

/-- A template that a request was parsed to, in the mode that it is stored under. -/
def ParsedTemplate (credentialMode : CredentialMode) (input : SharedConnectionInput) : Prop :=
  (∃ body, parseSharedConnection body credentialMode = .ok input) ∨
    (credentialMode = .memberLocal ∧ ∃ body, parseDirectTemplate body = .ok input)

/-- A template as a payload of a live connection. -/
def livePayload (input : SharedConnectionInput) : ConnectionVersionPayload where
  toSharedConnectionInput := input
  deleted := false

/-- A new row, with a template that was parsed. -/
structure CreatedFrom (row : WorkspaceConnection) (input : SharedConnectionInput) : Prop where
  columns : row = { createdRow row.id row.contentRevision input with
    credentialMode := row.credentialMode
    providerIntegrationId := row.providerIntegrationId
    providerResource := row.providerResource
    providerResourceId := row.providerResourceId }
  parsed : ParsedTemplate row.credentialMode input
  managed : row.credentialMode = .managed → row.engine = .postgres ∨ row.engine = .mysql

/-- What a switch had checked of the connection that it moves. -/
structure MovedFrom (row : WorkspaceConnection) (input : ConnectionSwitch) : Prop where
  name : input.source "connectionName" = some row.name
  readonlyDefault : boolAt input.plan ["source", "readonlyDefault"] = some row.readonlyDefault
  allowWrites : boolAt input.plan ["source", "allowWrites"] = some row.allowWrites
  schemaGroup : row.schemaGroup = input.source "schemaGroup"
  contentRevision : input.contentRevision = row.contentRevision
  provider : row.provider = .neon
  managed : row.credentialMode = .managed
  live : row.deletedAt = none
  host : input.targetProjection.host = "neon.managed.invalid"
  port : input.targetProjection.port = 5432
  sslmode : input.targetProjection.sslmode = "verify-full"

/-- A version that joins the versions: its id is new, its hash is the one of its payload, its revision
is a safe integer, and on the main branch it is new. -/
structure FreshVersion (collation : Collation) (view : HistoryView) (version : ResourceVersion) :
    Prop where
  id : ∀ old ∈ view.versions, old.id ≠ version.id
  main : version.branch = .main → ∀ old ∈ view.versions,
    ¬ old.IsMain version.resourceId version.revision
  positive : version.branch = .main → 1 ≤ version.revision
  safe : version.revision ≤ MAX_SAFE_INTEGER
  hash : version.payloadHash = payloadHash collation version.payload

/-- The connection after a switch. -/
def movedRow (input : ConnectionSwitch) (snapshot : ConnectionSwitch.Snapshot)
    (row : WorkspaceConnection) : WorkspaceConnection :=
  { row with
    host := input.targetProjection.host
    port := input.targetProjection.port
    databaseName := input.targetProjection.database
    sslmode := input.targetProjection.sslmode
    environment := connectionEnvironmentLabel (input.target "environment")
    providerResourceId := some snapshot.targetId
    providerResource := some input.targetProjection.resource
    contentRevision := row.contentRevision + 1
    revocationPendingAt := none
    revocationClaimedAt := none
    revocationClaimId := none }

/-- How a live connection moves to its next row and payload: from the row that a request has read,
or by a switch. -/
inductive Advance (Meets : WorkspaceConnection → ConnectionSwitch → Prop)
    (reads : List WorkspaceConnection) (row : WorkspaceConnection) :
    (WorkspaceConnection → WorkspaceConnection) → ConnectionVersionPayload → Prop where
  | updated (existing : WorkspaceConnection) (body : List (String × Json))
      (input : SharedConnectionInput) (now : Nat) (hread : existing ∈ reads)
      (hid : row.id = existing.id) (hrevision : row.contentRevision = existing.contentRevision)
      (hpatch : patchTemplate existing body = .ok input) :
      Advance Meets reads row (mutatedRow now (.update (livePayload input) input))
        (livePayload input)
  | deleted (existing : WorkspaceConnection) (now : Nat) (hread : existing ∈ reads)
      (hid : row.id = existing.id) (hrevision : row.contentRevision = existing.contentRevision) :
      Advance Meets reads row
        (mutatedRow now (.delete (persistedConnectionVersionPayload existing true)))
        (persistedConnectionVersionPayload existing true)
  | switched (input : ConnectionSwitch) (snapshot : ConnectionSwitch.Snapshot)
      (hfrom : MovedFrom row input) (hmeets : Meets row input) :
      Advance Meets reads row (movedRow input snapshot) input.versionPayload

/-- What a candidate that was not applied says. -/
inductive CandidatePayload (reads : List WorkspaceConnection) : ConnectionVersionPayload → Prop where
  | updated (existing : WorkspaceConnection) (body : List (String × Json))
      (input : SharedConnectionInput) (hread : existing ∈ reads)
      (hpatch : patchTemplate existing body = .ok input) :
      CandidatePayload reads (livePayload input)
  | deleted (existing : WorkspaceConnection) (hread : existing ∈ reads) :
      CandidatePayload reads (persistedConnectionVersionPayload existing true)
  | restored (input : SharedConnectionInput) (hparsed : ParsedTemplate .memberLocal input) :
      CandidatePayload reads (livePayload input)

variable {collation : Collation} {Meets : WorkspaceConnection → ConnectionSwitch → Prop}

/-- The small changes of the view, where every switch meets a condition. -/
inductive HistoryChange (collation : Collation)
    (Meets : WorkspaceConnection → ConnectionSwitch → Prop) : HistoryView → HistoryView → Prop where
  | read (view : HistoryView) (row : WorkspaceConnection) (hrow : row ∈ view.connections)
      (hlive : row.deletedAt = none) :
      HistoryChange collation Meets view { view with reads := view.reads ++ [row] }
  | accessed (view : HistoryView) (id : String) (columns : ConnectionAccess) :
      HistoryChange collation Meets view { view with
        connections := view.connections.map fun row =>
          if row.id = id then columns.applied row else row }
  | created (view : HistoryView) (row : WorkspaceConnection) (version : ResourceVersion)
      (input : SharedConnectionInput) (hrow : ∀ old ∈ view.connections, old.id ≠ row.id)
      (hfrom : CreatedFrom row input) (hversion : FreshVersion collation view version)
      (hmain : version.IsMain row.id row.contentRevision)
      (hparent : version.parentVersionId = none) (hpayload : version.payload = livePayload input) :
      HistoryChange collation Meets view { view with
        connections := view.connections ++ [row]
        versions := view.versions ++ [version] }
  | advanced (view : HistoryView) (row : WorkspaceConnection) (parent version : ResourceVersion)
      (change : WorkspaceConnection → WorkspaceConnection) (hrow : row ∈ view.connections)
      (hlive : row.deletedAt = none) (hparent : parent ∈ view.versions)
      (hparentMain : parent.IsMain row.id row.contentRevision)
      (hversion : FreshVersion collation view version)
      (hmain : version.IsMain row.id (row.contentRevision + 1))
      (hparentId : version.parentVersionId = some parent.id)
      (hadvance : Advance Meets view.reads row change version.payload) :
      HistoryChange collation Meets view { view with
        connections := view.connections.map fun old => if old.id = row.id then change old else old
        versions := view.versions ++ [version] }
  | candidate (view : HistoryView) (version : ResourceVersion)
      (hversion : FreshVersion collation view version) (hbranch : version.branch = .conflict)
      (howner : ∃ row ∈ view.connections, row.id = version.resourceId)
      (hpayload : CandidatePayload view.reads version.payload) :
      HistoryChange collation Meets view { view with versions := view.versions ++ [version] }
  | conflicted (view : HistoryView) (conflict : ResourceConflict)
      (hconflict : ∀ old ∈ view.conflicts, old.id ≠ conflict.id)
      (hsafe : conflict.expectedRevision ≤ MAX_SAFE_INTEGER)
      (howner : ∃ row ∈ view.connections, row.id = conflict.resourceId)
      (hserver : ∃ version ∈ view.versions, version.id = conflict.serverVersionId ∧
        version.resourceId = conflict.resourceId)
      (hcandidate : ∃ version ∈ view.versions, version.id = conflict.candidateVersionId ∧
        version.resourceId = conflict.resourceId) :
      HistoryChange collation Meets view { view with conflicts := view.conflicts ++ [conflict] }
  | resolved (view : HistoryView) (resolution : ConflictResolution)
      (hfirst : ∀ old ∈ view.resolutions, old.conflictId ≠ resolution.conflictId) :
      HistoryChange collation Meets view
        { view with resolutions := view.resolutions ++ [resolution] }

/-- One small change. -/
theorem one_history_change {view after : HistoryView}
    (h : HistoryChange collation Meets view after) :
    Changes (HistoryChange collation Meets) view after :=
  Relation.ReflTransGen.single h

/-! ## Rows -/

/-- A connection that is found has the id and is in the table. -/
theorem found_connection {tables : ConnectionTables} {id : String} {row : WorkspaceConnection}
    (h : tables.findConnection id = some row) : row ∈ tables.connections ∧ row.id = id :=
  ⟨List.mem_of_find?_eq_some h, by simpa using List.find?_some h⟩

/-- No connection has an id under which none is found. -/
theorem not_found_connection {tables : ConnectionTables} {id : String}
    (h : ¬ (tables.findConnection id).isSome = true) : ∀ row ∈ tables.connections, row.id ≠ id := by
  intro row hrow hid
  rw [Bool.not_eq_true, Option.isSome_eq_false_iff, Option.isNone_iff_eq_none] at h
  have hnone := List.find?_eq_none.mp h row hrow
  simp [hid] at hnone

/-- The version that is found is on the main branch at the revision. -/
theorem found_main_version {tables : ConnectionTables} {id : String} {revision : Nat}
    {version : ResourceVersion} (h : tables.mainVersion id revision = some version) :
    version ∈ tables.versions ∧ version.IsMain id revision := by
  have hfound := List.find?_some h
  simp only [Bool.and_eq_true, decide_eq_true_eq] at hfound
  exact ⟨List.mem_of_find?_eq_some h, hfound.1.1, hfound.1.2, hfound.2⟩

/-- A version that is recorded joins the versions, and its id and revision are new. -/
theorem insert_version_spec {tables after : ConnectionTables} {version : ResourceVersion}
    (h : tables.insertVersion version = .ok after) :
    after = { tables with versions := tables.versions ++ [version] } ∧
      (∀ old ∈ tables.versions, old.id ≠ version.id) ∧
      (version.branch = .main → ∀ old ∈ tables.versions,
        ¬ old.IsMain version.resourceId version.revision) ∧
      (version.branch = .main → 1 ≤ version.revision) ∧
      version.revision ≤ MAX_SAFE_INTEGER := by
  unfold ConnectionTables.insertVersion at h
  split at h
  · cases h
  · next hnone =>
      cases h
      unfold ConnectionTables.versionViolation at hnone
      split at hnone
      · cases hnone
      · next hid =>
          split at hnone
          · cases hnone
          · next hmain =>
              split at hnone
              · cases hnone
              · next hrevision =>
                  split at hnone
                  · cases hnone
                  · refine ⟨rfl, ?_, ?_, ?_, ?_⟩
                    · intro old hold heq
                      exact hid (List.any_eq_true.mpr ⟨old, hold, by simpa using heq⟩)
                    · intro hbranch old hold hsame
                      refine hmain ?_
                      rw [Bool.and_eq_true]
                      refine ⟨by simpa using hbranch, List.any_eq_true.mpr ⟨old, hold, ?_⟩⟩
                      simp [hsame.1, hsame.2.1, hsame.2.2]
                    · intro hbranch
                      by_contra hzero
                      have hrev : version.revision = 0 := by omega
                      simp [hbranch, hrev] at hrevision
                    · rw [Bool.or_eq_true, not_or] at hrevision
                      simpa using hrevision.2

/-- A recorded version with the hash of its payload is a fresh one. -/
theorem fresh_version (store : HistoryStore) {tables after : ConnectionTables}
    {id connectionId : String} {revision baseRevision : Nat} {parentVersionId : Option String}
    {branch : VersionBranch} {operation : VersionOperation} {payload : ConnectionVersionPayload}
    (h : tables.insertVersion (hashedVersion collation id connectionId revision parentVersionId
      branch operation baseRevision payload) = .ok after)
    (hversions : tables.versions = store.tables.versions) :
    FreshVersion collation store.view (hashedVersion collation id connectionId revision
      parentVersionId branch operation baseRevision payload) := by
  obtain ⟨-, hid, hmain, hpositive, hsafe⟩ := insert_version_spec h
  rw [hversions] at hid hmain
  exact ⟨hid, hmain, hpositive, hsafe, rfl⟩

/-- A connection that is recorded joins the connections, and its id is new. -/
theorem insert_connection_spec {tables after : ConnectionTables} {row : WorkspaceConnection}
    (h : insertConnection tables row = .ok after) :
    after = { tables with connections := tables.connections ++ [row] } ∧
      ∀ old ∈ tables.connections, old.id ≠ row.id := by
  unfold insertConnection at h
  split at h
  · cases h
  · next hid =>
      split at h
      · cases h
      · cases h
        exact ⟨rfl, not_found_connection hid⟩

/-- A connection that is replaced is replaced in place. -/
theorem replace_connection_spec {tables after : ConnectionTables} {id : String}
    {change : WorkspaceConnection → WorkspaceConnection}
    (h : replaceConnection tables id change = .ok after) :
    after = tables.updateConnection id change := by
  unfold replaceConnection at h
  split at h
  · cases h
    rfl
  · cases h

/-- A conflict that is recorded joins the conflicts, and its id is new. -/
theorem insert_conflict_spec {tables after : ConnectionTables} {conflict : ResourceConflict}
    (h : insertConflict tables conflict = .ok after) :
    after = { tables with conflicts := tables.conflicts ++ [conflict] } ∧
      ∀ old ∈ tables.conflicts, old.id ≠ conflict.id := by
  unfold insertConflict at h
  split at h
  · cases h
  · next hid =>
      split at h
      · cases h
      · cases h
        refine ⟨rfl, ?_⟩
        intro old hold heq
        exact hid (List.any_eq_true.mpr ⟨old, hold, by simpa using heq⟩)

/-- A committed batch is a sequence of small changes when its matched run is. -/
theorem history_batch_changes {π : Type} {scope : HistoryStore → Option π}
    {statements : List (Statement String HistoryStore π)} {store : HistoryStore}
    (hgated : ∀ statement ∈ statements, Gated statement)
    (hmatched : ∀ payload after, scope store = some payload →
      runStatements statements (some payload) store = .ok after →
      Changes (HistoryChange collation Meets) store.view after.view) :
    Changes (HistoryChange collation Meets) store.view
      (committed store (runBatch scope statements store)).view := by
  obtain hkept | ⟨payload, hscope, hrun⟩ := batch_cases hgated store
  · rw [hkept]
  · exact hmatched payload _ hscope hrun

/-! ## Creation -/

/-- A connection with its first version joins the tables. -/
theorem first_version_change {store : HistoryStore} {tables after : ConnectionTables}
    {row : WorkspaceConnection} {input : SharedConnectionInput} {versionId : String}
    {members : List String} {operation : VersionOperation} {baseRevision : Nat}
    (hfrom : CreatedFrom row input) (hrow : insertConnection store.tables row = .ok tables)
    (hversion : (grantManage row.id members tables).insertVersion
      (hashedVersion collation versionId row.id row.contentRevision none .main operation
        baseRevision (livePayload input)) = .ok after) :
    HistoryChange collation Meets store.view (store.withTables after).view := by
  obtain ⟨rfl, hfresh⟩ := insert_connection_spec hrow
  have hversionFresh := fresh_version store hversion rfl
  obtain ⟨rfl, -⟩ := insert_version_spec hversion
  exact .created store.view row _ input hfresh hfrom hversionFresh ⟨rfl, rfl, rfl⟩ rfl rfl

/-- A request to create a connection creates at most this connection. -/
theorem post_changes (store : HistoryStore) (request : CreateRequest) :
    Changes (HistoryChange collation Meets) store.view
      (store.postConnection collation request).view := by
  unfold postConnection
  have hparsed : ∀ input, (if request.direct then parseDirectTemplate request.body
      else parseSharedConnection request.body .memberLocal) = .ok input →
      ParsedTemplate .memberLocal input := by
    intro input hinput
    split at hinput
    · exact .inr ⟨rfl, _, hinput⟩
    · exact .inl ⟨_, hinput⟩
  revert hparsed
  generalize (if request.direct then parseDirectTemplate request.body
    else parseSharedConnection request.body .memberLocal) = parsed
  intro hparsed
  cases parsed with
  | error message => exact Relation.ReflTransGen.refl
  | ok input =>
      refine history_batch_changes (by simp [Gated, createRows]) ?_
      intro members after _ hrun
      simp only [run_statements_cons, run_statements_nil, createRows, except_bind_ok, pure,
        Except.pure, Except.ok.injEq] at hrun
      obtain ⟨_, ⟨tables, hrow, versioned, hversion, rfl⟩, rfl⟩ := hrun
      have hfrom : CreatedFrom (createdRow request.connectionId 1 input) input :=
        ⟨rfl, hparsed input rfl, fun h => absurd h (by simp [createdRow])⟩
      exact one_history_change (first_version_change hfrom hrow hversion)

/-- An import creates at most this connection. -/
theorem import_changes (store : HistoryStore) (input : ProviderImport) :
    Changes (HistoryChange collation Meets) store.view
      (committed store (store.importProviderReceipt collation input)).view := by
  refine history_batch_changes (by simp [Gated, importRows]) ?_
  rintro ⟨resource, template⟩ after hscope hrun
  have hparsed : ParsedTemplate .managed template ∧
      (template.engine = .postgres ∨ template.engine = .mysql) := by
    unfold importScope at hscope
    split at hscope
    · split at hscope
      · cases hscope
      · next found hparse =>
          split at hscope
          · next hchecked =>
              cases hscope
              simp only [Bool.and_eq_true, Bool.or_eq_true, decide_eq_true_eq] at hchecked
              exact ⟨.inl ⟨_, hparse⟩, hchecked.1.2⟩
          · cases hscope
    · cases hscope
  simp only [run_statements_cons, run_statements_nil, importRows, except_bind_ok, pure,
    Except.pure, Except.ok.injEq] at hrun
  obtain ⟨_, ⟨tables, hrow, versioned, hversion, rfl⟩, rfl⟩ := hrun
  have hfrom : CreatedFrom (importedRow input resource template) template :=
    ⟨rfl, hparsed.1, fun _ => hparsed.2⟩
  exact one_history_change (first_version_change hfrom hrow hversion)

/-! ## Updates and deletions -/

/-- What a mutation's scope had checked. -/
theorem mutation_scope_spec {store : HistoryStore} {input : ConnectionMutation} {parentId : String}
    (h : mutationScope input store = some parentId) :
    ∃ row parent, row ∈ store.tables.connections ∧ row.id = input.connectionId ∧
      row.contentRevision = input.expectedContentRevision ∧ row.deletedAt = none ∧
      parent ∈ store.tables.versions ∧ parent.IsMain row.id row.contentRevision ∧
      parent.id = parentId := by
  unfold mutationScope at h
  split at h
  · cases h
  · next row hfind =>
      split at h
      · cases h
      · next parent hparent =>
          rw [Option.ite_none_right_eq_some] at h
          obtain ⟨hchecked, hparentId⟩ := h
          simp only [Bool.and_eq_true, decide_eq_true_eq, Option.isNone_iff_eq_none] at hchecked
          obtain ⟨hrow, hid⟩ := found_connection hfind
          obtain ⟨hmem, hmain⟩ := found_main_version hparent
          exact ⟨row, parent, hrow, hid, hchecked.1.1.1.1.1, hchecked.1.1.2, hmem, hmain,
            Option.some.inj hparentId⟩

/-- A mutation moves its connection to the next version. -/
theorem mutation_changes (store : HistoryStore) (input : ConnectionMutation)
    (hadvance : ∀ row ∈ store.tables.connections, row.id = input.connectionId →
      row.contentRevision = input.expectedContentRevision →
      Advance Meets store.reads row (mutatedRow store.now input.mutation)
        input.mutation.payload) :
    Changes (HistoryChange collation Meets) store.view
      (committed store (store.commitConnectionMutation collation input)).view := by
  refine history_batch_changes (by simp [Gated, mutateRows]) ?_
  intro parentId after hscope hrun
  obtain ⟨row, parent, hrow, hid, hrevision, hlive, hparent, hparentMain, rfl⟩ :=
    mutation_scope_spec hscope
  simp only [run_statements_cons, run_statements_nil, mutateRows, except_bind_ok, pure,
    Except.pure, Except.ok.injEq] at hrun
  obtain ⟨_, ⟨tables, hreplace, versioned, hversion, rfl⟩, rfl⟩ := hrun
  obtain rfl := replace_connection_spec hreplace
  have hfresh := fresh_version store hversion rfl
  obtain ⟨rfl, -⟩ := insert_version_spec hversion
  have hchange := HistoryChange.advanced store.view row parent _ _ hrow hlive hparent hparentMain
    hfresh ⟨hid.symm, rfl, by rw [hrevision]; rfl⟩ rfl (hadvance row hrow hid hrevision)
  rw [hid] at hchange
  exact one_history_change hchange

/-! ## Conflicts -/

/-- The versions that a candidate is kept beside are versions of its connection. -/
theorem candidate_base_spec {tables : ConnectionTables} {id : String} {revision : Nat}
    {base : CandidateBase} (h : candidateBase tables id revision = some base) :
    (∃ row ∈ tables.connections, row.id = id) ∧
      ∃ server ∈ tables.versions, server.id = base.serverId ∧ server.resourceId = id := by
  unfold candidateBase at h
  split at h
  · cases h
  · next row hfind =>
      obtain ⟨server, hserver, rfl⟩ := Option.map_eq_some_iff.mp h
      obtain ⟨hrow, hid⟩ := found_connection hfind
      obtain ⟨hmem, hmain⟩ := found_main_version hserver
      exact ⟨⟨row, hrow, hid⟩, server, hmem, rfl, hmain.1.trans hid⟩

/-- A candidate and its conflict join the tables. -/
theorem conflict_rows_changes {store : HistoryStore} {tables after : ConnectionTables}
    {id connectionId : String} {revision baseRevision : Nat} {parentVersionId : Option String}
    {operation : VersionOperation} {payload : ConnectionVersionPayload} {conflict : ResourceConflict}
    (hpayload : CandidatePayload store.reads payload)
    (howner : ∃ row ∈ store.tables.connections, row.id = connectionId)
    (hserver : ∃ server ∈ store.tables.versions, server.id = conflict.serverVersionId ∧
      server.resourceId = connectionId)
    (hresource : conflict.resourceId = connectionId) (hcandidate : conflict.candidateVersionId = id)
    (hrevision : conflict.expectedRevision = revision)
    (hversion : store.tables.insertVersion (hashedVersion collation id connectionId revision
      parentVersionId .conflict operation baseRevision payload) = .ok tables)
    (hconflict : insertConflict tables conflict = .ok after) :
    Changes (HistoryChange collation Meets) store.view (store.withTables after).view := by
  have hfresh := fresh_version store hversion rfl
  have hsafe : conflict.expectedRevision ≤ MAX_SAFE_INTEGER := by
    rw [hrevision]
    exact hfresh.safe
  obtain ⟨rfl, -⟩ := insert_version_spec hversion
  obtain ⟨rfl, hnew⟩ := insert_conflict_spec hconflict
  refine Relation.ReflTransGen.tail (one_history_change
    (.candidate store.view _ hfresh rfl howner hpayload)) (.conflicted _ conflict hnew hsafe
      ?_ ?_ ?_)
  · rw [hresource]
    exact howner
  · obtain ⟨server, hmem, hid, hof⟩ := hserver
    rw [hresource]
    exact ⟨server, List.mem_append_left _ hmem, hid, hof⟩
  · rw [hresource, hcandidate]
    exact ⟨_, List.mem_append_right _ (List.mem_singleton_self _), rfl, rfl⟩

/-- A stale request is kept as a candidate with its conflict. -/
theorem conflict_changes (store : HistoryStore) (input : ConflictCandidate)
    (hpayload : CandidatePayload store.reads input.payload) :
    Changes (HistoryChange collation Meets) store.view
      (committed store (store.conflictConnectionCandidate collation input)).view := by
  refine history_batch_changes (by simp [Gated, conflictRows]) ?_
  intro base after hscope hrun
  simp only [conflictScope, Option.ite_none_right_eq_some] at hscope
  obtain ⟨howner, hserver⟩ := candidate_base_spec hscope.2
  simp only [run_statements_cons, run_statements_nil, conflictRows, except_bind_ok, pure,
    Except.pure, Except.ok.injEq] at hrun
  obtain ⟨_, ⟨tables, hversion, versioned, hconflict, rfl⟩, rfl⟩ := hrun
  exact conflict_rows_changes hpayload howner hserver rfl rfl rfl hversion hconflict

/-- A first decision joins the resolutions. -/
theorem resolve_changes (store : HistoryStore) (input : ConflictResolving) :
    Changes (HistoryChange collation Meets) store.view
      (committed store (store.resolveConnectionConflict input)).view := by
  refine history_batch_changes (by simp [Gated, resolveRows]) ?_
  intro found after _ hrun
  simp only [run_statements_cons, run_statements_nil] at hrun
  obtain ⟨_, hresolve, rfl⟩ := hrun
  simp only [resolveRows] at hresolve
  split at hresolve
  · split at hresolve
    · cases hresolve
    · next hfirst =>
        split at hresolve
        · cases hresolve
        · cases hresolve
          refine one_history_change (.resolved store.view _ ?_)
          intro old hold heq
          exact hfirst (List.any_eq_true.mpr ⟨old, hold, by simpa using heq⟩)
  · cases hresolve
    exact Relation.ReflTransGen.refl

/-! ## Requests -/

/-- A request to change a connection changes it, or keeps a candidate. -/
theorem patch_changes (store : HistoryStore) (request : ChangeRequest)
    (body : List (String × Json)) :
    Changes (HistoryChange collation Meets) store.view
      (store.patchConnection collation request body).view := by
  unfold patchConnection
  split
  · next hread =>
      split
      · exact Relation.ReflTransGen.refl
      · next input hpatch =>
          simp only
          split
          · exact conflict_changes store _ (.updated request.existing body input hread hpatch)
          · refine mutation_changes store _ ?_
            intro row _ hid hrevision
            exact .updated request.existing body input store.now hread hid hrevision hpatch
  · exact Relation.ReflTransGen.refl

/-- A request to delete a connection deletes it, or keeps a candidate. -/
theorem delete_changes (store : HistoryStore) (request : ChangeRequest) :
    Changes (HistoryChange collation Meets) store.view
      (store.deleteConnection collation request).view := by
  unfold deleteConnection
  split
  · next hread =>
      simp only
      split
      · exact conflict_changes store _ (.deleted request.existing hread)
      · refine mutation_changes store _ ?_
        intro row _ hid hrevision
        exact .deleted request.existing store.now hread hid hrevision
  · exact Relation.ReflTransGen.refl

/-- A row that is read is a live one. -/
theorem read_changes (store : HistoryStore) (connectionId : String) :
    Changes (HistoryChange collation Meets) store.view (store.readRow connectionId).view := by
  unfold readRow
  split
  · exact Relation.ReflTransGen.refl
  · next row hfind =>
      split
      · next hlive =>
          rw [Option.isNone_iff_eq_none] at hlive
          exact one_history_change (.read store.view row (found_connection hfind).1 hlive)
      · exact Relation.ReflTransGen.refl

/-! ## Restoring -/

/-- A connection of a snapshot that was read has a template that was parsed. -/
theorem snapshot_connection_parsed {value : Json} {workspaceId : String}
    {snapshot : WorkspaceMetadataSnapshot}
    (h : parseWorkspaceMetadataSnapshot value workspaceId = .ok snapshot) :
    ∀ connection ∈ snapshot.connections, ∃ body,
      parseSharedConnection body .memberLocal = .ok connection.toSharedConnectionInput := by
  unfold parseWorkspaceMetadataSnapshot at h
  split at h
  · split at h
    · simp only [except_bind_ok, pure, Except.pure, Except.ok.injEq] at h
      obtain ⟨_, _, workspace, _, _, _, parsed, hparsed, rfl⟩ := h
      intro connection hconnection
      obtain ⟨document, _, hdocument⟩ := except_map_m_mem hparsed connection hconnection
      unfold parseSnapshotConnection at hdocument
      split at hdocument
      · simp only [except_bind_ok, pure, Except.pure, Except.ok.injEq] at hdocument
        obtain ⟨_, _, _, _, _, _, template, htemplate, rfl⟩ := hdocument
        exact ⟨_, htemplate⟩
      · cases hdocument
    · cases h
  · cases h

/-- What a restore knows of a connection before its batch writes anything. -/
structure Restorable (tables : ConnectionTables) (item : RestoreItem) (base : RestoreBase) :
    Prop where
  parsed : ParsedTemplate .memberLocal item.connection.toSharedConnectionInput
  payload : item.payload = livePayload item.connection.toSharedConnectionInput
  existed : base.existed = true →
    (∃ row ∈ tables.connections, row.id = item.connection.id) ∧
      ∃ found, base.base = some found ∧
        ∃ server ∈ tables.versions, server.id = found.serverId ∧
          server.resourceId = item.connection.id

/-- What was known stays known while rows are added. -/
theorem Restorable.mono {tables after : ConnectionTables} {item : RestoreItem} {base : RestoreBase}
    (h : Restorable tables item base)
    (hconnections : ∀ row ∈ tables.connections, row ∈ after.connections)
    (hversions : ∀ version ∈ tables.versions, version ∈ after.versions) :
    Restorable after item base where
  parsed := h.parsed
  payload := h.payload
  existed := by
    intro hexisted
    obtain ⟨⟨row, hrow, hid⟩, found, hfound, server, hserver, hrest⟩ := h.existed hexisted
    exact ⟨⟨row, hconnections row hrow, hid⟩, found, hfound, server, hversions server hserver,
      hrest⟩

/-- What is restored of a template that was parsed as member-local is the template itself. -/
theorem restored_payload {item : RestoreItem} {body : List (String × Json)}
    (h : parseSharedConnection body .memberLocal = .ok item.connection.toSharedConnectionInput) :
    item.payload = livePayload item.connection.toSharedConnectionInput := by
  obtain ⟨hstored, hmode⟩ := parse_shared_spec h
  unfold RestoreItem.payload livePayload
  rw [← hstored.readonlyDefault, ← hmode.1 rfl]

/-- One restored connection is added with its first version, or kept as a conflict; and rows are
only added. -/
theorem restore_item_changes {store : HistoryStore} {authority : MemberAuthority}
    {item : RestoreItem} {base : RestoreBase} {after : ConnectionTables}
    (h : Restorable store.tables item base)
    (hrun : restoreItem collation authority item base store.tables = .ok after) :
    Changes (HistoryChange collation Meets) store.view (store.withTables after).view ∧
      (∀ row ∈ store.tables.connections, row ∈ after.connections) ∧
      ∀ version ∈ store.tables.versions, version ∈ after.versions := by
  unfold restoreItem at hrun
  simp only at hrun
  split at hrun
  · next hexisted =>
      simp only [except_bind_ok] at hrun
      obtain ⟨tables, hversion, hconflict⟩ := hrun
      obtain ⟨howner, found, hfound, server, hserver, hid, hresource⟩ := h.existed hexisted
      rw [h.payload] at hversion
      refine ⟨conflict_rows_changes (.restored _ h.parsed) howner ?_ rfl rfl rfl hversion hconflict,
        ?_, ?_⟩
      · refine ⟨server, hserver, ?_, hresource⟩
        rw [hfound]
        exact hid
      · obtain ⟨rfl, -⟩ := insert_version_spec hversion
        obtain ⟨rfl, -⟩ := insert_conflict_spec hconflict
        intro row hrow
        exact hrow
      · obtain ⟨rfl, -⟩ := insert_version_spec hversion
        obtain ⟨rfl, -⟩ := insert_conflict_spec hconflict
        intro version hmem
        exact List.mem_append_left _ hmem
  · simp only [except_bind_ok] at hrun
    obtain ⟨tables, hrow, hversion⟩ := hrun
    rw [h.payload] at hrow hversion
    have hfrom : CreatedFrom (createdRow item.connection.id item.connection.contentRevision
        item.connection.toSharedConnectionInput) item.connection.toSharedConnectionInput :=
      ⟨rfl, h.parsed, fun h => absurd h (by simp [createdRow])⟩
    refine ⟨one_history_change (first_version_change hfrom hrow hversion), ?_, ?_⟩
    · obtain ⟨rfl, -⟩ := insert_connection_spec hrow
      obtain ⟨rfl, -⟩ := insert_version_spec hversion
      intro row hmem
      exact List.mem_append_left _ hmem
    · obtain ⟨rfl, -⟩ := insert_connection_spec hrow
      obtain ⟨rfl, -⟩ := insert_version_spec hversion
      intro version hmem
      exact List.mem_append_left _ hmem

/-- The restored connections, one after the other. -/
theorem restore_items_changes {authority : MemberAuthority}
    {candidates : List (RestoreItem × RestoreBase)} {store : HistoryStore}
    {after : ConnectionTables}
    (h : ∀ candidate ∈ candidates, Restorable store.tables candidate.1 candidate.2)
    (hrun : restoreItems collation authority candidates store.tables = .ok after) :
    Changes (HistoryChange collation Meets) store.view (store.withTables after).view := by
  induction candidates generalizing store with
  | nil =>
      cases hrun
      exact Relation.ReflTransGen.refl
  | cons candidate rest ih =>
      obtain ⟨item, base⟩ := candidate
      unfold restoreItems at hrun
      split at hrun
      · cases hrun
      · next tables hitem =>
          obtain ⟨hfirst, hconnections, hversions⟩ :=
            @restore_item_changes _ Meets _ _ _ _ _ (h (item, base) List.mem_cons_self) hitem
          have hrest : ∀ candidate ∈ rest,
              Restorable (store.withTables tables).tables candidate.1 candidate.2 := by
            intro candidate hmem
            exact (h candidate (List.mem_cons_of_mem _ hmem)).mono hconnections hversions
          exact hfirst.trans (@ih (store.withTables tables) hrest hrun)

/-- What a restore's scope had checked. -/
theorem restore_scope_spec {store : HistoryStore} {input : SnapshotRestore}
    {candidates : List (RestoreItem × RestoreBase)}
    (h : restoreScope input store = some candidates) :
    candidates = input.items.map (fun item => (item, restoreBase store.tables item)) ∧
      ∀ candidate ∈ candidates, candidate.2.existed = true → candidate.2.base.isSome = true := by
  simp only [restoreScope, Option.ite_none_right_eq_some, Bool.and_eq_true, List.all_eq_true] at h
  obtain ⟨⟨-, hall⟩, hcandidates⟩ := h
  obtain rfl := Option.some.inj hcandidates
  refine ⟨rfl, ?_⟩
  intro candidate hmem hexisted
  have hkept := hall candidate hmem
  simpa [hexisted] using hkept

/-- A request to restore a snapshot adds its connections, or keeps them as conflicts. -/
theorem restore_changes (store : HistoryStore) (input : SnapshotRestore) (document : Json)
    (workspaceId : String) (freshIds : List (String × String)) :
    Changes (HistoryChange collation Meets) store.view
      (store.restoreSnapshot collation input document workspaceId freshIds).view := by
  unfold restoreSnapshot
  split
  · exact Relation.ReflTransGen.refl
  · next snapshot hparse =>
      split
      · refine history_batch_changes (by simp [Gated, restoreRows]) ?_
        intro candidates after hscope hrun
        obtain ⟨hcandidates, hexisted⟩ := restore_scope_spec hscope
        simp only [run_statements_cons, run_statements_nil] at hrun
        obtain ⟨_, hrestore, rfl⟩ := hrun
        simp only [restoreRows] at hrestore
        split at hrestore
        · cases hrestore
        · next tables hitems =>
            cases hrestore
            refine restore_items_changes ?_ hitems
            intro candidate hmem
            have hbase := hexisted candidate hmem
            rw [hcandidates] at hmem
            obtain ⟨item, hitem, rfl⟩ := List.mem_map.mp hmem
            obtain ⟨⟨connection, versionId, conflictId⟩, hzip, rfl⟩ := List.mem_map.mp hitem
            obtain ⟨body, hbody⟩ := snapshot_connection_parsed hparse connection
              (List.of_mem_zip hzip).1
            refine ⟨.inl ⟨body, hbody⟩,
              @restored_payload ⟨connection, versionId, conflictId⟩ body hbody, ?_⟩
            intro hthere
            obtain ⟨found, hfound⟩ := Option.isSome_iff_exists.mp (hbase hthere)
            obtain ⟨howner, hserver⟩ := candidate_base_spec hfound
            exact ⟨howner, found, hfound, hserver⟩
      · exact Relation.ReflTransGen.refl

/-! ## Provider operations -/

/-- The statement leaves the tables of connections alone. -/
def KeepsTables {π : Type} (statement : Statement OperationAbort ProviderStore π) : Prop :=
  ∀ snapshot before after, statement snapshot before = .ok after → after.tables = before.tables

/-- Statements that leave the tables of connections alone do so in a batch. -/
theorem batch_tables {π : Type} {scope : ProviderStore → Option π}
    {statements : List (Statement OperationAbort ProviderStore π)} (store : ProviderStore)
    (h : ∀ statement ∈ statements, KeepsTables statement) :
    (committed store (runBatch scope statements store)).tables = store.tables := by
  have hrun : ∀ snapshot before after, runStatements statements snapshot before = .ok after →
      after.tables = before.tables := by
    intro snapshot before after
    induction statements generalizing before with
    | nil =>
        intro hnil
        rw [run_statements_nil.mp hnil]
    | cons statement rest ih =>
        intro hcons
        obtain ⟨between, hfirst, hrest⟩ := run_statements_cons.mp hcons
        rw [ih (fun other hother => h other (List.mem_cons_of_mem _ hother)) between hrest,
          h statement List.mem_cons_self snapshot before between hfirst]
  cases hbatch : runStatements statements (scope store) store with
  | error abort => simp only [runBatch, hbatch, committed]
  | ok after =>
      simp only [runBatch, hbatch, committed]
      exact hrun _ _ _ hbatch

/-- A rewritten operation leaves the tables of connections alone. -/
theorem update_row_tables {store after : ProviderStore} {id : String}
    {change : ProviderOperation → ProviderOperation} (h : store.updateRow id change = .ok after) :
    after.tables = store.tables := by
  unfold updateRow at h
  split at h
  · cases h
  · cases h
    rfl

/-- A new operation leaves the tables of connections alone. -/
theorem insert_row_tables {store after : ProviderStore} {row : ProviderOperation}
    (h : store.insertRow row = .ok after) : after.tables = store.tables := by
  unfold insertRow at h
  split at h
  · cases h
  · split at h
    · cases h
    · split at h
      · cases h
      · cases h
        rfl

/-- A statement that leaves the store alone without a snapshot, and the tables with one. -/
theorem keeps_tables_of_update {π : Type} {statement : Statement OperationAbort ProviderStore π}
    (hnone : ∀ store, statement none store = .ok store)
    (hsome : ∀ found store after, statement (some found) store = .ok after →
      after.tables = store.tables) : KeepsTables statement := by
  intro snapshot before after hrun
  cases snapshot with
  | none =>
      obtain rfl := Except.ok.inj ((hnone before).symm.trans hrun)
      rfl
  | some found => exact hsome found before after hrun

/-- Recording a plan leaves the tables of connections alone. -/
theorem record_tables (context : ProviderContext) (store : ProviderStore) (input : PlanRecording) :
    (committed store (store.recordProviderOperationPlan context input)).tables = store.tables := by
  have hplan : KeepsTables (insertPlan input) := by
    intro snapshot before after hrun
    unfold insertPlan at hrun
    split at hrun
    · cases hrun
      rfl
    · split at hrun
      · exact insert_row_tables hrun
      · cases hrun
        rfl
  unfold recordProviderOperationPlan
  split
  · rfl
  · have hbatch := @batch_tables _ (recordScope input) [insertPlan input] store (by simpa using hplan)
    split
    · rfl
    · next after slot hrun =>
        rw [hrun] at hbatch
        exact hbatch

/-- A decision leaves the tables of connections alone. -/
theorem decide_tables (context : ProviderContext) (store : ProviderStore)
    (input : OperationDecision) :
    (committed store (store.decideProviderOperation context input)).tables = store.tables := by
  have happroval : KeepsTables (insertApproval input) := by
    intro snapshot before after hrun
    unfold insertApproval at hrun
    split at hrun
    · cases hrun
      rfl
    · cases hrun
      rfl
  have hdecision : KeepsTables (takeDecision input) := by
    intro snapshot before after hrun
    unfold takeDecision at hrun
    split at hrun
    · cases hrun
      rfl
    · exact update_row_tables hrun
  unfold decideProviderOperation
  split
  · rfl
  · have hbatch := @batch_tables _ (decideScope input) [insertApproval input, takeDecision input]
      store (by simpa using ⟨happroval, hdecision⟩)
    split
    · rfl
    · next after matched hrun =>
        rw [hrun] at hbatch
        exact hbatch

/-- A claim leaves the tables of connections alone. -/
theorem claim_tables (context : ProviderContext) (store : ProviderStore) (input : ExecutionStep) :
    (committed store (store.claimProviderOperationExecution context input)).tables =
      store.tables := by
  have hclaim : KeepsTables (claimRow input) :=
    keeps_tables_of_update (fun _ => rfl) fun _ _ _ hrun => update_row_tables hrun
  unfold claimProviderOperationExecution
  split
  · rfl
  · have hbatch := @batch_tables _ (claimScope input) [claimRow input] store (by simpa using hclaim)
    split
    · rfl
    · next after candidate hrun =>
        rw [hrun] at hbatch
        exact hbatch

/-- Marking the start leaves the tables of connections alone. -/
theorem mark_tables (context : ProviderContext) (store : ProviderStore) (input : ExecutionStep) :
    (committed store (store.markProviderOperationRemoteStarted context input)).tables =
      store.tables := by
  have hstart : KeepsTables (startRow input) :=
    keeps_tables_of_update (fun _ => rfl) fun _ _ _ hrun => update_row_tables hrun
  unfold markProviderOperationRemoteStarted
  split
  · rfl
  · split
    · rfl
    · have hbatch := @batch_tables _ (startScope input) [startRow input] store (by simpa using hstart)
      split
      · rfl
      · next after candidate hrun =>
          rw [hrun] at hbatch
          exact hbatch

/-- Cancelling an expired operation leaves the tables of connections alone. -/
theorem cancel_expired_tables (context : ProviderContext) (store : ProviderStore)
    (input : ExecutionStep) :
    (committed store (store.cancelExpiredProviderOperationExecution context input)).tables =
      store.tables := by
  have hcancel : KeepsTables (cancelRow input) :=
    keeps_tables_of_update (fun _ => rfl) fun _ _ _ hrun => update_row_tables hrun
  unfold cancelExpiredProviderOperationExecution
  split
  · rfl
  · exact batch_tables store (by simpa using hcancel)

/-- A reconciliation leaves the tables of connections alone. -/
theorem reconcile_tables (context : ProviderContext) (store : ProviderStore)
    (input : Reconciliation) :
    (committed store (store.applyProviderOperationReconciliation context input)).tables =
      store.tables := by
  have hreconcile : KeepsTables (reconcileRow input) :=
    keeps_tables_of_update (fun _ => rfl) fun _ _ _ hrun => update_row_tables hrun
  unfold applyProviderOperationReconciliation
  split
  · rfl
  · split
    · rfl
    · have hbatch := @batch_tables _ (reconcileScope input) [reconcileRow input] store
        (by simpa using hreconcile)
      split
      · rfl
      · next after candidate hrun =>
          rw [hrun] at hbatch
          exact hbatch

/-- The completion of a bootstrap leaves the tables of connections alone. -/
theorem bootstrap_tables (context : ProviderContext) (store : ProviderStore)
    (input : BootstrapCompletion) :
    (committed store (store.completeProviderOperationBootstrap context input)).tables =
      store.tables := by
  have hbootstrap : KeepsTables (bootstrapRow input) := by
    intro snapshot before after hrun
    unfold bootstrapRow at hrun
    split at hrun
    · cases hrun
      rfl
    · split at hrun
      · exact update_row_tables hrun
      · cases hrun
        rfl
  unfold completeProviderOperationBootstrap
  split
  · rfl
  · exact batch_tables store (by simpa using hbootstrap)

/-- The steps of an operation other than a switch leave the tables of connections alone. -/
theorem provider_step_tables (context : ProviderContext) (store : ProviderStore)
    (event : ProviderEvent) (hswitch : ∀ input, event ≠ .completeSwitch input)
    (hchange : ∀ directory tables, event ≠ .change directory tables) :
    (providerStep context store event).tables = store.tables := by
  cases event with
  | record input => exact record_tables context store input
  | decide input => exact decide_tables context store input
  | claim input => exact claim_tables context store input
  | mark input => exact mark_tables context store input
  | cancelExpired input => exact cancel_expired_tables context store input
  | reconcile input => exact reconcile_tables context store input
  | completeSwitch input => exact absurd rfl (hswitch input)
  | completeBootstrap input => exact bootstrap_tables context store input
  | change directory tables => exact absurd rfl (hchange directory tables)
  | tick milliseconds => rfl

/-- A connection that a switch moves was the one that its plan was made for. -/
theorem matches_plan_spec {input : ConnectionSwitch} {tables : ConnectionTables}
    {row : WorkspaceConnection} (hvalid : input.validProjection collation = true)
    (h : input.matchesPlan tables row = true) : MovedFrom row input := by
  unfold ConnectionSwitch.validProjection at hvalid
  simp only [Bool.and_eq_true, decide_eq_true_eq] at hvalid
  obtain ⟨⟨⟨⟨⟨-, hhost⟩, hport⟩, -⟩, -⟩, hsslmode⟩ := hvalid
  unfold ConnectionSwitch.matchesPlan at h
  simp only [Bool.and_eq_true, decide_eq_true_eq, Option.isNone_iff_eq_none] at h
  obtain ⟨⟨⟨⟨⟨⟨⟨⟨⟨⟨⟨⟨⟨⟨⟨⟨⟨hprovider, hmanaged⟩, -⟩, -⟩, -⟩, -⟩, hname⟩, hreadonly⟩, hwrites⟩, hgroup⟩,
    -⟩, -⟩, hrevision⟩, -⟩, -⟩, -⟩, hlive⟩, -⟩ := h
  refine ⟨hname, hreadonly, hwrites, hgroup, ?_, hprovider, hmanaged, hlive, hhost, hport, hsslmode⟩
  unfold ConnectionSwitch.contentRevision
  rw [hrevision]
  rfl

/-- What a switch's scope over the connections had checked. -/
theorem connection_scope_spec {input : ConnectionSwitch} {tables : ConnectionTables}
    {snapshot : ConnectionSwitch.Snapshot} (hvalid : input.validProjection collation = true)
    (h : input.scope tables = some snapshot) :
    ∃ row parent, row ∈ tables.connections ∧ row.id = input.connectionId ∧
      tables.findConnection input.connectionId = some row ∧ MovedFrom row input ∧
      parent ∈ tables.versions ∧ parent.IsMain row.id row.contentRevision ∧
      snapshot.parentVersionId = parent.id := by
  unfold ConnectionSwitch.scope at h
  split at h
  · cases h
  · next row hfind =>
      split at h
      · cases h
      · next parent hparent =>
          simp only [Option.ite_none_right_eq_some, Bool.and_eq_true] at h
          obtain ⟨⟨⟨⟨hmatches, -⟩, -⟩, -⟩, hsnapshot⟩ := h
          obtain ⟨hrow, hid⟩ := found_connection hfind
          obtain ⟨hmem, hmain⟩ := found_main_version hparent
          obtain rfl := Option.some.inj hsnapshot
          exact ⟨row, parent, hrow, hid, hfind, matches_plan_spec hvalid hmatches, hmem, hmain, rfl⟩

/-- A completion that passes its checks has the projection of its target. -/
theorem completion_projection {context : ProviderContext} {input : SwitchCompletion}
    (h : assertSwitchCompletion context input = .ok ()) :
    input.connectionSwitch.validProjection context.collation = true := by
  unfold assertSwitchCompletion at h
  simp only at h
  split at h
  · cases h
  · cases h
  · split at h
    · cases h
    · next hchecked =>
        simp only [Bool.not_eq_true', Bool.not_eq_false, Bool.and_eq_true] at hchecked
        exact hchecked.2

/-- Every switch that moves a connection meets a condition. -/
def SwitchMeets (Meets : WorkspaceConnection → ConnectionSwitch → Prop) (store : HistoryStore) :
    HistoryEvent → Prop
  | .operation (.completeSwitch input) => ∀ found row,
    switchScope input store.toProviderStore = some found →
    store.tables.findConnection input.connectionSwitch.connectionId = some row →
    Meets row input.connectionSwitch
  | _ => True

/-- A switch moves its connection to the next version. -/
theorem history_switch_changes (context : ProviderContext) (store : HistoryStore)
    (input : SwitchCompletion)
    (hmeets : SwitchMeets Meets store (.operation (.completeSwitch input))) :
    Changes (HistoryChange context.collation Meets) store.view
      (store.operationStep context (.completeSwitch input)).view := by
  have hbatch : committed store.toProviderStore
      (store.toProviderStore.completeNeonBranchSwitch context input) = store.toProviderStore ∨
      input.connectionSwitch.validProjection context.collation = true ∧
      ∃ payload, switchScope input store.toProviderStore = some payload ∧
        runStatements [switchTables context input, switchRow input] (some payload)
          store.toProviderStore = .ok (committed store.toProviderStore
            (store.toProviderStore.completeNeonBranchSwitch context input)) := by
    unfold completeNeonBranchSwitch
    split
    · exact .inl rfl
    · next hchecked =>
        have hgated : ∀ statement ∈ [switchTables context input, switchRow input],
            Gated statement := by
          simp [Gated, switchTables, switchRow]
        obtain hkept | hran := batch_cases hgated store.toProviderStore
        · exact .inl hkept
        · exact .inr ⟨completion_projection hchecked, hran⟩
  show Changes _ _ (HistoryStore.view { store with
    toProviderStore := committed store.toProviderStore
      (store.toProviderStore.completeNeonBranchSwitch context input) })
  generalize committed store.toProviderStore
    (store.toProviderStore.completeNeonBranchSwitch context input) = final at hbatch ⊢
  obtain rfl | ⟨hvalid, ⟨operation, snapshot⟩, hscope, hrun⟩ := hbatch
  · exact Relation.ReflTransGen.refl
  · have hwhole := hscope
    unfold switchScope at hscope
    obtain ⟨found, -, hsnapshot⟩ := Option.bind_eq_some_iff.mp hscope
    obtain ⟨_, hconnection, heq⟩ := Option.map_eq_some_iff.mp hsnapshot
    cases heq
    obtain ⟨row, parent, hrow, hid, hfind, hfrom, hmem, hmain, hparentId⟩ :=
      connection_scope_spec hvalid hconnection
    have hrowMeets : Meets row input.connectionSwitch := hmeets _ row hwhole hfind
    simp only [run_statements_cons, run_statements_nil] at hrun
    obtain ⟨moved, hmove, settled, hswitch, rfl⟩ := hrun
    simp only [switchTables] at hmove
    split at hmove
    · cases hmove
    · next tables hcommit =>
        cases hmove
        have htables := update_row_tables hswitch
        unfold ConnectionSwitch.commit at hcommit
        -- the provider resource is none of the tables of the view
        have hversions : (input.connectionSwitch.moveConnection snapshot
            (input.connectionSwitch.upsertResource snapshot store.tables)).versions =
              store.tables.versions := by
          unfold ConnectionSwitch.moveConnection ConnectionSwitch.upsertResource
            ConnectionTables.updateConnection
          simp only
          split
          · rfl
          · rfl
        have hfresh : FreshVersion context.collation store.view
            (input.connectionSwitch.version context.collation snapshot) :=
          fresh_version store hcommit hversions
        obtain ⟨hafter, -⟩ := insert_version_spec hcommit
        have hview : HistoryStore.view { store with toProviderStore := settled } =
            { store.view with
              connections := store.view.connections.map fun old =>
                if old.id = row.id then movedRow input.connectionSwitch snapshot old else old
              versions := store.view.versions ++
                [input.connectionSwitch.version context.collation snapshot] } := by
          unfold HistoryStore.view
          simp only [htables, hafter, hid]
          unfold ConnectionSwitch.moveConnection ConnectionSwitch.upsertResource
            ConnectionTables.updateConnection
          simp only
          split
          · rfl
          · rfl
        rw [hview]
        refine one_history_change (.advanced store.view row parent _ _ hrow hfrom.live hmem hmain
          hfresh ⟨hid.symm, rfl, ?_⟩ ?_ (.switched input.connectionSwitch snapshot hfrom hrowMeets))
        · rw [← hfrom.contentRevision]
          rfl
        · rw [← hparentId]
          rfl

/-- Every event whose switches meet the condition is a sequence of small changes. -/
theorem history_step_changes (context : ProviderContext) (store : HistoryStore)
    (event : HistoryEvent) (hmeets : SwitchMeets Meets store event) :
    Changes (HistoryChange context.collation Meets) store.view
      (historyStep context store event).view := by
  cases event with
  | read connectionId => exact read_changes store connectionId
  | create request => exact post_changes store request
  | patch request body => exact patch_changes store request body
  | delete request => exact delete_changes store request
  | resolve input => exact resolve_changes store input
  | restore input document workspaceId freshIds =>
      exact restore_changes store input document workspaceId freshIds
  | importResource input => exact import_changes store input
  | operation event =>
      by_cases hswitch : ∃ input, event = .completeSwitch input
      · obtain ⟨input, rfl⟩ := hswitch
        exact history_switch_changes context store input hmeets
      · have hview : (store.operationStep context event).view = store.view := by
          cases event with
          | change directory tables => rfl
          | completeSwitch input => exact absurd ⟨input, rfl⟩ hswitch
          | record | decide | claim | mark | cancelExpired | reconcile | completeBootstrap | tick =>
              unfold operationStep HistoryStore.view
              simp only
              rw [provider_step_tables context store.toProviderStore _
                (fun input heq => hswitch ⟨input, heq⟩) (by simp)]
        show Changes _ _ (store.operationStep context event).view
        rw [hview]
  | access connectionId columns =>
      unfold historyStep
      simp only
      split
      · exact Relation.ReflTransGen.refl
      · next tables hreplace =>
          rw [replace_connection_spec hreplace]
          exact one_history_change (.accessed store.view connectionId columns)
  | around tables => exact Relation.ReflTransGen.refl

end Dopedb.Cloud
