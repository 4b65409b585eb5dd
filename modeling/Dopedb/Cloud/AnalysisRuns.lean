import Dopedb.Cloud.Authority
import Dopedb.Cloud.Canonical
import Dopedb.Library.AtomicBatch
import Dopedb.Library.Runs

/-!
# Analysis runs

`workspace-analysis-run-store.ts`, `workspace-analysis-runner-store.ts` and the changes of
`workspace-analysis-article-store.ts`, each as the batch that the store issues. The tables are those
of one workspace; audit rows, publications and direct revocations are left out.
-/

namespace Dopedb.Cloud

open Library

/-! ## Completions -/

/-- The states of a run. -/
inductive AnalysisRunState where
  | queued | running | succeeded | failed | cancelled | stale
  deriving DecidableEq, Repr

/-- A run that has not ended. -/
def AnalysisRunState.isActive (state : AnalysisRunState) : Bool :=
  state = .queued || state = .running

/-- How a runner says that a query or a run ended. -/
inductive AnalysisEnd where
  | succeeded | failed | cancelled | stale
  deriving DecidableEq, Repr

/-- The state of a run that ended. -/
def AnalysisEnd.state : AnalysisEnd → AnalysisRunState
  | .succeeded => .succeeded
  | .failed => .failed
  | .cancelled => .cancelled
  | .stale => .stale

/-- `AnalysisQueryReceiptInput`. -/
structure AnalysisQueryReceiptInput where
  queryNodeId : String
  connectionId : String
  connectionRevision : Nat
  queryRunId : String
  queryHash : String
  schemaFingerprint : String
  state : AnalysisEnd
  rowCount : Nat
  byteCount : Nat
  durationMs : Nat
  deriving DecidableEq

/-- Why a run did not succeed. -/
structure AnalysisRunError where
  kind : String
  message : String
  deriving DecidableEq

/-- The last check of `parseAnalysisRunCompletion`, with its limit of one receipt. -/
def completionConsistent (state : AnalysisEnd) (receipts : List AnalysisQueryReceiptInput)
    (error : Option AnalysisRunError) : Bool :=
  if state = .succeeded then
    match receipts with
    | [receipt] => receipt.state = .succeeded && error.isNone
    | _ => false
  else receipts.isEmpty && error.isSome

/-- `AnalysisRunCompletion`, as the parser lets it through. -/
structure AnalysisRunCompletion where
  state : AnalysisEnd
  queryReceipts : List AnalysisQueryReceiptInput
  error : Option AnalysisRunError
  consistent : completionConsistent state queryReceipts error = true
  deriving DecidableEq

/-- The text of a state. -/
def AnalysisEnd.text : AnalysisEnd → String
  | .succeeded => "succeeded"
  | .failed => "failed"
  | .cancelled => "cancelled"
  | .stale => "stale"

/-- A receipt as JSON. -/
def AnalysisQueryReceiptInput.toJson (receipt : AnalysisQueryReceiptInput) : Json :=
  .obj [
    ("queryNodeId", .str receipt.queryNodeId),
    ("connectionId", .str receipt.connectionId),
    ("connectionRevision", .int receipt.connectionRevision),
    ("queryRunId", .str receipt.queryRunId),
    ("queryHash", .str receipt.queryHash),
    ("schemaFingerprint", .str receipt.schemaFingerprint),
    ("state", .str receipt.state.text),
    ("rowCount", .int receipt.rowCount),
    ("byteCount", .int receipt.byteCount),
    ("durationMs", .int receipt.durationMs)]

/-- `analysisRunResultHash`. -/
def analysisRunResultHash (collation : Collation) (receipts : List AnalysisQueryReceiptInput) :
    String :=
  canonicalHash collation (.obj [("receipts", .arr
    ((receipts.mergeSort fun a b => a.queryNodeId ≤ b.queryNodeId).map (·.toJson)))])

/-! ## Tables -/

/-- What a run came to. -/
structure AnalysisOutcome where
  state : AnalysisRunState
  schemaFingerprints : List (String × String) := []
  rowCount : Nat := 0
  byteCount : Nat := 0
  resultHash : Option String := none
  errorKind : Option String := none
  errorMessage : Option String := none
  finishedAt : Option Nat := none
  deriving DecidableEq

/-- What a completion says that a run came to. -/
def AnalysisRunCompletion.outcome (collation : Collation) (completion : AnalysisRunCompletion)
    (finishedAt : Nat) : AnalysisOutcome :=
  -- only the receipts of a success are stored, and the sums are over these
  let receipts := if completion.state = .succeeded then completion.queryReceipts else []
  { state := completion.state.state
    schemaFingerprints := receipts.map fun receipt =>
      (receipt.queryNodeId, receipt.schemaFingerprint)
    rowCount := (receipts.map (·.rowCount)).sum
    byteCount := (receipts.map (·.byteCount)).sum
    resultHash :=
      if completion.state = .succeeded then
        some (analysisRunResultHash collation completion.queryReceipts)
      else none
    errorKind := completion.error.map (·.kind)
    errorMessage := completion.error.map (·.message)
    finishedAt := some finishedAt }

/-- A row of `workspace_analysis_article_run`. -/
structure AnalysisRun extends AnalysisOutcome where
  id : String
  articleId : String
  articleRevision : Nat
  runnerId : String
  runnerCapabilityGeneration : Nat
  requestedByMemberId : Option String
  definitionHash : String
  cancelRequestedAt : Option Nat := none
  cancelRequestedByMemberId : Option String := none
  startedAt : Option Nat
  deriving DecidableEq

/-- A row of `workspace_analysis_article_query_receipt`. -/
structure StoredReceipt where
  runId : String
  receipt : AnalysisQueryReceiptInput
  deriving DecidableEq

/-- A row of `workspace_analysis_runner`. -/
structure AnalysisRunner where
  id : String
  memberId : Option String
  deviceId : String
  displayName : String
  runnerCapabilityHash : String
  runnerCapabilityGeneration : Nat := 1
  lastSeenAt : Nat
  revokedAt : Option Nat := none
  deriving DecidableEq

/-- A row of `workspace_analysis_article`. -/
structure AnalysisArticle where
  id : String
  projectEnvironmentId : String
  environmentRevision : Nat
  connectionId : String
  connectionRevision : Nat
  definition : String
  ownerMemberId : String
  updatedByMemberId : String
  revision : Nat := 1
  latestSuccessfulRunId : Option String := none
  updatedAt : Nat
  deletedAt : Option Nat := none
  deriving DecidableEq

/-- A row of `workspace_analysis_article_revision`. -/
structure AnalysisArticleRevision where
  articleId : String
  revision : Nat
  operation : String
  deriving DecidableEq

/-- A row of `workspace_connection`, as far as an analysis reads it. -/
structure AnalysisConnection where
  id : String
  contentRevision : Nat
  deletedAt : Option Nat := none
  revocationPendingAt : Option Nat := none
  revocationClaimId : Option String := none
  deriving DecidableEq

/-- A row of `knowledge_environment_connection`. -/
structure EnvironmentBinding where
  projectEnvironmentId : String
  environmentRevision : Nat
  connectionId : String
  connectionRevision : Nat
  revokedAt : Option Nat := none
  deriving DecidableEq

/-- A row of `knowledge_project_environment`, with whether its project is there. -/
structure ProjectEnvironment where
  id : String
  revision : Nat
  projectLive : Bool := true
  deriving DecidableEq

/-- A row of `workspace_connection_grant`. -/
structure AnalysisGrant where
  connectionId : String
  memberId : String
  capability : String
  deriving DecidableEq

/-- What other parts of the control plane change at any time. -/
structure AnalysisFacts where
  directory : Directory
  connections : List AnalysisConnection
  bindings : List EnvironmentBinding
  environments : List ProjectEnvironment
  grants : List AnalysisGrant
  directLoweringBlocked : Bool := false
  deriving DecidableEq

/-- The tables of one workspace. -/
structure AnalysisStore where
  facts : AnalysisFacts
  articles : List AnalysisArticle := []
  revisions : List AnalysisArticleRevision := []
  runners : List AnalysisRunner := []
  runs : List AnalysisRun := []
  receipts : List StoredReceipt := []
  now : Nat := 0
  deriving DecidableEq

/-- A statement that the database aborts. -/
inductive AnalysisAbort where
  | constraint (name : String)
  deriving DecidableEq, Repr

namespace AnalysisStore

/-- The member that acts with one of the roles. -/
def actor (store : AnalysisStore) (authority : MemberAuthority) (roles : List String) :
    Option MemberRow :=
  store.facts.directory.workspaceMemberAuthority store.now authority roles

/-- The run with an id. -/
def findRun (store : AnalysisStore) (id : String) : Option AnalysisRun :=
  store.runs.find? fun run => run.id = id

/-- The runner with an id. -/
def findRunner (store : AnalysisStore) (id : String) : Option AnalysisRunner :=
  store.runners.find? fun runner => runner.id = id

/-- The article with an id. -/
def findArticle (store : AnalysisStore) (id : String) : Option AnalysisArticle :=
  store.articles.find? fun article => article.id = id

/-- An immutable revision is recorded. -/
def hasRevision (store : AnalysisStore) (articleId : String) (revision : Nat) : Bool :=
  store.revisions.any fun row => row.articleId = articleId && row.revision = revision

/-- The receipts of a run. -/
def receiptsOf (store : AnalysisStore) (runId : String) : List AnalysisQueryReceiptInput :=
  (store.receipts.filter fun stored => stored.runId = runId).map (·.receipt)

/-- A grant that lets a member read. -/
def readGrant (connectionId membershipId : String) (grant : AnalysisGrant) : Bool :=
  grant.connectionId = connectionId && grant.memberId = membershipId &&
    (grant.capability = "read" || grant.capability = "use" || grant.capability = "manage")

/-- How many rows join the connection of an article to its binding and to the grants of a member. -/
def connectionAuthority (store : AnalysisStore) (article : AnalysisArticle)
    (membershipId : String) : Nat :=
  match store.facts.connections.find? fun connection => connection.id = article.connectionId with
  | none => 0
  | some connection =>
    if connection.contentRevision = article.connectionRevision &&
        connection.deletedAt.isNone && connection.revocationPendingAt.isNone then
      -- the join has a row for each pair of a binding and a grant
      store.facts.bindings.countP (fun binding =>
        binding.projectEnvironmentId = article.projectEnvironmentId &&
          binding.environmentRevision = article.environmentRevision &&
          binding.connectionId = connection.id &&
          binding.connectionRevision = connection.contentRevision && binding.revokedAt.isNone) *
        store.facts.grants.countP (readGrant connection.id membershipId)
    else 0

/-! ## Runs -/

/-- The input of `commitAnalysisRunCreate`. -/
structure RunCreation where
  articleId : String
  runId : String
  articleRevision : Nat
  runnerId : String
  definitionHash : String
  runnerCapabilityHash : String
  authority : MemberAuthority

/-- The runner generation, when the actor may start the run. -/
def createScope (input : RunCreation) (store : AnalysisStore) : Option Nat :=
  match store.actor input.authority allRoles, store.findRunner input.runnerId,
      store.findArticle input.articleId with
  | some actor, some runner, some article =>
    if runner.memberId = some actor.id && runner.revokedAt.isNone &&
        runner.runnerCapabilityHash = input.runnerCapabilityHash &&
        store.hasRevision article.id input.articleRevision && article.deletedAt.isNone &&
        article.revision = input.articleRevision &&
        store.connectionAuthority article input.authority.membershipId = 1 then
      some runner.runnerCapabilityGeneration
    else none
  | _, _, _ => none

/-- The new run starts at once. -/
def insertRun (input : RunCreation) : Statement AnalysisAbort AnalysisStore Nat
  | none, store => .ok store
  | some generation, store =>
    if store.runs.any fun run => run.id = input.runId then .error (.constraint "PRIMARY KEY")
    else .ok { store with runs := store.runs ++ [{
      id := input.runId
      articleId := input.articleId
      articleRevision := input.articleRevision
      runnerId := input.runnerId
      runnerCapabilityGeneration := generation
      requestedByMemberId := some input.authority.membershipId
      state := .running
      definitionHash := input.definitionHash
      startedAt := some store.now }] }

/-- `commitAnalysisRunCreate`. -/
def commitAnalysisRunCreate (store : AnalysisStore) (input : RunCreation) :
    Except AnalysisAbort (AnalysisStore × Option Nat) :=
  runBatch (createScope input) [insertRun input] store

/-- The input of `requestAnalysisRunCancellation`. -/
structure RunCancellation where
  articleId : String
  runId : String
  authority : MemberAuthority

/-- The revision of a live run that the actor may cancel. -/
def cancelScope (input : RunCancellation) (store : AnalysisStore) : Option Nat :=
  match store.actor input.authority allRoles, store.findRun input.runId with
  | some actor, some run =>
    match store.findRunner run.runnerId with
    | none => none
    | some runner =>
      if run.articleId = input.articleId && run.state.isActive && run.cancelRequestedAt.isNone &&
          -- who asked for the run, whose runner it is, or any editor
          (run.requestedByMemberId = some actor.id || runner.memberId = some actor.id ||
            decide (actor.role ∈ editorRoles)) then
        some run.articleRevision
      else none
  | _, _ => none

/-- Every run with an id is replaced. -/
def updateRun (store : AnalysisStore) (id : String) (change : AnalysisRun → AnalysisRun) :
    AnalysisStore :=
  { store with runs := store.runs.map fun run => if run.id = id then change run else run }

/-- The request is noted at the run. -/
def noteCancellation (input : RunCancellation) : Statement AnalysisAbort AnalysisStore Nat
  | none, store => .ok store
  | some _, store => .ok (store.updateRun input.runId fun run =>
      { run with
        cancelRequestedAt := some store.now
        cancelRequestedByMemberId := some input.authority.membershipId })

/-- `requestAnalysisRunCancellation`. -/
def requestAnalysisRunCancellation (store : AnalysisStore) (input : RunCancellation) :
    Except AnalysisAbort (AnalysisStore × Option Nat) :=
  runBatch (cancelScope input) [noteCancellation input] store

/-- The input of `commitAnalysisRunCompletion`. -/
structure RunCompletion where
  articleId : String
  runId : String
  runnerId : String
  runnerCapabilityHash : String
  completion : AnalysisRunCompletion
  authority : MemberAuthority

/-- The runner of the request still has the capability of the run. -/
def runnerAuthorized (store : AnalysisStore) (input : RunCompletion) (run : AnalysisRun) : Bool :=
  match store.findRunner run.runnerId with
  | none => false
  | some runner =>
    runner.memberId = some input.authority.membershipId && runner.revokedAt.isNone &&
      runner.runnerCapabilityHash = input.runnerCapabilityHash &&
      runner.runnerCapabilityGeneration = run.runnerCapabilityGeneration

/-- The request names the run, and its actor and runner may still speak for it. -/
def speaksFor (store : AnalysisStore) (input : RunCompletion) (run : AnalysisRun) : Bool :=
  (store.actor input.authority allRoles).isSome && store.runnerAuthorized input run &&
    run.articleId = input.articleId && run.runnerId = input.runnerId

/-- How many receipts join the current article and its connection. -/
def receiptAuthority (store : AnalysisStore) (input : RunCompletion) (run : AnalysisRun) : Nat :=
  match store.findArticle run.articleId with
  | none => 0
  | some article =>
    if article.deletedAt.isNone && article.revision = run.articleRevision then
      input.completion.queryReceipts.countP (fun requested =>
        requested.connectionId = article.connectionId &&
          requested.connectionRevision = article.connectionRevision) *
        store.connectionAuthority article input.authority.membershipId
    else 0

/-- The revision of a running run that the completion may end. -/
def completeScope (input : RunCompletion) (store : AnalysisStore) : Option Nat :=
  match store.findRun input.runId with
  | none => none
  | some run =>
    match store.findArticle run.articleId with
    | none => none
    | some article =>
      if store.speaksFor input run && run.state = .running &&
          (article.deletedAt.isNone || input.completion.state ≠ .succeeded) &&
          store.hasRevision run.articleId run.articleRevision &&
          -- a run that is to be cancelled may still fail, but not succeed
          (run.cancelRequestedAt.isNone || input.completion.state ≠ .succeeded) &&
          (input.completion.state ≠ .succeeded ||
            (store.receiptAuthority input run = input.completion.queryReceipts.length &&
              input.completion.queryReceipts.length = 1)) then
        some run.articleRevision
      else none

/-- The receipts of a run that succeeded are stored. -/
def insertReceipts (input : RunCompletion) : Statement AnalysisAbort AnalysisStore Nat
  | none, store => .ok store
  | some _, store =>
    if input.completion.state = .succeeded then
      if store.receipts.any fun stored => stored.runId = input.runId &&
          input.completion.queryReceipts.any fun requested =>
            requested.queryNodeId = stored.receipt.queryNodeId ||
              requested.queryRunId = stored.receipt.queryRunId then
        .error (.constraint "PRIMARY KEY")
      else .ok { store with
        receipts := store.receipts ++
          input.completion.queryReceipts.map fun receipt => ⟨input.runId, receipt⟩ }
    else .ok store

/-- The lengths that the table allows an error. -/
def errorFits (error : AnalysisRunError) : Bool :=
  1 ≤ error.kind.length && error.kind.length ≤ 128 && 1 ≤ error.message.length &&
    error.message.length ≤ 2000

/-- The run ends. -/
def endRun (collation : Collation) (input : RunCompletion) :
    Statement AnalysisAbort AnalysisStore Nat
  | none, store => .ok store
  | some _, store =>
    if input.completion.error.all errorFits then
      .ok (store.updateRun input.runId fun run =>
        { run with
          toAnalysisOutcome := input.completion.outcome collation store.now })
    else .error (.constraint "workspace_analysis_article_run_error")

/-- The article shows its latest success. -/
def showSuccess (input : RunCompletion) : Statement AnalysisAbort AnalysisStore Nat
  | none, store => .ok store
  | some revision, store => .ok { store with
      articles := store.articles.map fun article =>
        if article.id = input.articleId && input.completion.state = .succeeded &&
            article.revision = revision then
          { article with
            latestSuccessfulRunId := some input.runId
            updatedAt := store.now }
        else article }

/-- The batch of `commitAnalysisRunCompletion`. -/
def commitAnalysisRunCompletion (collation : Collation) (store : AnalysisStore)
    (input : RunCompletion) : Except AnalysisAbort (AnalysisStore × Option Nat) :=
  runBatch (completeScope input) [insertReceipts input, endRun collation input, showSuccess input]
    store

/-- The stored run and its receipts are those of the completion. -/
def replayMatches (collation : Collation) (run : AnalysisRun)
    (stored : List AnalysisQueryReceiptInput) (completion : AnalysisRunCompletion) : Bool :=
  -- the time at which the run finished is not compared
  let expected := completion.outcome collation 0
  let receipts := if completion.state = .succeeded then completion.queryReceipts.length else 0
  run.state = expected.state && run.finishedAt.isSome &&
    run.schemaFingerprints = expected.schemaFingerprints &&
    run.rowCount = expected.rowCount && run.byteCount = expected.byteCount &&
    run.resultHash = expected.resultHash && run.errorKind = expected.errorKind &&
    run.errorMessage = expected.errorMessage && stored.length = receipts &&
    (completion.queryReceipts.map fun requested => stored.count requested).sum = receipts

/-- `replayAnalysisRunCompletion`, which the call reads when its batch ended no run. -/
def replayAnalysisRunCompletion (collation : Collation) (store : AnalysisStore)
    (input : RunCompletion) : Option AnalysisRun :=
  match store.findRun input.runId with
  | none => none
  | some run =>
    if store.speaksFor input run &&
        replayMatches collation run (store.receiptsOf run.id) input.completion then
      some run
    else none

/-! ## Runners -/

/-- The input of `registerAnalysisRunner`, with the id and the capability that it draws. -/
structure RunnerRegistration where
  deviceId : String
  displayName : String
  providedCapabilityHash : Option String
  issuedCapabilityHash : String
  runnerId : String
  authority : MemberAuthority

/-- What a registration found. -/
inductive RegistrationStatus where
  | created | verified | missing | invalid
  deriving DecidableEq, Repr

/-- The runner of the device and what the registration does with it. -/
def registerScope (input : RunnerRegistration) (store : AnalysisStore) :
    Option (String × RegistrationStatus) :=
  match store.actor input.authority allRoles with
  | none => none
  | some actor =>
    match store.runners.find? fun runner =>
        runner.deviceId = input.deviceId && runner.revokedAt.isNone with
    | none => some (input.runnerId, .created)
    | some runner =>
      some (runner.id,
        if runner.memberId = some actor.id &&
            some runner.runnerCapabilityHash = input.providedCapabilityHash then .verified
        else if runner.memberId = some actor.id && input.providedCapabilityHash.isNone then .missing
        else .invalid)

/-- A device without a runner gets one. -/
def insertRunner (input : RunnerRegistration) :
    Statement AnalysisAbort AnalysisStore (String × RegistrationStatus)
  | some (_, .created), store =>
    if store.runners.any fun runner => runner.id = input.runnerId then
      .error (.constraint "PRIMARY KEY")
    else .ok { store with runners := store.runners ++ [{
      id := input.runnerId
      memberId := some input.authority.membershipId
      deviceId := input.deviceId
      displayName := input.displayName
      runnerCapabilityHash := input.issuedCapabilityHash
      lastSeenAt := store.now }] }
  | _, store => .ok store

/-- A runner that proved its capability was seen. -/
def seeRunner (input : RunnerRegistration) :
    Statement AnalysisAbort AnalysisStore (String × RegistrationStatus)
  | some (id, .verified), store => .ok { store with
      runners := store.runners.map fun runner =>
        if runner.id = id then
          { runner with
            displayName := input.displayName
            lastSeenAt := store.now }
        else runner }
  | _, store => .ok store

/-- `registerAnalysisRunner`. -/
def registerAnalysisRunner (store : AnalysisStore) (input : RunnerRegistration) :
    Except AnalysisAbort (AnalysisStore × Option (String × RegistrationStatus)) :=
  runBatch (registerScope input) [insertRunner input, seeRunner input] store

/-- What a cleanup snapshot names. -/
structure CleanupSnapshot where
  runnerIds : List String
  runIds : List String
  receiptCount : Nat
  deriving DecidableEq

/-- `cleanupSnapshot`. -/
def cleanupSnapshot (store : AnalysisStore) (runnerIds : List String) : CleanupSnapshot :=
  let runIds := (store.runs.filter fun run =>
    decide (run.runnerId ∈ runnerIds) && run.state.isActive).map (·.id)
  { runnerIds
    runIds
    receiptCount := store.receipts.countP fun stored => decide (stored.runId ∈ runIds) }

/-- The runners of the snapshot are revoked. -/
def revokeRunners : Statement AnalysisAbort AnalysisStore CleanupSnapshot
  | none, store => .ok store
  | some snapshot, store => .ok { store with
      runners := store.runners.map fun runner =>
        if runner.id ∈ snapshot.runnerIds then
          { runner with revokedAt := runner.revokedAt.or (some store.now) }
        else runner }

/-- The live runs of the snapshot become stale. -/
def staleRuns (message : String) : Statement AnalysisAbort AnalysisStore CleanupSnapshot
  | none, store => .ok store
  | some snapshot, store => .ok { store with
      runs := store.runs.map fun run =>
        if run.id ∈ snapshot.runIds then
          { run with
            state := .stale
            finishedAt := some store.now
            errorKind := some "runner_revoked"
            errorMessage := some message }
        else run }

/-- The receipts of the snapshot's runs are discarded. -/
def discardReceipts : Statement AnalysisAbort AnalysisStore CleanupSnapshot
  | none, store => .ok store
  | some snapshot, store => .ok { store with
      receipts := store.receipts.filter fun stored => decide (stored.runId ∉ snapshot.runIds) }

/-- The input of `revokeAnalysisRunner`. -/
structure RunnerRevocation where
  runnerId : String
  authority : MemberAuthority

/-- The actor's own live runner with its live runs. -/
def revokeScope (input : RunnerRevocation) (store : AnalysisStore) : Option CleanupSnapshot :=
  let runners := store.runners.filter fun runner =>
    runner.id = input.runnerId && runner.memberId = some input.authority.membershipId &&
      runner.revokedAt.isNone
  if !runners.isEmpty && (store.actor input.authority allRoles).isSome then
    some (store.cleanupSnapshot (runners.map (·.id)))
  else none

/-- `revokeAnalysisRunner`. -/
def revokeAnalysisRunner (store : AnalysisStore) (input : RunnerRevocation) :
    Except AnalysisAbort (AnalysisStore × Option CleanupSnapshot) :=
  runBatch (revokeScope input)
    [revokeRunners, staleRuns "The Desktop runner was revoked before this run completed.",
      discardReceipts] store

/-- The input of `removeMemberAfterAnalysisRunnerCleanup`. -/
structure MemberRemoval where
  memberId : String
  userId : String
  role : String
  claimId : String
  authority : MemberAuthority

/-- The runners of a member who may be removed, with their live runs. -/
def removeScope (input : MemberRemoval) (store : AnalysisStore) : Option CleanupSnapshot :=
  let runners := store.runners.filter fun runner => runner.memberId = some input.memberId
  let targets := store.facts.directory.members.any fun target =>
    target.id = input.memberId && target.userId = input.userId && target.role = input.role &&
      target.role ≠ "owner" && target.revocationClaimId = some input.claimId
  let ownsArticle := store.articles.any fun article =>
    article.ownerMemberId = input.memberId && article.deletedAt.isNone
  if (store.actor input.authority managerRoles).isSome && targets && !ownsArticle &&
      !store.facts.directLoweringBlocked then
    some (store.cleanupSnapshot (runners.map (·.id)))
  else none

/-- The member is deleted, after the trigger `workspace_member_detach_evidence`. -/
def deleteMember (input : MemberRemoval) : Statement AnalysisAbort AnalysisStore CleanupSnapshot
  | none, store => .ok store
  | some _, store =>
    if store.runners.any fun runner =>
        runner.memberId = some input.memberId && runner.revokedAt.isNone then
      .error (.constraint "workspace_analysis_runner_member")
    else
      -- the rows that name the member stay, without the name
      let detached (member : Option String) : Option String :=
        if member = some input.memberId then none else member
      .ok { store with
        runners := store.runners.map fun runner =>
          { runner with memberId := detached runner.memberId }
        runs := store.runs.map fun run =>
          { run with
            requestedByMemberId := detached run.requestedByMemberId
            cancelRequestedByMemberId := detached run.cancelRequestedByMemberId }
        facts := { store.facts with
          directory := { store.facts.directory with
            members := store.facts.directory.members.filter fun row =>
              row.id ≠ input.memberId } } }

/-- `removeMemberAfterAnalysisRunnerCleanup`. -/
def removeMemberAfterAnalysisRunnerCleanup (store : AnalysisStore) (input : MemberRemoval) :
    Except AnalysisAbort (AnalysisStore × Option CleanupSnapshot) :=
  runBatch (removeScope input)
    [revokeRunners,
      staleRuns "The Desktop runner owner was removed before this run completed.",
      discardReceipts, deleteMember input] store

/-! ## Articles -/

/-- What an article is saved with. -/
structure ArticleInput where
  id : String
  projectEnvironmentId : String
  environmentRevision : Nat
  connectionId : String
  connectionRevision : Nat
  definition : String
  authority : MemberAuthority

/-- `connectionScope`: how many rows join the environment, the connection and the grants. -/
def articleConnections (store : AnalysisStore) (input : ArticleInput) : Nat :=
  let environments := store.facts.environments.countP fun environment =>
    environment.id = input.projectEnvironmentId &&
      environment.revision = input.environmentRevision && environment.projectLive
  let bindings := store.facts.bindings.countP fun binding =>
    binding.projectEnvironmentId = input.projectEnvironmentId &&
      binding.environmentRevision = input.environmentRevision &&
      binding.connectionId = input.connectionId && binding.revokedAt.isNone &&
      store.facts.connections.any fun connection =>
        connection.id = binding.connectionId &&
          connection.contentRevision = binding.connectionRevision &&
          connection.contentRevision = input.connectionRevision && connection.deletedAt.isNone &&
          connection.revocationPendingAt.isNone && connection.revocationClaimId.isNone
  environments * bindings *
    store.facts.grants.countP (readGrant input.connectionId input.authority.membershipId)

/-- An immutable revision is recorded. -/
def insertRevision (articleId : String) (revision : Nat) (operation : String) :
    Statement AnalysisAbort AnalysisStore Unit
  | none, store => .ok store
  | some _, store =>
    if store.hasRevision articleId revision then
      .error (.constraint "workspace_analysis_article_revision_unique_idx")
    else .ok { store with revisions := store.revisions ++ [⟨articleId, revision, operation⟩] }

/-- An editor may save an article on this connection. -/
def createArticleScope (input : ArticleInput) (store : AnalysisStore) : Option Unit :=
  if (store.actor input.authority editorRoles).isSome && store.articleConnections input = 1 then
    some ()
  else none

/-- The new article. -/
def insertArticle (input : ArticleInput) : Statement AnalysisAbort AnalysisStore Unit
  | none, store => .ok store
  | some _, store =>
    if store.articles.any fun article => article.id = input.id then
      .error (.constraint "PRIMARY KEY")
    else .ok { store with articles := store.articles ++ [{
      id := input.id
      projectEnvironmentId := input.projectEnvironmentId
      environmentRevision := input.environmentRevision
      connectionId := input.connectionId
      connectionRevision := input.connectionRevision
      definition := input.definition
      ownerMemberId := input.authority.membershipId
      updatedByMemberId := input.authority.membershipId
      updatedAt := store.now }] }

/-- `commitAnalysisArticleCreate`. -/
def commitAnalysisArticleCreate (store : AnalysisStore) (input : ArticleInput) :
    Except AnalysisAbort (AnalysisStore × Option Unit) :=
  runBatch (createArticleScope input)
    [insertArticle input, insertRevision input.id 1 "create"] store

/-- The operations of an article edit. -/
inductive ArticleOperation where
  | propose | update
  deriving DecidableEq, Repr

/-- The text of an operation. -/
def ArticleOperation.text : ArticleOperation → String
  | .propose => "propose"
  | .update => "update"

/-- The input of `commitAnalysisArticleMutation`. -/
structure ArticleMutation extends ArticleInput where
  expectedRevision : Nat
  ownerMemberId : String
  operation : ArticleOperation

/-- The article at the expected revision, in the hands of its owner or of an administrator. -/
def mayEdit (store : AnalysisStore) (authority : MemberAuthority) (articleId : String)
    (expectedRevision : Nat) (allows : AnalysisArticle → Bool) : Bool :=
  match store.actor authority editorRoles, store.findArticle articleId with
  | some actor, some article =>
    (article.ownerMemberId = actor.id || decide (actor.role ∈ managerRoles)) &&
      article.revision = expectedRevision && article.deletedAt.isNone && allows article
  | _, _ => false

/-- An edit at the expected revision by someone who may make it. -/
def mutateArticleScope (input : ArticleMutation) (store : AnalysisStore) : Option Unit :=
  let ownerMayOwn := store.facts.directory.members.any fun owner =>
    owner.id = input.ownerMemberId && decide (owner.role ∈ editorRoles) && owner.unrevoked
  if ownerMayOwn && store.mayEdit input.authority input.id input.expectedRevision (fun article =>
      article.projectEnvironmentId = input.projectEnvironmentId) &&
      store.articleConnections input.toArticleInput = 1 then
    some ()
  else none

/-- Every article with an id is replaced. -/
def updateArticle (store : AnalysisStore) (id : String)
    (change : AnalysisArticle → AnalysisArticle) : AnalysisStore :=
  { store with
    articles := store.articles.map fun article => if article.id = id then change article else article }

/-- The edit, which forgets the latest success. -/
def mutateArticle (input : ArticleMutation) : Statement AnalysisAbort AnalysisStore Unit
  | none, store => .ok store
  | some _, store => .ok (store.updateArticle input.id fun article =>
      { article with
        projectEnvironmentId := input.projectEnvironmentId
        environmentRevision := input.environmentRevision
        connectionId := input.connectionId
        connectionRevision := input.connectionRevision
        definition := input.definition
        ownerMemberId := input.ownerMemberId
        updatedByMemberId := input.authority.membershipId
        revision := article.revision + 1
        updatedAt := store.now
        latestSuccessfulRunId := none
        deletedAt := none })

/-- `commitAnalysisArticleMutation`. -/
def commitAnalysisArticleMutation (store : AnalysisStore) (input : ArticleMutation) :
    Except AnalysisAbort (AnalysisStore × Option Unit) :=
  runBatch (mutateArticleScope input)
    [mutateArticle input,
      insertRevision input.id (input.expectedRevision + 1) input.operation.text] store

/-- The input of `commitAnalysisArticleDelete`. -/
structure ArticleDeletion extends ArticleInput where
  expectedRevision : Nat
  ownerMemberId : String

/-- A deletion at the expected revision by someone who may make it. -/
def deleteArticleScope (input : ArticleDeletion) (store : AnalysisStore) : Option Unit :=
  if store.mayEdit input.authority input.id input.expectedRevision (fun article =>
      article.projectEnvironmentId = input.projectEnvironmentId &&
        article.environmentRevision = input.environmentRevision &&
        article.ownerMemberId = input.ownerMemberId) then
    some ()
  else none

/-- The deletion, which forgets the latest success. -/
def deleteArticle (input : ArticleDeletion) : Statement AnalysisAbort AnalysisStore Unit
  | none, store => .ok store
  | some _, store => .ok (store.updateArticle input.id fun article =>
      { article with
        updatedByMemberId := input.authority.membershipId
        revision := article.revision + 1
        latestSuccessfulRunId := none
        deletedAt := some store.now
        updatedAt := store.now })

/-- `commitAnalysisArticleDelete`. -/
def commitAnalysisArticleDelete (store : AnalysisStore) (input : ArticleDeletion) :
    Except AnalysisAbort (AnalysisStore × Option Unit) :=
  runBatch (deleteArticleScope input)
    [deleteArticle input, insertRevision input.id (input.expectedRevision + 1) "delete"] store

end AnalysisStore

/-! ## Runs of the store -/

open AnalysisStore in
/-- What happens to the tables: one batch, any change of the facts, and the clock. -/
inductive AnalysisEvent where
  | create (input : RunCreation)
  | cancel (input : RunCancellation)
  | complete (input : RunCompletion)
  | register (input : RunnerRegistration)
  | revokeRunner (input : RunnerRevocation)
  | removeMember (input : MemberRemoval)
  | createArticle (input : ArticleInput)
  | mutateArticle (input : ArticleMutation)
  | deleteArticle (input : ArticleDeletion)
  | change (facts : AnalysisFacts)
  | tick (milliseconds : Nat)

/-- The tables after an event. -/
def analysisStep (collation : Collation) (store : AnalysisStore) : AnalysisEvent → AnalysisStore
  | .create input => committed store (store.commitAnalysisRunCreate input)
  | .cancel input => committed store (store.requestAnalysisRunCancellation input)
  | .complete input => committed store (store.commitAnalysisRunCompletion collation input)
  | .register input => committed store (store.registerAnalysisRunner input)
  | .revokeRunner input => committed store (store.revokeAnalysisRunner input)
  | .removeMember input => committed store (store.removeMemberAfterAnalysisRunnerCleanup input)
  | .createArticle input => committed store (store.commitAnalysisArticleCreate input)
  | .mutateArticle input => committed store (store.commitAnalysisArticleMutation input)
  | .deleteArticle input => committed store (store.commitAnalysisArticleDelete input)
  | .change facts => { store with facts := facts }
  | .tick milliseconds => { store with now := store.now + milliseconds }

end Dopedb.Cloud
