import Dopedb.Cloud.NeonObservations

/-!
# What the provider answers

The provider's own word about a started mutation, read from its replies apart from what the executions
make of them: whether the mutation is finished, was refused, left something else than was planned, is
underway, or is not known, and which resources the replies name. The adapter's readers and parsers
say what a reply holds. Read `answer_reflected` first: but for deletions that were not refused, an
observation reflects the answer. `observation_valid` says which observations can be recorded at all.
-/

namespace Dopedb.Cloud

open Library ProviderStore

/-- What the provider says of a started mutation. -/
inductive ProviderReport where
  | done
  | refused
  /-- What is there is not what was planned. -/
  | broken
  | underway
  /-- The replies leave open whether the mutation took place. -/
  | unclear
  deriving DecidableEq, Repr

/-- What an observation reports. -/
def ProviderStore.ReconciliationResult.report (result : ReconciliationResult) : ProviderReport :=
  match result.status with
  | .ready => .done
  | .conflict => .broken
  | .failed => if result.branchId.isNone then .refused else .broken
  | .pending => .underway
  | .missing => .unclear

/-- The reply to the mutation: the second one, where the first was that it may be tried again. -/
def NeonReplies.answer (replies : NeonReplies) : NeonResponse :=
  match replies.firstAttempt with
  | .received 423 _ => replies.secondAttempt
  | .received 503 _ => replies.secondAttempt
  | first => first

/-- The branches of the project with the planned name. -/
def BranchesNamed (replies : NeonReplies) (plan : NeonBranchCreatePlan) (found : List Json) : Prop :=
  ∃ rows, listNeonCollection
      (fun cursor => apiRequest (replies.get (.branches plan.projectId plan.targetName cursor)))
      "branches" "branch reconciliation" = .ok rows ∧
    (∀ row ∈ rows, ∃ name, requiredString (row.get? "name") "branch name" = .ok name) ∧
    found = rows.filter fun row => row.get? "name" = some (.str plan.targetName)

/-- A branch with its annotation. -/
structure BranchReply where
  branch : Json
  properties : Option Json

/-- The provider gives this branch. -/
def GivesBranch (replies : NeonReplies) (projectId branchId : String) (reply : BranchReply) : Prop :=
  ∃ value body, apiRequest (replies.get (.branch projectId branchId)) = .ok value ∧
    apiObject (some value) = .ok body ∧ apiObject (body.get? "branch") = .ok reply.branch ∧
    parseNeonBranchAnnotation (body.get? "annotation") branchId = .ok reply.properties

/-- The branch is the planned one, with the marks of the operation. -/
structure BranchReply.Planned (reply : BranchReply) (plan : NeonBranchCreatePlan)
    (planHash ownershipMarker branchId : String) : Prop where
  id : reply.branch.get? "id" = some (.str branchId)
  project : reply.branch.get? "project_id" = some (.str plan.projectId)
  name : reply.branch.get? "name" = some (.str plan.targetName)
  marks : ∀ mark ∈ [("dopedb-operation-id", plan.operationId), ("dopedb-plan-hash", planHash),
      ("dopedb-ownership", ownershipMarker)],
    (reply.properties.bind fun properties => properties.get? mark.1) = some (.str mark.2)

/-- Whether the planned branch is there. -/
inductive FindsBranch (replies : NeonReplies) (plan : NeonBranchCreatePlan)
    (planHash ownershipMarker : String) : OwnedBranch → Prop where
  | missing : BranchesNamed replies plan [] →
      FindsBranch replies plan planHash ownershipMarker .missing
  | several {first second others} : BranchesNamed replies plan (first :: second :: others) →
      FindsBranch replies plan planHash ownershipMarker (.conflict none)
  | foreign {row branchId reply} : BranchesNamed replies plan [row] →
      requiredString (row.get? "id") "branch id" = .ok branchId → isNeonIdentifier branchId = true →
      GivesBranch replies plan.projectId branchId reply →
      ¬reply.Planned plan planHash ownershipMarker branchId →
      FindsBranch replies plan planHash ownershipMarker (.conflict (some branchId))
  | owned {row branchId reply} : BranchesNamed replies plan [row] →
      requiredString (row.get? "id") "branch id" = .ok branchId → isNeonIdentifier branchId = true →
      GivesBranch replies plan.projectId branchId reply →
      reply.Planned plan planHash ownershipMarker branchId →
      FindsBranch replies plan planHash ownershipMarker (.owned branchId)

/-- The branches with the planned name are determined. -/
theorem BranchesNamed.unique {replies : NeonReplies} {plan : NeonBranchCreatePlan}
    {found found' : List Json} (h : BranchesNamed replies plan found)
    (h' : BranchesNamed replies plan found') : found = found' := by
  obtain ⟨rows, hrows, -, rfl⟩ := h
  obtain ⟨rows', hrows', -, rfl⟩ := h'
  obtain rfl := Except.ok.inj (hrows.symm.trans hrows')
  rfl

/-- The branch that the provider gives is determined. -/
theorem GivesBranch.unique {replies : NeonReplies} {projectId branchId : String}
    {reply reply' : BranchReply} (h : GivesBranch replies projectId branchId reply)
    (h' : GivesBranch replies projectId branchId reply') : reply = reply' := by
  obtain ⟨value, body, hvalue, hbody, hbranch, hproperties⟩ := h
  obtain ⟨value', body', hvalue', hbody', hbranch', hproperties'⟩ := h'
  obtain rfl := Except.ok.inj (hvalue.symm.trans hvalue')
  obtain rfl := Except.ok.inj (hbody.symm.trans hbody')
  obtain ⟨branch, properties⟩ := reply
  obtain ⟨branch', properties'⟩ := reply'
  obtain rfl : branch = branch' := Except.ok.inj (hbranch.symm.trans hbranch')
  obtain rfl : properties = properties' := Except.ok.inj (hproperties.symm.trans hproperties')
  rfl

/-- Whether the planned branch is there is determined. -/
theorem FindsBranch.unique {replies : NeonReplies} {plan : NeonBranchCreatePlan}
    {planHash ownershipMarker : String} {owned owned' : OwnedBranch}
    (h : FindsBranch replies plan planHash ownershipMarker owned)
    (h' : FindsBranch replies plan planHash ownershipMarker owned') : owned = owned' := by
  cases h with
  | missing hnamed =>
      cases h' with
      | missing => rfl
      | several hnamed' => cases hnamed.unique hnamed'
      | foreign hnamed' => cases hnamed.unique hnamed'
      | owned hnamed' => cases hnamed.unique hnamed'
  | several hnamed =>
      cases h' with
      | several => rfl
      | missing hnamed' => cases hnamed.unique hnamed'
      | foreign hnamed' => cases hnamed.unique hnamed'
      | owned hnamed' => cases hnamed.unique hnamed'
  | foreign hnamed hid hidentifier hgives hplanned =>
      cases h' with
      | missing hnamed' => cases hnamed.unique hnamed'
      | several hnamed' => cases hnamed.unique hnamed'
      | foreign hnamed' hid' =>
          cases hnamed.unique hnamed'
          cases hid.symm.trans hid'
          rfl
      | owned hnamed' hid' hidentifier' hgives' hplanned' =>
          cases hnamed.unique hnamed'
          cases hid.symm.trans hid'
          cases hgives.unique hgives'
          exact absurd hplanned' hplanned
  | owned hnamed hid hidentifier hgives hplanned =>
      cases h' with
      | missing hnamed' => cases hnamed.unique hnamed'
      | several hnamed' => cases hnamed.unique hnamed'
      | foreign hnamed' hid' hidentifier' hgives' hplanned' =>
          cases hnamed.unique hnamed'
          cases hid.symm.trans hid'
          cases hgives.unique hgives'
          exact absurd hplanned hplanned'
      | owned hnamed' hid' =>
          cases hnamed.unique hnamed'
          cases hid.symm.trans hid'
          rfl

/-- What the provider says of a branch that is the planned one. -/
structure BranchReading where
  inventory : List NeonBranchInventoryItem
  endpoints : List ParsedNeonBranchEndpoint
  operation : Option ParsedNeonBranchOperation
  databases : Option (List NeonDatabase)

/-- The replies say this of the branch. -/
structure ReadsBranch (replies : NeonReplies) (projectId branchId : String)
    (asked : Option String) (reading : BranchReading) : Prop where
  inventory : replies.inventory = .ok reading.inventory
  endpoints : ∃ value body, apiRequest (replies.get (.endpoints projectId branchId)) = .ok value ∧
    apiObject (some value) = .ok body ∧
    parseNeonBranchEndpoints (body.get? "endpoints") branchId = .ok reading.endpoints
  operation : asked.mapM (projectOperation replies projectId) = .ok reading.operation
  databases : (∃ found, listNeonDatabases replies projectId branchId = .ok found ∧
      reading.databases = some found) ∨
    ∃ error, listNeonDatabases replies projectId branchId = .error error ∧
      error.status ∈ [404, 409, 423] ∧ reading.databases = none

namespace BranchReading

variable (reading : BranchReading)

/-- The operation that the replies name. -/
def operationId (asked : Option String) : Option String :=
  (reading.operation.map (·.id)).or asked

/-- The only endpoint, where it is the one that was planned. -/
def endpointId (planned : NeonTargetEndpoint) : Option String :=
  match planned, reading.endpoints with
  | .readWrite, [endpoint] =>
    if endpoint.readWrite && !endpoint.disabled then some endpoint.id else none
  | _, _ => none

/-- The endpoints are those that were planned. -/
def EndpointsPlanned : NeonTargetEndpoint → Prop
  | .none => reading.endpoints = []
  | .readWrite => (reading.endpointId .readWrite).isSome = true

/-- The branch is ready, with its endpoints and these databases, and the operation has finished. -/
structure Finished (plan : NeonBranchCreatePlan) (branchId : String)
    (databases : List NeonDatabase) : Prop where
  branch : ∃ branch, (reading.inventory.filter fun branch => branch.id = branchId) = [branch] ∧
    branch.currentState = .ready ∧ branch.pendingState = none ∧ branch.ready = true
  endpoints : reading.EndpointsPlanned plan.endpoint
  found : reading.databases = some databases
  someDatabase : databases ≠ []
  operation : ∀ operation, reading.operation = some operation → operation.status = "finished"

end BranchReading

/-- What the provider says of a branch is determined. -/
theorem ReadsBranch.unique {replies : NeonReplies} {projectId branchId : String}
    {asked : Option String} {reading reading' : BranchReading}
    (h : ReadsBranch replies projectId branchId asked reading)
    (h' : ReadsBranch replies projectId branchId asked reading') : reading = reading' := by
  obtain ⟨hinventory, ⟨value, body, hvalue, hbody, hendpoints⟩, hoperation, hdatabases⟩ := h
  obtain ⟨hinventory', ⟨value', body', hvalue', hbody', hendpoints'⟩, hoperation', hdatabases'⟩ := h'
  obtain rfl := Except.ok.inj (hvalue.symm.trans hvalue')
  obtain rfl := Except.ok.inj (hbody.symm.trans hbody')
  obtain ⟨inventory, endpoints, operation, databases⟩ := reading
  obtain ⟨inventory', endpoints', operation', databases'⟩ := reading'
  obtain rfl : inventory = inventory' := Except.ok.inj (hinventory.symm.trans hinventory')
  obtain rfl : endpoints = endpoints' := Except.ok.inj (hendpoints.symm.trans hendpoints')
  obtain rfl : operation = operation' := Except.ok.inj (hoperation.symm.trans hoperation')
  have hsame : databases = databases' := by
    obtain ⟨found, hfound, rfl⟩ | ⟨error, herror, -, rfl⟩ := hdatabases
    · obtain ⟨found', hfound', rfl⟩ | ⟨error', herror', -, rfl⟩ := hdatabases'
      · rw [Except.ok.inj (hfound.symm.trans hfound')]
      · cases hfound.symm.trans herror'
    · obtain ⟨found', hfound', rfl⟩ | ⟨error', herror', -, rfl⟩ := hdatabases'
      · cases herror.symm.trans hfound'
      · rfl
  rw [hsame]

/-- What the executions establish of an owned branch is what the provider says of it. -/
def BranchReading.facts (reading : BranchReading) (planned : NeonTargetEndpoint)
    (branchId : String) : BranchFacts where
  branchId
  inventory := reading.inventory
  endpoint := endpointSet planned reading.endpoints
  operation := reading.operation
  databases := reading.databases

/-- The databases of a finished branch are observed by their fingerprint. -/
theorem BranchReading.Finished.fingerprint {reading : BranchReading} {plan : NeonBranchCreatePlan}
    {branchId : String} {databases : List NeonDatabase}
    (h : reading.Finished plan branchId databases) :
    reading.databases.map neonBranchDatabaseFingerprint =
      some (neonBranchDatabaseFingerprint databases) := by
  rw [h.found]
  rfl

end Dopedb.Cloud
