import Mathlib.Data.List.Sort
import Mathlib.Data.List.Perm.Basic
import Dopedb.Desktop.JavaScript

/-!
# Rules of direct shared databases

`workspace-direct-access-core.ts`: the states of a principal, the shape of a public verifier, and
the level a member should hold. Roles and capabilities are texts as the tables store them, and
unknown ones grant nothing.
-/

namespace Dopedb.Cloud

/-- The engines with direct principals. -/
inductive DirectEngine where
  | postgres | mysql
  deriving DecidableEq, Repr

/-- The kinds of verifiers. -/
inductive DirectVerifierKind where
  | scramSha256 | cachingSha2
  deriving DecidableEq, Repr

/-- The levels of access. -/
inductive DirectLevel where
  | none | read | write
  deriving DecidableEq, Repr

/-- The states of a principal. -/
inductive DirectPrincipalState where
  | requested | applying | ready | failed | dropPending | dropped
  deriving DecidableEq, Repr

/-- Why a receipt failed. -/
inductive DirectFailureCode where
  | markerMismatch | oidMismatch | ownsObjects | unexpectedMembership | grantorInsufficient
  | versionUnsupported | endpointChanged | permissionDenied | network | nameConflict
  | credentialMissing
  deriving DecidableEq, Repr

/-- How long a claim is live. -/
def DIRECT_CLAIM_LEASE_SECONDS : Nat := 120

/-- The verifier kind of an engine. -/
def verifierKindForEngine : DirectEngine → DirectVerifierKind
  | .postgres => .scramSha256
  | .mysql => .cachingSha2

/-! ## Verifiers -/

/-- A character of base64. -/
def isBase64 (c : Char) : Bool := c.isAlphanum || c = '+' || c = '/'

/-- A character of the crypt alphabet. -/
def isCrypt (c : Char) : Bool := c.isAlphanum || c = '.' || c = '/'

/-- A text of one character class at each position. -/
def matchesClasses : List (Char → Bool) → List Char → Bool
  | [], [] => true
  | allowed :: classes, c :: text => allowed c && matchesClasses classes text
  | _, _ => false

/-- A text that stands for itself. -/
def literally (text : String) : List (Char → Bool) :=
  text.toList.map fun expected c => decide (c = expected)

/-- One of the characters of a text. -/
def oneOf (text : String) (c : Char) : Bool := decide (c ∈ text.toList)

/-- `SCRAM_SHA_256`. -/
def scramSha256Classes : List (Char → Bool) :=
  literally "SCRAM-SHA-256$4096:" ++ List.replicate 21 isBase64 ++ [oneOf "AQgw"] ++
    literally "==$" ++ List.replicate 42 isBase64 ++ [oneOf "AEIMQUYcgkosw048"] ++
    literally "=:" ++ List.replicate 42 isBase64 ++ [oneOf "AEIMQUYcgkosw048"] ++ literally "="

/-- `CACHING_SHA2`. -/
def cachingSha2Classes : List (Char → Bool) :=
  literally "$A$005$" ++ List.replicate 63 isCrypt

/-- The verifier has the exact shape of its kind. -/
def isValidDirectVerifier (kind : DirectVerifierKind) (verifier : String) : Bool :=
  match kind with
  | .scramSha256 => matchesClasses scramSha256Classes verifier.toList
  | .cachingSha2 => matchesClasses cachingSha2Classes verifier.toList

/-! ## Levels -/

/-- The rank of a level. -/
def directLevelRank : DirectLevel → Nat
  | .none => 0
  | .read => 1
  | .write => 2

/-- A pending revocation caps the desired level at its target, and never raises it. -/
def capDirectLevel (level : DirectLevel) (cap : Option DirectLevel) : DirectLevel :=
  match cap with
  | none => level
  | some cap => if directLevelRank cap < directLevelRank level then cap else level

/-- The roles of a workspace. -/
inductive WorkspaceRoleName where
  | viewer | analyst | editor | admin | owner
  deriving DecidableEq, Repr

/-- The role that a stored text names. -/
def WorkspaceRoleName.parse : String → Option WorkspaceRoleName
  | "viewer" => some .viewer
  | "analyst" => some .analyst
  | "editor" => some .editor
  | "admin" => some .admin
  | "owner" => some .owner
  | _ => none

/-- The rank of a role. -/
def roleRank : WorkspaceRoleName → Nat
  | .viewer => 0
  | .analyst => 1
  | .editor => 2
  | .admin => 3
  | .owner => 4

/-- What a grant of a connection allows. -/
inductive WorkspaceConnectionCapability where
  | view | read | use | manage
  deriving DecidableEq, Repr

/-- The capability that a stored text names. -/
def WorkspaceConnectionCapability.parse : String → Option WorkspaceConnectionCapability
  | "view" => some .view
  | "read" => some .read
  | "use" => some .use
  | "manage" => some .manage
  | _ => none

/-- The effective access of a member to a connection. -/
inductive AccessMode where
  | view | read | write | manage
  deriving DecidableEq, Repr

/-- `accessModeForConnectionGrant`. -/
def accessModeForConnectionGrant (role : WorkspaceRoleName)
    (capability : WorkspaceConnectionCapability) : AccessMode :=
  if capability = .manage ∧ roleRank .admin ≤ roleRank role then .manage
  else if (capability = .use ∨ capability = .manage) ∧ roleRank .editor ≤ roleRank role then .write
  else if capability = .read ∨ capability = .use ∨ capability = .manage then .read
  else .view

/-- `accessModeAllowsWrite`. -/
def accessModeAllowsWrite (mode : AccessMode) : Bool := mode = .write ∨ mode = .manage

/-- `directDesiredLevel`. -/
def directDesiredLevel (role capability : String)
    (writeCeiling memberPresent revocationPending connectionDeleted : Bool) : DirectLevel :=
  if memberPresent = false ∨ revocationPending ∨ connectionDeleted then .none
  else
    match WorkspaceRoleName.parse role, WorkspaceConnectionCapability.parse capability with
    | some role, some capability =>
      let accessMode := accessModeForConnectionGrant role capability
      if accessMode = .view then .none
      else if accessModeAllowsWrite accessMode ∧ writeCeiling then .write
      else .read
    | _, _ => .none

/-! ## Transitions -/

/-- `DIRECT_PRINCIPAL_TRANSITIONS`, which the trigger of the table repeats. -/
def DIRECT_PRINCIPAL_TRANSITIONS : DirectPrincipalState → List DirectPrincipalState
  | .requested => [.applying, .dropPending, .dropped]
  | .applying => [.ready, .failed, .requested, .dropPending]
  | .ready => [.applying, .requested, .dropPending]
  | .failed => [.requested, .applying, .dropPending, .dropped]
  | .dropPending => [.dropped, .failed]
  | .dropped => []

/-- `isDirectTransitionAllowed`. -/
def isDirectTransitionAllowed (current next : DirectPrincipalState) : Bool :=
  current = next ∨ next ∈ DIRECT_PRINCIPAL_TRANSITIONS current

end Dopedb.Cloud
