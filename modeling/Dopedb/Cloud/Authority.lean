import Mathlib.Data.List.Basic

/-!
# Who may act in a workspace

`d1/member-authority.ts`: the sessions, members and lifecycle of one workspace, and the predicate
that every operation consumes in the batch that it authorizes. Instants are milliseconds. The rows
of other workspaces are left out, since each query names its organization.
-/

namespace Dopedb.Cloud

/-- A row of `session`. -/
structure SessionRow where
  id : String
  userId : String
  expiresAt : Nat
  deriving DecidableEq

/-- A row of `member`. -/
structure MemberRow where
  id : String
  userId : String
  role : String
  revocationPendingAt : Option Nat := none
  revocationClaimId : Option String := none
  deriving DecidableEq

/-- The sessions, the members and the `workspace_profile` of a workspace. -/
structure Directory where
  sessions : List SessionRow
  members : List MemberRow
  lifecycleState : String := "active"
  deriving DecidableEq

/-- What a request says about its actor. -/
structure MemberAuthority where
  sessionId : String
  userId : String
  membershipId : String
  role : String
  deriving DecidableEq

/-- All roles of a workspace. -/
def allRoles : List String := ["viewer", "analyst", "editor", "admin", "owner"]

/-- The roles that edit. -/
def editorRoles : List String := ["editor", "admin", "owner"]

/-- The roles that manage. -/
def managerRoles : List String := ["admin", "owner"]

/-- No removal of the member has begun. -/
def MemberRow.unrevoked (row : MemberRow) : Bool :=
  row.revocationPendingAt.isNone && row.revocationClaimId.isNone

namespace Directory

/-- The session of a user has not expired. -/
def liveSession (directory : Directory) (now : Nat) (sessionId userId : String) : Bool :=
  directory.sessions.any fun row =>
    row.id = sessionId && row.userId = userId && decide (now < row.expiresAt)

/-- The member with the exact identity and role of a request. -/
def liveMember (directory : Directory) (membershipId userId role : String)
    (roles : List String) : Option MemberRow :=
  directory.members.find? fun row =>
    row.id = membershipId && row.userId = userId && row.role = role && row.unrevoked &&
      decide (row.role ∈ roles)

/-- `workspaceMemberAuthority`. -/
def workspaceMemberAuthority (directory : Directory) (now : Nat) (authority : MemberAuthority)
    (roles : List String) : Option MemberRow :=
  if directory.lifecycleState = "active" &&
      directory.liveSession now authority.sessionId authority.userId then
    directory.liveMember authority.membershipId authority.userId authority.role roles
  else none

end Directory

end Dopedb.Cloud
