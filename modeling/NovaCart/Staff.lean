import NovaCart.Accounts

/-! Staff roles and permissions (`RoleService`, `AccessService`, `RoleRepository`, and the role and
    activation changes of `UserService`), under READ COMMITTED.

    Each request is one transaction with a session of its own. A row that the session has loaded and still
    refers to keeps the attributes it was loaded with, whatever a later SELECT returns for it. The roles a
    request has seen are such rows, as `AccessService` caches them; the actor's own assignment is one only
    while something refers to it, so each request says whether it does. -/

namespace NovaCart

open Schemes
open Keyed (key)

inductive Permission
  | reportsRead | auditRead | catalogueRead | catalogueWrite | inventoryAdjust | reviewsModerate
  | customersRead | customersManage | ordersRead | ordersManage | returnsRead | returnsManage
  | refundsIssue | paymentsRead | paymentsManage | paymentsCredentials | paymentsLive
  | taxRead | taxConfigure | storeConfigure | couponsManage | emailConfigure
  | contentEdit | contentPublish | rolesManage
  deriving DecidableEq, Repr

/-- `IMPLIES`. -/
def Permission.implies : Permission → List Permission
  | .catalogueWrite | .inventoryAdjust => [.catalogueRead]
  | .customersManage => [.customersRead]
  | .ordersManage => [.ordersRead]
  | .returnsManage => [.returnsRead, .ordersRead]
  | .refundsIssue => [.ordersRead, .returnsRead, .paymentsRead]
  | .paymentsManage | .paymentsCredentials | .paymentsLive => [.paymentsRead]
  | .taxConfigure => [.taxRead]
  | .contentPublish => [.contentEdit]
  | _ => []

def effective (granted : List Permission) : List Permission := granted ++ granted.flatMap Permission.implies

/-- A role; its stored permissions are those the code still knows. -/
structure StaffRole where
  id : Id
  permissions : List Permission
  isSystem : Bool
  deriving DecidableEq, Repr

structure StaffRoleAssignment where
  userId : Id
  roleId : Id
  deriving DecidableEq, Repr

instance : Keyed StaffRole Id := ⟨StaffRole.id⟩
instance : Keyed StaffRoleAssignment Id := ⟨StaffRoleAssignment.userId⟩

def ownerRoleId : Id := 1
def noAccessRoleId : Id := 2

/-- `role_permissions` holds the permission: an administrator without a role and the Owner hold every one. -/
def grants (role : Option StaffRole) (p : Permission) : Bool :=
  match role with
  | none => true
  | some r => r.id = ownerRoleId || p ∈ effective r.permissions

/-- An assigned role cannot be deleted (ON DELETE RESTRICT), and the system roles are there: the migration
    makes them, so `ensure_system_roles` finds them, and no request may edit or delete them. -/
def StaffSchema (roles : Table StaffRole) (assignments : Table StaffRoleAssignment) : Prop :=
  (∀ a ∈ assignments.rows, (roles.get? a.roleId).isSome) ∧
    ∀ id ∈ [ownerRoleId, noAccessRoleId], (roles.get? id).isSome

instance (roles : Table StaffRole) (assignments : Table StaffRoleAssignment) :
    Decidable (StaffSchema roles assignments) := inferInstanceAs (Decidable (_ ∧ _))

/-- The committed tables. -/
structure StaffDb where
  users : Table User
  roles : Table StaffRole
  assignments : Table StaffRoleAssignment
  schema : StaffSchema roles assignments

namespace StaffDb

/-- A statement goes through if it keeps the schema. -/
def put (users : Table User) (roles : Table StaffRole) (assignments : Table StaffRoleAssignment) : Option StaffDb :=
  if h : StaffSchema roles assignments then some ⟨users, roles, assignments, h⟩ else none

def isActiveAdmin (db : StaffDb) (userId : Id) : Bool :=
  (db.users.get? userId).any fun u => u.role = .admin && u.isActive

def activeAdmins (db : StaffDb) : List Id :=
  (db.users.rows.filter fun u => u.role = .admin && u.isActive).map User.id

/-- The role of an assignment. -/
def roleOf (db : StaffDb) (a : Option StaffRoleAssignment) : Option StaffRole := a.bind fun a => db.roles.get? a.roleId

/-- The user may manage roles, as the committed rows have it. -/
def managesRoles (db : StaffDb) (userId : Id) : Bool := grants (db.roleOf (db.assignments.get? userId)) .rolesManage

/-- `set_assignment`, with the assignment row of the user that the session holds. -/
def setAssignment (db : StaffDb) (userId roleId : Id) (held : Option StaffRoleAssignment) : Option StaffDb :=
  match db.assignments.get? userId with
  | none =>
    match held with
    -- the row was deleted under the session
    | some _ => none
    | none => (db.assignments.insert? ⟨userId, roleId⟩).bind (put db.users db.roles)
  | some row =>
    -- no UPDATE when the session believes that nothing changes
    if (held.getD row).roleId = roleId then some db
    else put db.users db.roles (db.assignments.replace { row with roleId := roleId })

/-- `remove_assignment`. -/
def removeAssignment (db : StaffDb) (userId : Id) : Option StaffDb :=
  put db.users db.roles (db.assignments.erase userId)

/-- The UPDATE of one user. -/
def updateUser (db : StaffDb) (userId : Id) (f : User → User) : Option StaffDb :=
  (db.users.get? userId).map fun row => { db with users := db.users.replace (f row) }

end StaffDb

/-! ### Requests -/

inductive StaffOp
  /-- `assign_role` -/
  | assignRole (userId roleId : Id)
  /-- `update_role` with new permissions -/
  | updateRole (roleId : Id) (permissions : List Permission)
  /-- `delete_role` -/
  | deleteRole (roleId : Id)
  /-- `PATCH /users/{id}` with a role -/
  | changeRole (userId : Id) (role : UserRole)
  /-- `DELETE /users/{id}` -/
  | deactivateUser (userId : Id)
  deriving DecidableEq, Repr

/-- What the endpoint asks of an administrator. -/
def StaffOp.required (actor : User) : StaffOp → List Permission
  | .assignRole .. | .updateRole .. | .deleteRole _ => [.rolesManage]
  | .changeRole userId _ => (if userId = actor.id then [] else [.customersManage]) ++ [.rolesManage]
  | .deactivateUser userId => if actor.role = .admin ∧ userId ≠ actor.id then [.customersManage] else []

/-- Who is not an administrator may only deactivate the own account. -/
def StaffOp.open (actor : User) : StaffOp → Bool
  | .deactivateUser userId => actor.role = .admin || userId = actor.id
  | _ => actor.role = .admin

/-- The role whose row is locked for the whole transaction. -/
def StaffOp.lockedRole : StaffOp → Option Id
  | .updateRole roleId _ => some roleId
  | .deleteRole roleId => some roleId
  | _ => none

inductive StaffPhase
  /-- the actor was authorised -/
  | authorised
  /-- the rows the operation is about were read -/
  | loaded
  /-- waits for the locks on the administrators its statement picked -/
  | waiting (admins : List Id)
  /-- has locked these administrators, and passed the check -/
  | cleared (admins : List Id)
  deriving DecidableEq, Repr

/-- A request and the rows its session holds. -/
structure StaffSession where
  id : Nat
  actor : User
  op : StaffOp
  roles : List StaffRole
  assignments : List StaffRoleAssignment
  /-- the user to change, as read -/
  target : Option User
  phase : StaffPhase

instance : Keyed StaffSession Nat := ⟨StaffSession.id⟩

namespace StaffSession

/-- The role a SELECT gives the session: the one it holds, if it holds one. -/
def readRole (s : StaffSession) (roles : Table StaffRole) (roleId : Id) : Option StaffRole :=
  (roles.get? roleId).map fun r => (s.roles.find? fun h => h.id = roleId).getD r

def heldAssignment (s : StaffSession) (userId : Id) : Option StaffRoleAssignment :=
  s.assignments.find? fun a => a.userId = userId

def readAssignment (s : StaffSession) (db : StaffDb) (userId : Id) : Option StaffRoleAssignment :=
  (db.assignments.get? userId).map fun a => (s.heldAssignment userId).getD a

/-- The role of a user, as the session sees it. -/
def roleOf (s : StaffSession) (db : StaffDb) (userId : Id) : Option StaffRole :=
  (s.readAssignment db userId).bind fun a => (s.roles.find? fun h => h.id = a.roleId).or (db.roles.get? a.roleId)

end StaffSession

/-- What `assert_role_manager_remains` is asked about. -/
inductive StaffChange
  | leaves (userId : Id)
  | assigned (userId : Id) (role : StaffRole)
  | edited (roleId : Id) (permissions : List Permission)
  deriving DecidableEq, Repr

/-- The change that must be checked first, if any. -/
def StaffSession.change (s : StaffSession) : Option StaffChange :=
  match s.op with
  | .assignRole userId roleId => (s.roles.find? fun r => r.id = roleId).map (.assigned userId)
  | .updateRole roleId permissions => if .rolesManage ∈ permissions then none else some (.edited roleId permissions)
  | .deleteRole _ => none
  | .changeRole userId role => if role = .user ∧ s.target.any (fun u => u.role = .admin) then some (.leaves userId) else none
  | .deactivateUser userId =>
    if s.target.any (fun u => u.role = .admin && u.isActive) then some (.leaves userId) else none

/-- One administrator in `assert_role_manager_remains`. -/
def StaffSession.remains (s : StaffSession) (db : StaffDb) (change : StaffChange) (userId : Id) : Bool :=
  match change with
  | .leaves leaver => userId ≠ leaver && grants (s.roleOf db userId) .rolesManage
  | .assigned target role =>
    if userId = target then grants (some role) .rolesManage else grants (s.roleOf db userId) .rolesManage
  | .edited roleId permissions =>
    match s.roleOf db userId with
    | none => true
    | some r =>
      if r.id = roleId ∧ r.isSystem = false then .rolesManage ∈ effective permissions
      else grants (some r) .rolesManage

/-- `assert_role_manager_remains`, and for someone who leaves `_assert_not_last_admin`. -/
def StaffSession.passes (s : StaffSession) (db : StaffDb) (change : StaffChange) (admins : List Id) : Bool :=
  admins.any (s.remains db change) &&
    match change with
    | .leaves userId => admins.any (· ≠ userId) || !s.target.any (fun u => u.isActive)
    | _ => true

/-- The writes of the operation; an attribute the session believes unchanged is not written. -/
def StaffSession.write (s : StaffSession) (db : StaffDb) : Option StaffDb :=
  match s.op with
  | .assignRole userId roleId => db.setAssignment userId roleId (s.heldAssignment userId)
  | .updateRole roleId permissions => do
    let row ← db.roles.get? roleId
    let known ← s.roles.find? fun r => r.id = roleId
    if known.permissions = permissions then some db
    else StaffDb.put db.users (db.roles.replace { row with permissions := permissions }) db.assignments
  | .deleteRole roleId => StaffDb.put db.users (db.roles.erase roleId) db.assignments
  | .changeRole userId role => do
    let known ← s.target
    if known.role = role then some db
    else
      let db ← db.updateUser userId fun u => { u with role := role }
      match role with
      | .user => db.removeAssignment userId
      | .admin => db.setAssignment userId noAccessRoleId (s.heldAssignment userId)
  | .deactivateUser userId => do
    let known ← s.target
    if known.isActive then db.updateUser userId fun u => { u with isActive := false } else some db

/-- The user whose row the write updates. -/
def StaffSession.updatedUser (s : StaffSession) : Option Id :=
  match s.op with
  | .changeRole userId role => if s.target.any (fun u => u.role ≠ role) then some userId else none
  | .deactivateUser userId => if s.target.any (fun u => u.isActive) then some userId else none
  | _ => none

/-! ### Histories -/

structure StaffSys where
  db : StaffDb
  sessions : Table StaffSession
  next : Nat

def StaffPhase.locks : StaffPhase → List Id
  | .cleared admins => admins
  | _ => []

namespace StaffSys

/-- Another request holds the lock on the user's row. -/
def userLocked (s : StaffSys) (id : Nat) (userId : Id) : Bool :=
  s.sessions.rows.any fun o => o.id ≠ id && userId ∈ o.phase.locks

/-- Another request holds the lock on the role's row. -/
def roleLocked (s : StaffSys) (id : Nat) (roleId : Id) : Bool :=
  s.sessions.rows.any fun o => o.id ≠ id && o.op.lockedRole = some roleId && o.phase ≠ .authorised

def update (s : StaffSys) (session : StaffSession) : StaffSys := { s with sessions := s.sessions.replace session }

def finish (s : StaffSys) (id : Nat) (db : StaffDb) : StaffSys := { s with db := db, sessions := s.sessions.erase id }

end StaffSys

inductive StaffLabel
  /-- the request is authorised; `keeps` says whether the actor's assignment row stays referred to -/
  | begin (actorId : Id) (op : StaffOp) (keeps : Bool)
  | load (id : Nat)
  /-- `lock_active_admins` picks its rows and waits for them -/
  | lock (id : Nat)
  /-- it has them, and the check is made -/
  | check (id : Nat)
  | commit (id : Nat)
  | drop (id : Nat)
  deriving DecidableEq, Repr

/-- The session of an authorised request. -/
def StaffDb.authorise (db : StaffDb) (id : Nat) (actorId : Id) (op : StaffOp) (keeps : Bool) : Option StaffSession := do
  let actor ← db.users.get? actorId
  let assignment := db.assignments.get? actorId
  let role := db.roleOf assignment
  let required := op.required actor
  if actor.isActive && op.open actor && required.all (grants role) then
    some {
      id := id, actor := actor, op := op, target := none, phase := .authorised
      roles := if required = [] then [] else role.toList
      assignments := if keeps && required ≠ [] then assignment.toList else [] }
  else none

/-- `db.get`: a user that the session has loaded already is not read again. -/
def StaffSession.readUser (s : StaffSession) (db : StaffDb) (userId : Id) : Option User :=
  if userId = s.actor.id then some s.actor else db.users.get? userId

/-- The reads of an operation before its check. -/
def StaffSession.load (s : StaffSession) (db : StaffDb) : Option StaffSession :=
  match s.op with
  | .assignRole userId roleId => do
    let role ← s.readRole db.roles roleId
    if db.isActiveAdmin userId then
      some { s with
        roles := role :: (s.roleOf db userId).toList ++ s.roles
        assignments := (s.readAssignment db userId).toList ++ s.assignments
        phase := .loaded }
    else none
  | .updateRole roleId _ | .deleteRole roleId => do
    let role ← s.readRole db.roles roleId
    if role.isSystem then none else some { s with roles := role :: s.roles, phase := .loaded }
  | .changeRole userId _ | .deactivateUser userId => do
    let target ← s.readUser db userId
    some { s with target := some target, phase := .loaded }

def staffStep (s : StaffSys) : StaffLabel → Option StaffSys
  | .begin actorId op keeps => do
    let session ← s.db.authorise s.next actorId op keeps
    let sessions ← s.sessions.insert? session
    some { s with sessions := sessions, next := s.next + 1 }
  | .load id => do
    let session ← s.sessions.get? id
    if session.phase = .authorised && !session.op.lockedRole.any (s.roleLocked id) then
      (session.load s.db).map s.update
    else none
  | .lock id => do
    let session ← s.sessions.get? id
    if session.phase = .loaded && session.change.isSome then
      some (s.update { session with phase := .waiting s.db.activeAdmins })
    else none
  | .check id => do
    let session ← s.sessions.get? id
    match session.phase, session.change with
    | .waiting picked, some change =>
      let admins := picked.filter s.db.isActiveAdmin
      if admins.any (s.userLocked id) then none
      else if session.passes s.db change admins then some (s.update { session with phase := .cleared admins })
      else some (s.finish id s.db)
    | _, _ => none
  | .commit id => do
    let session ← s.sessions.get? id
    let ready := match session.phase with
      | .loaded => session.change.isNone
      | .cleared _ => true
      | _ => false
    -- an UPDATE waits for the row, and a reference to a role for the role's
    let waits := session.updatedUser.any (s.userLocked id) || match session.op with
      | .assignRole _ roleId => s.roleLocked id roleId
      | _ => false
    if ready && !waits then (session.write s.db).map (s.finish id) else none
  | .drop id => if (s.sessions.get? id).isSome then some (s.finish id s.db) else none

abbrev StaffRun (s₀ : StaffSys) (tr : List (Taken StaffSys StaffLabel)) (s : StaffSys) : Prop :=
  Exec staffStep s₀ tr s

end NovaCart
