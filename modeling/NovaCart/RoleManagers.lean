import NovaCart.Staff
import NovaCart.Schemes.Outcome

/-! The last role manager.

    A request that could take the right to manage roles from someone locks every active administrator and
    looks for one who keeps it. While it holds these locks no other such request is let through, and what
    the others change takes the right from nobody. The check is only as good as the rows it reads: it
    counts on roles and assignments that the session may have loaded before it waited. -/

namespace NovaCart

open Schemes Table
open Keyed (key)

variable {db db' : StaffDb} {m : Id}

/-! ### Role managers -/

/-- An active administrator who may manage roles, as the committed rows have it. -/
def StaffDb.Manager (db : StaffDb) (m : Id) : Prop := db.isActiveAdmin m = true ∧ db.managesRoles m = true

instance (db : StaffDb) (m : Id) : Decidable (db.Manager m) := inferInstanceAs (Decidable (_ ∧ _))

/-- The administrator is one after the change too. -/
def StaffChange.Survives (change : StaffChange) (db : StaffDb) (m : Id) : Prop :=
  db.isActiveAdmin m = true ∧
    match change with
    | .leaves userId => m ≠ userId ∧ db.managesRoles m = true
    | .assigned userId role =>
      if m = userId then ∀ r, db.roles.get? role.id = some r → grants (some r) .rolesManage = true
      else db.managesRoles m = true
    | .edited roleId _ =>
      (∀ a, db.assignments.get? m = some a → a.roleId ≠ roleId) ∧ db.managesRoles m = true

/-- No permission includes that to manage roles. -/
theorem rolesManage_mem_effective {ps : List Permission} : .rolesManage ∈ effective ps ↔ .rolesManage ∈ ps := by
  have hnone : ∀ p : Permission, .rolesManage ∉ p.implies := by
    intro p
    cases p <;> decide
  simp [effective, hnone]

theorem isActiveAdmin_congr (h : db'.users.get? m = db.users.get? m) : db'.isActiveAdmin m = db.isActiveAdmin m := by
  rw [StaffDb.isActiveAdmin, h]
  rfl

/-- Who keeps the assignment, and whose role keeps the right, keeps it. -/
theorem managesRoles_kept (ha : db'.assignments.get? m = db.assignments.get? m)
    (hr : ∀ a r, db.assignments.get? m = some a → db.roles.get? a.roleId = some r →
      grants (some r) .rolesManage = true → ∃ r', db'.roles.get? a.roleId = some r' ∧
        grants (some r') .rolesManage = true) (h : db.managesRoles m = true) : db'.managesRoles m = true := by
  unfold StaffDb.managesRoles StaffDb.roleOf at *
  rw [ha]
  cases hget : db.assignments.get? m with
  | none => rfl
  | some a =>
    rw [hget] at h
    obtain ⟨r, hrole⟩ := Option.isSome_iff_exists.mp (db.schema.1 a (mem_of_get? hget))
    simp only [Option.bind_some, hrole] at h
    obtain ⟨r', hr', hgrants⟩ := hr a r hget hrole h
    simpa only [Option.bind_some, hr'] using hgrants

/-- The same where no role is edited. -/
theorem managesRoles_congr (ha : db'.assignments.get? m = db.assignments.get? m)
    (hr : ∀ a, db.assignments.get? m = some a → db'.roles.get? a.roleId = db.roles.get? a.roleId)
    (h : db.managesRoles m = true) : db'.managesRoles m = true :=
  managesRoles_kept ha (fun a r hget hrole hgrants => ⟨r, by rw [hr a hget]; exact hrole, hgrants⟩) h

/-! ### Writes -/

theorem put_eq_some {users : Table User} {roles : Table StaffRole} {assignments : Table StaffRoleAssignment}
    (h : StaffDb.put users roles assignments = some db') :
    db'.users = users ∧ db'.roles = roles ∧ db'.assignments = assignments := by
  unfold StaffDb.put at h
  split at h
  · cases h
    exact ⟨rfl, rfl, rfl⟩
  · cases h

/-- `set_assignment` gives the user the role, or the session believed that it was so already. -/
theorem setAssignment_eq_some {userId roleId : Id} {held : Option StaffRoleAssignment}
    (h : db.setAssignment userId roleId held = some db') :
    db' = db ∨ (db'.users = db.users ∧ db'.roles = db.roles ∧
      db'.assignments.get? userId = some ⟨userId, roleId⟩ ∧
      ∀ m, m ≠ userId → db'.assignments.get? m = db.assignments.get? m) := by
  unfold StaffDb.setAssignment at h
  split at h
  · split at h
    · cases h
    · obtain ⟨assignments, hinsert, hput⟩ := Option.bind_eq_some_iff.mp h
      obtain ⟨husers, hroles, hassignments⟩ := put_eq_some hput
      refine .inr ⟨husers, hroles, ?_, fun m hne => ?_⟩
      · rw [hassignments, get?_insert? hinsert]
        exact if_pos rfl
      · rw [hassignments, get?_insert? hinsert]
        exact if_neg fun heq => hne heq.symm
  · rename_i row hget
    have hid : row.userId = userId := key_of_get? hget
    split at h
    · cases h
      exact .inl rfl
    · obtain ⟨husers, hroles, hassignments⟩ := put_eq_some h
      have hkey : key { row with roleId := roleId } = userId := hid
      refine .inr ⟨husers, hroles, ?_, fun m hne => ?_⟩
      · rw [hassignments, ← hkey, get?_replace_self (by rw [hkey]; exact hget)]
        rw [hkey, ← hid]
      · rw [hassignments, get?_replace_of_ne (by rw [hkey]; exact hne)]

theorem removeAssignment_eq_some {userId : Id} (h : db.removeAssignment userId = some db') :
    db'.users = db.users ∧ db'.roles = db.roles ∧
      ∀ m, m ≠ userId → db'.assignments.get? m = db.assignments.get? m := by
  obtain ⟨husers, hroles, hassignments⟩ := put_eq_some h
  refine ⟨husers, hroles, fun m hne => ?_⟩
  rw [hassignments, get?_erase, if_neg hne]

theorem updateUser_eq_some {userId : Id} {f : User → User} (hf : ∀ u, (f u).id = u.id)
    (h : db.updateUser userId f = some db') :
    db'.roles = db.roles ∧ db'.assignments = db.assignments ∧
      ∀ m, m ≠ userId → db'.users.get? m = db.users.get? m := by
  obtain ⟨row, hget, rfl⟩ := Option.map_eq_some_iff.mp h
  refine ⟨rfl, rfl, fun m hne => get?_replace_of_ne ?_⟩
  rw [show key (f row) = userId from (hf row).trans (key_of_get? hget)]
  exact hne

/-- A change of one user's role or activity is about that user alone. -/
theorem write_user {s : StaffSession} {userId : Id} (hop : (∃ role, s.op = .changeRole userId role) ∨
    s.op = .deactivateUser userId) (h : s.write db = some db') :
    db' = db ∨ (s.updatedUser = some userId ∧ db'.roles = db.roles ∧
      ∀ m, m ≠ userId → db'.users.get? m = db.users.get? m ∧
        db'.assignments.get? m = db.assignments.get? m) := by
  unfold StaffSession.write at h
  rcases hop with ⟨role, hop⟩ | hop
  · simp only [hop] at h
    obtain ⟨known, hknown, h⟩ := Option.bind_eq_some_iff.mp h
    split at h
    · cases h
      exact .inl rfl
    · rename_i hchange
      obtain ⟨db₁, hupdate, h⟩ := Option.bind_eq_some_iff.mp h
      obtain ⟨hroles, hassignments, hothers⟩ := updateUser_eq_some (f := fun u => { u with role := role })
        (fun _ => rfl) hupdate
      have hupdated : s.updatedUser = some userId := by simp [StaffSession.updatedUser, hop, hknown, hchange]
      refine .inr ⟨hupdated, ?_⟩
      cases role with
      | user =>
        obtain ⟨husers, hroles', hrest⟩ := removeAssignment_eq_some h
        refine ⟨hroles'.trans hroles, fun m hne => ⟨?_, ?_⟩⟩
        · rw [husers]
          exact hothers m hne
        · rw [hrest m hne, hassignments]
      | admin =>
        rcases setAssignment_eq_some h with rfl | ⟨husers, hroles', _, hrest⟩
        · exact ⟨hroles, fun m hne => ⟨hothers m hne, by rw [hassignments]⟩⟩
        · refine ⟨hroles'.trans hroles, fun m hne => ⟨?_, ?_⟩⟩
          · rw [husers]
            exact hothers m hne
          · rw [hrest m hne, hassignments]
  · simp only [hop] at h
    obtain ⟨known, hknown, h⟩ := Option.bind_eq_some_iff.mp h
    split at h
    · rename_i hactive
      obtain ⟨hroles, hassignments, hothers⟩ := updateUser_eq_some (f := fun u => { u with isActive := false })
        (fun _ => rfl) h
      have hupdated : s.updatedUser = some userId := by simp [StaffSession.updatedUser, hop, hknown, hactive]
      exact .inr ⟨hupdated, hroles, fun m hne => ⟨hothers m hne, by rw [hassignments]⟩⟩
    · cases h
      exact .inl rfl

/-- What a session has read by the time it writes: the role it assigns or edits. -/
def StaffSession.Loaded (s : StaffSession) : Prop :=
  match s.op with
  | .assignRole _ roleId => ∃ r, (s.roles.find? fun r => r.id = roleId) = some r
  | .updateRole roleId _ => ∃ r, (s.roles.find? fun r => r.id = roleId) = some r ∧ r.isSystem = false
  | _ => True

/-- A change of one user alone leaves the others managers. -/
theorem manager_of_user {userId : Id} (hroles : db'.roles = db.roles)
    (hothers : ∀ m, m ≠ userId → db'.users.get? m = db.users.get? m ∧
      db'.assignments.get? m = db.assignments.get? m) (hne : m ≠ userId) :
    (db.isActiveAdmin m = true → db'.isActiveAdmin m = true) ∧
      (db.managesRoles m = true → db'.managesRoles m = true) := by
  obtain ⟨huser, hassignment⟩ := hothers m hne
  refine ⟨fun h => by rw [isActiveAdmin_congr huser]; exact h, fun h => ?_⟩
  exact managesRoles_congr hassignment (fun a _ => by rw [hroles]) h

/-! ### Requests that are not checked -/

/-- A role keeps the right to manage roles for those who have it. -/
def RolesKept (db db' : StaffDb) : Prop :=
  db'.users = db.users ∧ db'.assignments = db.assignments ∧
    (∀ roleId r', db'.roles.get? roleId = some r' → ∃ r, db.roles.get? roleId = some r ∧
      (grants (some r) .rolesManage = true → grants (some r') .rolesManage = true))

theorem RolesKept.manages (h : RolesKept db db') (hm : db.managesRoles m = true) : db'.managesRoles m = true := by
  obtain ⟨_, hassignments, hroles⟩ := h
  refine managesRoles_kept (by rw [hassignments]) (fun a r hget hrole hgrants => ?_) hm
  obtain ⟨r', hr'⟩ := Option.isSome_iff_exists.mp
    (db'.schema.1 a (by rw [hassignments]; exact mem_of_get? hget))
  obtain ⟨r₀, hr₀, hkept⟩ := hroles a.roleId r' hr'
  rw [hrole] at hr₀
  cases hr₀
  exact ⟨r', hr', hkept hgrants⟩

theorem RolesKept.survives {change : StaffChange} (h : RolesKept db db') (hm : change.Survives db m) :
    change.Survives db' m := by
  obtain ⟨husers, hassignments, hroles⟩ := id h
  obtain ⟨hactive, hm⟩ := hm
  refine ⟨(isActiveAdmin_congr (by rw [husers])).trans hactive, ?_⟩
  cases change with
  | leaves userId => exact ⟨hm.1, h.manages hm.2⟩
  | assigned userId role =>
    by_cases heq : m = userId
    · simp only [heq, ↓reduceIte] at hm ⊢
      intro r' hr'
      obtain ⟨r, hr, hkept⟩ := hroles role.id r' hr'
      exact hkept (hm r hr)
    · simp only [heq, ↓reduceIte] at hm ⊢
      exact h.manages hm
  | edited roleId permissions => exact ⟨fun a ha => hm.1 a (by rw [← hassignments]; exact ha), h.manages hm.2⟩

/-- What a request that needs no check writes: one user who is not an active administrator, or a role
    that keeps the right. -/
theorem write_unchecked {s : StaffSession} (hloaded : s.Loaded) (hchange : s.change = none)
    (hupdated : ∀ u ∈ s.updatedUser, db.isActiveAdmin u = false) (h : s.write db = some db') :
    RolesKept db db' ∨ ∃ userId, db.isActiveAdmin userId = false ∧ db'.roles = db.roles ∧
      ∀ m, m ≠ userId → db'.users.get? m = db.users.get? m ∧
        db'.assignments.get? m = db.assignments.get? m := by
  have hsame : RolesKept db db := ⟨rfl, rfl, fun _ r hr => ⟨r, hr, id⟩⟩
  have huser : ∀ {userId}, ((∃ role, s.op = .changeRole userId role) ∨ s.op = .deactivateUser userId) →
      RolesKept db db' ∨ ∃ userId, db.isActiveAdmin userId = false ∧ db'.roles = db.roles ∧
        ∀ m, m ≠ userId → db'.users.get? m = db.users.get? m ∧
          db'.assignments.get? m = db.assignments.get? m := by
    intro userId hop
    rcases write_user hop h with rfl | ⟨hid, hrest⟩
    · exact .inl hsame
    · exact .inr ⟨userId, hupdated userId hid, hrest⟩
  cases hop : s.op with
  | assignRole userId roleId =>
    -- the role was read, so there is a change to check
    simp only [StaffSession.Loaded, hop] at hloaded
    obtain ⟨r, hr⟩ := hloaded
    simp [StaffSession.change, hop, hr] at hchange
  | updateRole roleId permissions =>
    have hmanage : .rolesManage ∈ permissions := by
      by_contra hno
      simp [StaffSession.change, hop, hno] at hchange
    simp only [StaffSession.write, hop] at h
    obtain ⟨row, hrow, h⟩ := Option.bind_eq_some_iff.mp h
    obtain ⟨known, _, h⟩ := Option.bind_eq_some_iff.mp h
    split at h
    · cases h
      exact .inl hsame
    · obtain ⟨husers, hroles, hassignments⟩ := put_eq_some h
      refine .inl ⟨husers, hassignments, fun id r' hr' => ?_⟩
      rw [hroles, get?_replace] at hr'
      split at hr'
      · obtain ⟨r, hr, rfl⟩ := Option.map_eq_some_iff.mp hr'
        refine ⟨r, hr, fun _ => ?_⟩
        simp [grants, rolesManage_mem_effective, hmanage]
      · exact ⟨r', hr', fun h => h⟩
  | deleteRole roleId =>
    simp only [StaffSession.write, hop] at h
    obtain ⟨husers, hroles, hassignments⟩ := put_eq_some h
    refine .inl ⟨husers, hassignments, fun id r' hr' => ⟨r', ?_, fun h => h⟩⟩
    rw [hroles, get?_erase] at hr'
    split at hr'
    · cases hr'
    · exact hr'
  | changeRole userId role => exact huser (.inl ⟨role, hop⟩)
  | deactivateUser userId => exact huser (.inr hop)

/-- Such a request takes the right to manage roles from nobody, and spoils no check made before. -/
theorem unchecked_keeps {s : StaffSession} (hloaded : s.Loaded) (hchange : s.change = none)
    (hupdated : ∀ u ∈ s.updatedUser, db.isActiveAdmin u = false) (h : s.write db = some db') :
    (∀ m, db.isActiveAdmin m = true → db'.isActiveAdmin m = true) ∧ (∀ m, db.Manager m → db'.Manager m) ∧
      ∀ (change : StaffChange) m, change.Survives db m → change.Survives db' m := by
  rcases write_unchecked hloaded hchange hupdated h with hkept | ⟨userId, hinactive, hroles, hothers⟩
  · have hactive : ∀ m, db'.isActiveAdmin m = db.isActiveAdmin m :=
      fun m => isActiveAdmin_congr (by rw [hkept.1])
    refine ⟨fun m hm => (hactive m).trans hm, fun m hm => ⟨(hactive m).trans hm.1, hkept.manages hm.2⟩,
      fun change m hm => hkept.survives hm⟩
  · -- an active administrator is not the user who changes
    have hne : ∀ m, db.isActiveAdmin m = true → m ≠ userId := by
      rintro m hm rfl
      rw [hinactive] at hm
      cases hm
    have hkeep := fun m hm => manager_of_user hroles hothers (hne m hm)
    refine ⟨fun m hm => (hkeep m hm).1 hm, fun m hm => ⟨(hkeep m hm.1).1 hm.1, (hkeep m hm.1).2 hm.2⟩, ?_⟩
    rintro change m ⟨hactive, hm⟩
    refine ⟨(hkeep m hactive).1 hactive, ?_⟩
    cases change with
    | leaves leaver => exact ⟨hm.1, (hkeep m hactive).2 hm.2⟩
    | assigned target role =>
      by_cases heq : m = target
      · simp only [heq, ↓reduceIte] at hm ⊢
        rw [hroles]
        exact hm
      · simp only [heq, ↓reduceIte] at hm ⊢
        exact (hkeep m hactive).2 hm
    | edited roleId permissions =>
      exact ⟨fun a ha => hm.1 a (by rw [← (hothers m (hne m hactive)).2]; exact ha), (hkeep m hactive).2 hm.2⟩

/-! ### Requests that were checked -/

/-- A change that someone survives leaves a manager when it is written. -/
theorem write_checked {s : StaffSession} {change : StaffChange} (hchange : s.change = some change)
    (hsurvives : change.Survives db m) (hm : ∃ m, db.Manager m) (h : s.write db = some db') :
    ∃ m, db'.Manager m := by
  have huser : ∀ {userId}, ((∃ role, s.op = .changeRole userId role) ∨ s.op = .deactivateUser userId) →
      change = .leaves userId → ∃ m, db'.Manager m := by
    intro userId hop hleaves
    subst hleaves
    obtain ⟨hactive, hne, hmanages⟩ := hsurvives
    rcases write_user hop h with rfl | ⟨_, hroles, hothers⟩
    · exact hm
    · obtain ⟨hkeep, hkeep'⟩ := manager_of_user hroles hothers hne
      exact ⟨m, hkeep hactive, hkeep' hmanages⟩
  cases hop : s.op with
  | assignRole userId roleId =>
    simp only [StaffSession.change, hop] at hchange
    obtain ⟨role, hrole, rfl⟩ := Option.map_eq_some_iff.mp hchange
    have hid : role.id = roleId := by simpa using List.find?_some hrole
    obtain ⟨hactive, hsurvives⟩ := hsurvives
    simp only [StaffSession.write, hop] at h
    rcases setAssignment_eq_some h with rfl | ⟨husers, hroles, hassigned, hothers⟩
    · exact hm
    · refine ⟨m, (isActiveAdmin_congr (by rw [husers])).trans hactive, ?_⟩
      by_cases heq : m = userId
      · simp only [heq, ↓reduceIte] at hsurvives
        rw [heq]
        obtain ⟨r, hr⟩ := Option.isSome_iff_exists.mp (db'.schema.1 _ (mem_of_get? hassigned))
        rw [StaffDb.managesRoles, StaffDb.roleOf, hassigned, Option.bind_some, hr]
        rw [hroles, ← hid] at hr
        exact hsurvives r hr
      · simp only [heq, ↓reduceIte] at hsurvives
        exact managesRoles_congr (hothers m heq) (fun a _ => by rw [hroles]) hsurvives
  | updateRole roleId permissions =>
    simp only [StaffSession.change, hop] at hchange
    split at hchange
    · cases hchange
    · cases hchange
      obtain ⟨hactive, hother, hmanages⟩ := hsurvives
      simp only [StaffSession.write, hop] at h
      obtain ⟨row, hrow, h⟩ := Option.bind_eq_some_iff.mp h
      obtain ⟨known, _, h⟩ := Option.bind_eq_some_iff.mp h
      split at h
      · cases h
        exact hm
      · obtain ⟨husers, hroles, hassignments⟩ := put_eq_some h
        have hid : row.id = roleId := key_of_get? hrow
        refine ⟨m, (isActiveAdmin_congr (by rw [husers])).trans hactive, ?_⟩
        refine managesRoles_congr (by rw [hassignments]) (fun a ha => ?_) hmanages
        rw [hroles]
        exact get?_replace_of_ne fun heq => hother a ha (heq.trans hid)
  | deleteRole roleId => simp [StaffSession.change, hop] at hchange
  | changeRole userId role =>
    simp only [StaffSession.change, hop] at hchange
    obtain ⟨_, heq⟩ := Option.ite_none_right_eq_some.mp hchange
    exact huser (.inl ⟨role, hop⟩) (Option.some.inj heq).symm
  | deactivateUser userId =>
    simp only [StaffSession.change, hop] at hchange
    obtain ⟨_, heq⟩ := Option.ite_none_right_eq_some.mp hchange
    exact huser (.inr hop) (Option.some.inj heq).symm

/-! ### The check -/

/-- The user an operation is about. -/
def StaffOp.subject : StaffOp → Option Id
  | .assignRole userId _ => some userId
  | .changeRole userId _ => some userId
  | .deactivateUser userId => some userId
  | _ => none

/-- What the session holds of others' rights is not out of date: a role it holds that grants the right still
    does, and the assignments of others than the user to change are as committed. -/
def StaffSession.Current (s : StaffSession) (db : StaffDb) : Prop :=
  (∀ r ∈ s.roles, grants (some r) .rolesManage = true →
    ∀ r' ∈ db.roles.get? r.id, grants (some r') .rolesManage = true) ∧
  ∀ a ∈ s.assignments, s.op.subject ≠ some a.userId → db.assignments.get? a.userId = some a

instance (s : StaffSession) (db : StaffDb) : Decidable (s.Current db) := inferInstanceAs (Decidable (_ ∧ _))

/-- The role of someone else's assignment, as such a session sees it. -/
theorem session_role {s : StaffSession} (hcurrent : s.Current db) (hne : s.op.subject ≠ some m)
    {a : StaffRoleAssignment} (ha : db.assignments.get? m = some a) :
    ∃ r, s.roleOf db m = some r ∧ r.id = a.roleId ∧
      (∀ k, (s.roles.find? fun h => h.id = a.roleId) = some k → k = r) ∧
      (grants (some r) .rolesManage = true → db.managesRoles m = true) := by
  have hread : s.readAssignment db m = some a := by
    unfold StaffSession.readAssignment
    rw [ha, Option.map_some]
    cases hheld : s.heldAssignment m with
    | none => rfl
    | some h =>
      have hid : h.userId = m := by simpa using List.find?_some hheld
      have hmem : h ∈ s.assignments := List.mem_of_find?_eq_some hheld
      have hsame := hcurrent.2 h hmem (by rw [hid]; exact hne)
      rw [hid, ha] at hsame
      exact congrArg some (Option.some.inj hsame).symm
  obtain ⟨row, hrow⟩ := Option.isSome_iff_exists.mp (db.schema.1 a (mem_of_get? ha))
  have hmanages : grants (some row) .rolesManage = true → db.managesRoles m = true := by
    intro hgrants
    rw [StaffDb.managesRoles, StaffDb.roleOf, ha, Option.bind_some, hrow]
    exact hgrants
  unfold StaffSession.roleOf
  rw [hread, Option.bind_some]
  cases hfind : s.roles.find? fun h => h.id = a.roleId with
  | none => exact ⟨row, by simpa using hrow, key_of_get? hrow, nofun, hmanages⟩
  | some k =>
    have hid : k.id = a.roleId := by simpa using List.find?_some hfind
    refine ⟨k, rfl, hid, fun k' hk' => (Option.some.inj hk').symm, fun hgrants => hmanages ?_⟩
    exact hcurrent.1 k (List.mem_of_find?_eq_some hfind) hgrants row (by rw [hid]; exact hrow)

/-- Someone else whom such a session takes for a role manager is one. -/
theorem session_manages {s : StaffSession} (hcurrent : s.Current db) (hne : s.op.subject ≠ some m)
    (hgrants : grants (s.roleOf db m) .rolesManage = true) : db.managesRoles m = true := by
  cases ha : db.assignments.get? m with
  | none =>
    rw [StaffDb.managesRoles, ha]
    rfl
  | some a =>
    obtain ⟨r, hr, _, _, hmanages⟩ := session_role hcurrent hne ha
    rw [hr] at hgrants
    exact hmanages hgrants

/-- An administrator whom the check counts on survives the change. -/
theorem remains_survives {s : StaffSession} {change : StaffChange} (hloaded : s.Loaded)
    (hcurrent : s.Current db) (hchange : s.change = some change) (hactive : db.isActiveAdmin m = true)
    (hremains : s.remains db change m = true) : change.Survives db m := by
  refine ⟨hactive, ?_⟩
  cases hop : s.op with
  | assignRole userId roleId =>
    simp only [StaffSession.change, hop] at hchange
    obtain ⟨role, hrole, rfl⟩ := Option.map_eq_some_iff.mp hchange
    simp only [StaffSession.remains] at hremains
    by_cases heq : m = userId
    · simp only [heq, ↓reduceIte] at hremains ⊢
      exact hcurrent.1 role (List.mem_of_find?_eq_some hrole) hremains
    · simp only [heq, ↓reduceIte] at hremains ⊢
      exact session_manages hcurrent (by simpa [hop, StaffOp.subject] using fun h => heq h.symm) hremains
  | updateRole roleId permissions =>
    simp only [StaffSession.Loaded, hop] at hloaded
    obtain ⟨edited, hfind, hsystem⟩ := hloaded
    simp only [StaffSession.change, hop] at hchange
    split at hchange
    · cases hchange
    · rename_i hno
      cases hchange
      have hne : s.op.subject ≠ some m := by simp [hop, StaffOp.subject]
      simp only [StaffSession.remains] at hremains
      cases ha : db.assignments.get? m with
      | none =>
        refine ⟨(fun _ hnone => by cases hnone), ?_⟩
        rw [StaffDb.managesRoles, ha]
        rfl
      | some a =>
        obtain ⟨r, hr, hid, hheld, hmanages⟩ := session_role hcurrent hne ha
        rw [hr] at hremains
        simp only [rolesManage_mem_effective, hno, decide_false] at hremains
        split at hremains
        · cases hremains
        · rename_i hother
          refine ⟨fun a' ha' heq => hother ?_, hmanages hremains⟩
          cases ha'
          -- the role being edited is the one the session read
          rw [← hheld edited (by rw [heq]; exact hfind)]
          exact ⟨by simpa using List.find?_some hfind, hsystem⟩
  | deleteRole roleId => simp [StaffSession.change, hop] at hchange
  | changeRole userId role =>
    simp only [StaffSession.change, hop] at hchange
    obtain ⟨_, heq⟩ := Option.ite_none_right_eq_some.mp hchange
    cases heq
    simp only [StaffSession.remains, Bool.and_eq_true, decide_eq_true_eq] at hremains
    exact ⟨hremains.1, session_manages hcurrent (by simpa [hop, StaffOp.subject] using fun h => hremains.1 h.symm)
      hremains.2⟩
  | deactivateUser userId =>
    simp only [StaffSession.change, hop] at hchange
    obtain ⟨_, heq⟩ := Option.ite_none_right_eq_some.mp hchange
    cases heq
    simp only [StaffSession.remains, Bool.and_eq_true, decide_eq_true_eq] at hremains
    exact ⟨hremains.1, session_manages hcurrent (by simpa [hop, StaffOp.subject] using fun h => hremains.1 h.symm)
      hremains.2⟩

/-! ### Histories -/

variable {s s' : StaffSys}

/-- Someone manages roles, and a request that holds the locks will leave someone who does. -/
structure StaffInv (s : StaffSys) : Prop where
  manager : ∃ m, s.db.Manager m
  loaded : ∀ o ∈ s.sessions.rows, o.phase ≠ .authorised → o.Loaded
  cleared : ∀ o ∈ s.sessions.rows, ∀ admins, o.phase = .cleared admins →
    (∀ m ∈ admins, s.db.isActiveAdmin m = true) ∧
      ∃ change, o.change = some change ∧ ∃ m ∈ admins, change.Survives s.db m
  alone : ∀ o ∈ s.sessions.rows, ∀ o' ∈ s.sessions.rows, ∀ admins admins', o.phase = .cleared admins →
    o'.phase = .cleared admins' → o = o'

def StaffPhase.picked? : StaffPhase → Option (List Id)
  | .waiting picked => some picked
  | _ => none

def StaffPhase.cleared? : StaffPhase → Option (List Id)
  | .cleared admins => some admins
  | _ => none

/-- What a step relies on. A check: the rows its session holds are not out of date, and it has picked an
    administrator whom a request that holds the locks has locked. A commit without a check: the user whose
    row it updates is not an active administrator. -/
def StaffSys.Sound (s : StaffSys) : StaffLabel → Prop
  | .check id => ∀ session ∈ s.sessions.get? id, ∀ picked ∈ session.phase.picked?,
      session.Current s.db ∧ ∀ o ∈ s.sessions.rows, ∀ admins ∈ o.phase.cleared?, ∃ m ∈ admins, m ∈ picked
  | .commit id => ∀ session ∈ s.sessions.get? id, session.phase = .loaded →
      ∀ u ∈ session.updatedUser, s.db.isActiveAdmin u = false
  | _ => True

instance (s : StaffSys) (l : StaffLabel) : Decidable (s.Sound l) := by
  unfold StaffSys.Sound
  split <;> infer_instance

theorem StaffInv.of_subset (h : StaffInv s) (hdb : s'.db = s.db)
    (hsub : ∀ o ∈ s'.sessions.rows, o ∈ s.sessions.rows ∨ (o.phase ≠ .authorised → o.Loaded) ∧
      ∀ admins, o.phase ≠ .cleared admins) : StaffInv s' := by
  refine ⟨by rw [hdb]; exact h.manager, fun o ho hphase => ?_, fun o ho admins hphase => ?_,
    fun o ho o' ho' admins admins' hphase hphase' => ?_⟩
  · rcases hsub o ho with hold | ⟨hloaded, _⟩
    · exact h.loaded o hold hphase
    · exact hloaded hphase
  · rcases hsub o ho with hold | ⟨_, hnot⟩
    · rw [hdb]
      exact h.cleared o hold admins hphase
    · exact absurd hphase (hnot admins)
  · rcases hsub o ho with hold | ⟨_, hnot⟩
    · rcases hsub o' ho' with hold' | ⟨_, hnot⟩
      · exact h.alone o hold o' hold' admins admins' hphase hphase'
      · exact absurd hphase' (hnot admins')
    · exact absurd hphase (hnot admins)

theorem mem_update {id : Nat} {session session' : StaffSession} (hget : s.sessions.get? id = some session)
    (hid : session'.id = session.id) {o : StaffSession} (ho : o ∈ (s.update session').sessions.rows) :
    o = session' ∨ (o ∈ s.sessions.rows ∧ o.id ≠ session.id) := by
  have hkey : s.sessions.get? (key session') = some session := by
    rw [show key session' = id from hid.trans (key_of_get? hget)]
    exact hget
  rcases (mem_replace hkey).mp ho with rfl | ⟨hold, hne⟩
  · exact .inl rfl
  · exact .inr ⟨hold, by rw [← hid]; exact hne⟩

/-- Reading gives a session what its operation needs. -/
theorem load_eq_some {s s' : StaffSession} (h : s.load db = some s') :
    s'.id = s.id ∧ s'.phase = .loaded ∧ s'.Loaded := by
  have hread : ∀ {roleId r}, s.readRole db.roles roleId = some r → r.id = roleId := by
    intro roleId r hr
    obtain ⟨row, hrow, rfl⟩ := Option.map_eq_some_iff.mp hr
    cases hheld : s.roles.find? fun h => h.id = roleId with
    | none => exact key_of_get? hrow
    | some k => simpa using List.find?_some hheld
  unfold StaffSession.load at h
  cases hop : s.op with
  | assignRole userId roleId =>
    simp only [hop] at h
    obtain ⟨role, hrole, h⟩ := Option.bind_eq_some_iff.mp h
    obtain ⟨_, h⟩ := Option.ite_none_right_eq_some.mp h
    cases h
    exact ⟨rfl, rfl, by simp [StaffSession.Loaded, hread hrole]⟩
  | updateRole roleId permissions =>
    simp only [hop] at h
    obtain ⟨role, hrole, h⟩ := Option.bind_eq_some_iff.mp h
    obtain ⟨hsystem, h⟩ := Option.ite_none_left_eq_some.mp h
    cases h
    exact ⟨rfl, rfl, by simpa [StaffSession.Loaded, hread hrole] using hsystem⟩
  | deleteRole roleId =>
    simp only [hop] at h
    obtain ⟨role, hrole, h⟩ := Option.bind_eq_some_iff.mp h
    obtain ⟨_, h⟩ := Option.ite_none_left_eq_some.mp h
    cases h
    exact ⟨rfl, rfl, by simp [StaffSession.Loaded]⟩
  | changeRole userId role =>
    simp only [hop] at h
    obtain ⟨target, _, h⟩ := Option.bind_eq_some_iff.mp h
    cases h
    exact ⟨rfl, rfl, by simp [StaffSession.Loaded]⟩
  | deactivateUser userId =>
    simp only [hop] at h
    obtain ⟨target, _, h⟩ := Option.bind_eq_some_iff.mp h
    cases h
    exact ⟨rfl, rfl, by simp [StaffSession.Loaded]⟩

/-- A check that is let through leaves its session alone with the locks. -/
theorem StaffInv.check (h : StaffInv s) {id : Nat} {session : StaffSession} {picked : List Id}
    {change : StaffChange} (hget : s.sessions.get? id = some session) (hphase : session.phase = .waiting picked)
    (hchange : session.change = some change) (hcurrent : session.Current s.db)
    (hmeet : ∀ o ∈ s.sessions.rows, ∀ admins ∈ o.phase.cleared?, ∃ m ∈ admins, m ∈ picked)
    (hfree : (picked.filter s.db.isActiveAdmin).any (s.userLocked id) = false)
    (hpasses : session.passes s.db change (picked.filter s.db.isActiveAdmin) = true) :
    StaffInv (s.update { session with phase := .cleared (picked.filter s.db.isActiveAdmin) }) := by
  -- who held the locks would have locked an administrator that this one has picked
  have hnone : ∀ o ∈ s.sessions.rows, o.id ≠ session.id → ∀ admins, o.phase ≠ .cleared admins := by
    intro o ho hne admins hcleared
    obtain ⟨m, hm, hpicked⟩ := hmeet o ho admins (by rw [hcleared]; rfl)
    have hactive := (h.cleared o ho admins hcleared).1 m hm
    rw [List.any_eq_false] at hfree
    refine hfree m (List.mem_filter.mpr ⟨hpicked, hactive⟩) (List.any_eq_true.mpr ⟨o, ho, ?_⟩)
    rw [show session.id = id from key_of_get? hget] at hne
    simp [hne, StaffPhase.locks, hcleared, hm]
  have hmem : ∀ o ∈ (s.update { session with phase := .cleared (picked.filter s.db.isActiveAdmin) }).sessions.rows,
      o = { session with phase := .cleared (picked.filter s.db.isActiveAdmin) } ∨
        (o ∈ s.sessions.rows ∧ ∀ admins, o.phase ≠ .cleared admins) := by
    intro o ho
    rcases mem_update hget (by rfl) ho with rfl | ⟨hold, hne⟩
    · exact .inl rfl
    · exact .inr ⟨hold, hnone o hold hne⟩
  have hloaded : session.Loaded := h.loaded session (mem_of_get? hget) (by rw [hphase]; exact nofun)
  refine ⟨h.manager, fun o ho hne => ?_, fun o ho admins hcleared => ?_,
    fun o ho o' ho' admins admins' hcleared hcleared' => ?_⟩
  · rcases hmem o ho with rfl | ⟨hold, _⟩
    · exact hloaded
    · exact h.loaded o hold hne
  · rcases hmem o ho with rfl | ⟨_, hnot⟩
    · cases hcleared
      refine ⟨fun m hm => (List.mem_filter.mp hm).2, change, hchange, ?_⟩
      simp only [StaffSession.passes, Bool.and_eq_true] at hpasses
      obtain ⟨m, hm, hremains⟩ := List.any_eq_true.mp hpasses.1
      exact ⟨m, hm, remains_survives hloaded hcurrent hchange (List.mem_filter.mp hm).2 hremains⟩
    · exact absurd hcleared (hnot admins)
  · rcases hmem o ho with rfl | ⟨_, hnot⟩
    · rcases hmem o' ho' with rfl | ⟨_, hnot⟩
      · rfl
      · exact absurd hcleared' (hnot admins')
    · exact absurd hcleared (hnot admins)

/-- A commit leaves a role manager. -/
theorem StaffInv.commit (h : StaffInv s) {id : Nat} {session : StaffSession}
    (hget : s.sessions.get? id = some session)
    (hready : (session.phase = .loaded ∧ session.change = none) ∨ ∃ admins, session.phase = .cleared admins)
    (hupdated : session.phase = .loaded → ∀ u ∈ session.updatedUser, s.db.isActiveAdmin u = false)
    {db' : StaffDb} (hwrite : session.write s.db = some db') : StaffInv (s.finish id db') := by
  have hsession := mem_of_get? hget
  have hmem : ∀ o ∈ (s.finish id db').sessions.rows, o ∈ s.sessions.rows ∧ o.id ≠ id :=
    fun o ho => mem_erase.mp ho
  rcases hready with ⟨hphase, hchange⟩ | ⟨admins, hphase⟩
  · obtain ⟨hactive, hmanagers, hsurvives⟩ := unchecked_keeps
      (h.loaded session hsession (by rw [hphase]; exact nofun)) hchange (hupdated hphase) hwrite
    obtain ⟨m, hm⟩ := h.manager
    refine ⟨⟨m, hmanagers m hm⟩, fun o ho => h.loaded o (hmem o ho).1, fun o ho admins hcleared => ?_,
      fun o ho o' ho' => h.alone o (hmem o ho).1 o' (hmem o' ho').1⟩
    obtain ⟨hadmins, change, hchange', m', hm', hsurvive⟩ := h.cleared o (hmem o ho).1 admins hcleared
    exact ⟨fun m hm => hactive m (hadmins m hm), change, hchange', m', hm', hsurvives change m' hsurvive⟩
  · obtain ⟨_, change, hchange, m, _, hsurvive⟩ := h.cleared session hsession admins hphase
    -- no other request holds the locks
    have hnot : ∀ o ∈ (s.finish id db').sessions.rows, ∀ admins', o.phase ≠ .cleared admins' := by
      intro o ho admins' hcleared
      have hsame := h.alone o (hmem o ho).1 session hsession admins' admins hcleared hphase
      exact (hmem o ho).2 (by rw [hsame]; exact key_of_get? hget)
    exact ⟨write_checked hchange hsurvive h.manager hwrite, fun o ho => h.loaded o (hmem o ho).1,
      fun o ho admins' hcleared => absurd hcleared (hnot o ho admins'),
      fun o ho o' _ admins' _ hcleared => absurd hcleared (hnot o ho admins')⟩

theorem StaffInv.step {l : StaffLabel} (h : StaffInv s) (hsound : s.Sound l) (hstep : staffStep s l = some s') :
    StaffInv s' := by
  cases l with
  | begin actorId op keeps =>
    simp only [staffStep] at hstep
    obtain ⟨session, hauthorise, hstep⟩ := Option.bind_eq_some_iff.mp hstep
    obtain ⟨sessions, hinsert, hstep⟩ := Option.bind_eq_some_iff.mp hstep
    cases hstep
    have hphase : session.phase = .authorised := by
      obtain ⟨actor, _, hsession⟩ := Option.bind_eq_some_iff.mp hauthorise
      obtain ⟨_, hsession⟩ := Option.ite_none_right_eq_some.mp hsession
      cases hsession
      rfl
    refine h.of_subset rfl fun o ho => ?_
    rcases (mem_insert? hinsert).mp ho with rfl | hold
    · exact .inr ⟨fun hne => absurd hphase hne, fun admins hcleared => by rw [hphase] at hcleared; cases hcleared⟩
    · exact .inl hold
  | load id =>
    simp only [staffStep] at hstep
    obtain ⟨session, hget, hstep⟩ := Option.bind_eq_some_iff.mp hstep
    obtain ⟨_, hstep⟩ := Option.ite_none_right_eq_some.mp hstep
    obtain ⟨session', hload, rfl⟩ := Option.map_eq_some_iff.mp hstep
    obtain ⟨hid, hphase, hloaded⟩ := load_eq_some hload
    refine h.of_subset rfl fun o ho => ?_
    rcases mem_update hget hid ho with rfl | ⟨hold, _⟩
    · exact .inr ⟨fun _ => hloaded, fun admins hcleared => by rw [hphase] at hcleared; cases hcleared⟩
    · exact .inl hold
  | lock id =>
    simp only [staffStep] at hstep
    obtain ⟨session, hget, hstep⟩ := Option.bind_eq_some_iff.mp hstep
    obtain ⟨hphase, hstep⟩ := Option.ite_none_right_eq_some.mp hstep
    cases hstep
    simp only [Bool.and_eq_true, decide_eq_true_eq] at hphase
    refine h.of_subset rfl fun o ho => ?_
    have hkey : key { session with phase := .waiting s.db.activeAdmins } = key session := rfl
    rcases mem_update hget hkey ho with rfl | ⟨hold, _⟩
    · exact .inr ⟨fun _ => h.loaded session (mem_of_get? hget) (by rw [hphase.1]; simp), fun _ hcleared => by cases hcleared⟩
    · exact .inl hold
  | check id =>
    simp only [staffStep] at hstep
    obtain ⟨session, hget, hstep⟩ := Option.bind_eq_some_iff.mp hstep
    split at hstep
    · rename_i picked change hphase hchange
      obtain ⟨hfree, hstep⟩ := Option.ite_none_left_eq_some.mp hstep
      obtain ⟨hcurrent, hmeet⟩ := hsound session hget picked (by rw [hphase]; rfl)
      split at hstep
      · rename_i hpasses
        cases hstep
        exact h.check hget hphase hchange hcurrent hmeet (by simpa using hfree) hpasses
      · cases hstep
        exact h.of_subset rfl fun o ho => .inl (mem_erase.mp ho).1
    · cases hstep
  | commit id =>
    simp only [staffStep] at hstep
    obtain ⟨session, hget, hstep⟩ := Option.bind_eq_some_iff.mp hstep
    obtain ⟨hready, hstep⟩ := Option.ite_none_right_eq_some.mp hstep
    obtain ⟨db', hwrite, rfl⟩ := Option.map_eq_some_iff.mp hstep
    refine h.commit hget ?_ (hsound session hget) hwrite
    simp only [Bool.and_eq_true] at hready
    have hready := hready.1
    split at hready
    · rename_i hphase
      exact .inl ⟨hphase, by simpa using hready⟩
    · rename_i admins hphase
      exact .inr ⟨admins, hphase⟩
    · cases hready
  | drop id =>
    simp only [staffStep] at hstep
    obtain ⟨_, hstep⟩ := Option.ite_none_right_eq_some.mp hstep
    cases hstep
    exact h.of_subset rfl fun o ho => .inl (mem_erase.mp ho).1

/-- In a run whose steps are all sound, every committed state has a role manager. -/
theorem role_manager_remains {s₀ : StaffSys} {tr : List (Taken StaffSys StaffLabel)} (h : StaffRun s₀ tr s)
    (h₀ : s₀.sessions.rows = []) (hmanager : ∃ m, s₀.db.Manager m) (hsound : ∀ t ∈ tr, t.pre.Sound t.label) :
    ∃ m, s.db.Manager m := by
  have hinit : StaffInv s₀ := by
    have hempty : ∀ o, o ∉ s₀.sessions.rows := by simp [h₀]
    exact ⟨hmanager, fun o ho => absurd ho (hempty o), fun o ho => absurd ho (hempty o),
      fun o ho => absurd ho (hempty o)⟩
  have hinv : StaffInv s := by
    induction h with
    | nil => exact hinit
    | cons _ hstep ih =>
      exact (ih fun t ht => hsound t (List.mem_cons_of_mem _ ht)).step (hsound _ List.mem_cons_self) hstep
  exact hinv.manager

/-- Two administrators, each with a role of its own that may manage roles. -/
def twoManagers : StaffSys where
  db := {
    users := ⟨[⟨1, "ann@shop", "", .admin, true, none⟩, ⟨2, "ben@shop", "", .admin, true, none⟩], by decide⟩
    roles := ⟨[⟨ownerRoleId, [], true⟩, ⟨noAccessRoleId, [], true⟩, ⟨10, [.rolesManage], false⟩,
      ⟨11, [.rolesManage], false⟩], by decide⟩
    assignments := ⟨[⟨1, 10⟩, ⟨2, 11⟩], by decide⟩
    schema := by decide }
  sessions := .empty
  next := 0

/-- One takes the right from the other's role, and is then refused to give up the own. -/
theorem role_manager_remains_one : ∃ tr s, StaffRun twoManagers tr s ∧
    (s.db.roles.get? 11).map StaffRole.permissions = some [] ∧ ∃ m, s.db.Manager m := by
  obtain ⟨tr, s, hrun, hsound, hedited⟩ := exists_exec staffStep twoManagers
    (P := fun tr s => (∀ t ∈ tr, t.pre.Sound t.label) ∧
      (s.db.roles.get? 11).map StaffRole.permissions = some [])
    [.begin 1 (.updateRole 11 []) true, .load 0, .lock 0, .check 0, .commit 0,
      .begin 1 (.updateRole 10 []) true, .load 1, .lock 1, .check 1]
    (by decide)
  exact ⟨tr, s, hrun, hedited, role_manager_remains hrun rfl ⟨1, by decide⟩ hsound⟩

theorem mem_of_manager (h : db.Manager m) : ∃ u ∈ db.users.rows, u.id = m := by
  have hactive := h.1
  unfold StaffDb.isActiveAdmin at hactive
  cases hget : db.users.get? m with
  | none =>
    rw [hget] at hactive
    cases hactive
  | some u => exact ⟨u, mem_of_get? hget, key_of_get? hget⟩

/-- Both take the right from the other's role at once: each counts on the role it loaded before it waited. -/
theorem role_edits_cross : ∃ tr s, StaffRun twoManagers tr s ∧ (∃ m, twoManagers.db.Manager m) ∧
    ¬ ∃ m, s.db.Manager m := by
  obtain ⟨tr, s, hrun, hnone⟩ := exists_exec staffStep twoManagers
    (P := fun _ s => ∀ u ∈ s.db.users.rows, ¬ s.db.Manager u.id)
    [.begin 1 (.updateRole 11 []) false, .begin 2 (.updateRole 10 []) false, .load 0, .lock 0, .check 0,
      .commit 0, .load 1, .lock 1, .check 1, .commit 1]
    (by decide)
  refine ⟨tr, s, hrun, ⟨1, by decide⟩, ?_⟩
  rintro ⟨m, hm⟩
  obtain ⟨u, hu, rfl⟩ := mem_of_manager hm
  exact hnone u hu hm

end NovaCart
