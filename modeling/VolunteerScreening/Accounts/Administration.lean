import VolunteerScreening.Accounts.Models

/-!
# What the accounts mean for screening

A directory's `Core.Administration` answers by what its administrators hold, and
each way of writing a row changes what exactly one account, or the holders of
one level, hold.
-/

namespace VolunteerScreening.Accounts.Directory

variable {directory : Directory}

/-! ## As the screening side reads it -/

theorem find_grant (users : List User) (start pk : Nat) :
    ((users.zipIdx start).filterMap fun entry => entry.1.grant.map fun grant =>
        (⟨entry.2, grant.accessLevel, grant.departments⟩ : Core.UserAccessGrant)).find?
          (·.userId == start + pk) =
      ((users[pk]?).bind (·.grant)).map fun grant =>
        ⟨start + pk, grant.accessLevel, grant.departments⟩ := by
  induction users generalizing start pk with
  | nil => simp
  | cons user rest inductionHypothesis =>
      rw [List.zipIdx_cons, List.filterMap_cons]
      cases pk with
      | zero =>
          cases granted : user.grant with
          | none =>
              have later : ∀ row ∈ ((rest.zipIdx (start + 1)).filterMap fun entry =>
                  entry.1.grant.map fun grant =>
                    (⟨entry.2, grant.accessLevel, grant.departments⟩ : Core.UserAccessGrant)),
                  ¬(row.userId == start + 0) = true := by
                intro row listed
                obtain ⟨entry, placed, made⟩ := List.mem_filterMap.mp listed
                obtain ⟨grant, _, rfl⟩ := Option.map_eq_some_iff.mp made
                have after := List.le_snd_of_mem_zipIdx placed
                simp only [beq_iff_eq]
                omega
              simpa [granted] using List.find?_eq_none.mpr later
          | some grant => simp [granted]
      | succ pk =>
          have shifted := inductionHypothesis (start + 1) pk
          rw [Nat.add_right_comm, Nat.add_assoc] at shifted
          cases granted : user.grant with
          | none => simpa using shifted
          | some grant => simpa [List.find?_cons] using shifted

theorem grantFor_account {pk : Pk} {user : User} (found : directory.users[pk]? = some user) :
    directory.administration.grantFor (user.account pk) =
      if user.isActive then
        user.grant.map fun grant => ⟨pk, grant.accessLevel, grant.departments⟩
      else none := by
  have sought := find_grant directory.users 0 pk
  rw [Nat.zero_add, found, Option.bind_some] at sought
  unfold Core.Administration.grantFor
  cases active : user.isActive with
  | false => simp [User.account, active]
  | true =>
      simp only [User.account, active, if_true]
      exact sought

theorem scopeDepartmentIds_account {pk : Pk} {acting : Administrator}
    (signedIn : directory.administrator pk = some acting) :
    directory.administration.scopeDepartmentIds (some acting.account) = acting.scope := by
  obtain ⟨rfl, found, active, granted, listed⟩ := administrator_eq_some_iff.mp signedIn
  have held := grantFor_account found
  rw [if_pos active, granted, Option.map_some] at held
  unfold Core.Administration.scopeDepartmentIds Administrator.account
  simp only [held]
  simp [Core.Administration.levelFor, administration, listed, Administrator.scope]

theorem isUnscoped_account {pk : Pk} {acting : Administrator}
    (signedIn : directory.administrator pk = some acting) :
    directory.administration.isUnscoped acting.account = !acting.level.isScoped := by
  unfold Core.Administration.isUnscoped
  rw [scopeDepartmentIds_account signedIn]
  unfold Administrator.scope
  cases acting.level.isScoped <;> rfl

/-- Some active account is on a level of this kind. -/
def Holds (directory : Directory) (kind : AccessLevel → Bool) (pk : Pk) : Prop :=
  ∃ acting, directory.administrator pk = some acting ∧ kind acting.level = true

theorem mem_users_iff {user : Core.User} :
    user ∈ directory.administration.users ↔
      ∃ row, directory.users[user.pk]? = some row ∧ user = row.account user.pk := by
  unfold administration
  rw [List.mem_map]
  constructor
  · rintro ⟨⟨row, pk⟩, placed, rfl⟩
    exact ⟨row, List.mem_zipIdx_iff_getElem?.mp placed, rfl⟩
  · rintro ⟨row, found, same⟩
    exact ⟨(row, user.pk), List.mem_zipIdx_iff_getElem?.mpr found, same.symm⟩

theorem mem_grants_iff {row : Core.UserAccessGrant} :
    row ∈ directory.administration.grants ↔
      ∃ user grant, directory.users[row.userId]? = some user ∧ user.grant = some grant ∧
        row = ⟨row.userId, grant.accessLevel, grant.departments⟩ := by
  unfold administration grants
  rw [List.mem_filterMap]
  constructor
  · rintro ⟨⟨user, pk⟩, placed, made⟩
    obtain ⟨grant, granted, rfl⟩ := Option.map_eq_some_iff.mp made
    exact ⟨user, grant, List.mem_zipIdx_iff_getElem?.mp placed, granted, rfl⟩
  · rintro ⟨user, grant, found, granted, same⟩
    refine ⟨(user, row.userId), List.mem_zipIdx_iff_getElem?.mpr found, ?_⟩
    rw [granted, Option.map_some, ← same]

theorem anotherUnscopedAdminExists_iff {pk : Pk} :
    directory.administration.anotherUnscopedAdminExists pk = true ↔
      ∃ other, other ≠ pk ∧ directory.Holds AccessLevel.seesWholeChurch other := by
  unfold Core.Administration.anotherUnscopedAdminExists
  simp only [List.any_eq_true, Bool.and_eq_true, List.contains_iff_mem, List.mem_map,
    List.mem_filter, Bool.not_eq_true', bne_iff_ne]
  constructor
  · rintro ⟨account, listed, active, row, ⟨held, ⟨unscoped, inForce⟩, different⟩, same⟩
    obtain ⟨user, found, known⟩ := mem_users_iff.mp listed
    rw [known] at active
    obtain ⟨other, grant, foundOther, granted, built⟩ := mem_grants_iff.mp held
    rw [same, found] at foundOther
    cases foundOther
    obtain ⟨level, onTable, signedIn⟩ := administrator_of_grant found active granted
    refine ⟨_, same ▸ different, _, signedIn, ?_⟩
    rw [built] at unscoped inForce
    simp only [Core.Administration.levelFor, administration, onTable] at unscoped inForce
    simpa [AccessLevel.seesWholeChurch] using ⟨unscoped, inForce⟩
  · rintro ⟨other, different, acting, signedIn, kind⟩
    obtain ⟨rfl, found, active, granted, onTable⟩ := administrator_eq_some_iff.mp signedIn
    simp only [AccessLevel.seesWholeChurch, Bool.and_eq_true, Bool.not_eq_true'] at kind
    refine ⟨acting.account, mem_users_iff.mpr ⟨acting.user, found, rfl⟩, active,
      ⟨acting.pk, acting.grant.accessLevel, acting.grant.departments⟩,
      ⟨mem_grants_iff.mpr ⟨acting.user, acting.grant, found, granted, rfl⟩, ⟨?_, ?_⟩, different⟩,
      rfl⟩
    · simpa [Core.Administration.levelFor, administration, onTable] using kind.1
    · simpa [Core.Administration.levelFor, administration, onTable] using kind.2

/-! ## What writing a row changes -/

theorem Holds.congr {first second : Directory} {kind : AccessLevel → Bool} {pk : Pk}
    (same : second.administrator pk = first.administrator pk) (holds : first.Holds kind pk) :
    second.Holds kind pk := by
  obtain ⟨acting, signedIn, suits⟩ := holds
  exact ⟨acting, same.trans signedIn, suits⟩

theorem administrator_congr {first second : Directory} {pk : Pk}
    (sameUser : first.users[pk]? = second.users[pk]?) (sameLevels : first.levels = second.levels) :
    first.administrator pk = second.administrator pk := by
  unfold administrator
  rw [sameUser, sameLevels]

theorem administrator_lt {pk : Pk} {acting : Administrator}
    (signedIn : directory.administrator pk = some acting) : pk < directory.users.length := by
  obtain ⟨_, found, _⟩ := administrator_eq_some_iff.mp signedIn
  exact (List.getElem?_eq_some_iff.mp found).1

theorem administrator_addUser (firstName lastName email : String) (pk : Pk) :
    (directory.addUser firstName lastName email).administrator pk =
      directory.administrator pk := by
  unfold administrator addUser
  rw [List.getElem?_append]
  split
  · rfl
  · next beyond =>
      rw [List.getElem?_eq_none (Nat.le_of_not_lt beyond), List.getElem?_singleton]
      split <;> rfl

theorem administrator_setActive_other {subject pk : Pk} (other : pk ≠ subject) (isActive : Bool) :
    (directory.setActive subject isActive).administrator pk = directory.administrator pk := by
  refine administrator_congr ?_ rfl
  simp [setActive, other.symm]

theorem administrator_setGrant_other {subject pk : Pk} (other : pk ≠ subject)
    (grant : UserAccessGrant) (listed : grant.accessLevel < directory.levels.length) :
    (directory.setGrant subject grant listed).administrator pk = directory.administrator pk := by
  refine administrator_congr ?_ rfl
  simp [setGrant, other.symm]

theorem administrator_reactivate {subject pk : Pk} {acting : Administrator}
    (held : directory.administrator pk = some acting) :
    (directory.setActive subject true).administrator pk = some acting := by
  by_cases same : pk = subject
  · subst same
    obtain ⟨rfl, found, active, granted, onTable⟩ := administrator_eq_some_iff.mp held
    apply administrator_eq_some_iff.mpr
    refine ⟨rfl, ?_, active, granted, onTable⟩
    simp only [setActive, List.getElem?_modify, found, if_true, Option.map_eq_map, Option.map_some,
      Option.some.injEq]
    rw [← active]
  · rw [administrator_setActive_other same, held]

theorem administrator_setGrant_self {subject : Pk} {user : User} {grant : UserAccessGrant}
    {level : AccessLevel} (listed : grant.accessLevel < directory.levels.length)
    (found : directory.users[subject]? = some user)
    (onTable : directory.levels[grant.accessLevel]? = some level) :
    (directory.setGrant subject grant listed).administrator subject =
      if user.isActive then some ⟨subject, { user with grant := some grant }, grant, level⟩
      else none := by
  unfold administrator setGrant
  cases active : user.isActive <;> simp [found, active, onTable]

theorem holds_setGrant_self {subject : Pk} {user : User} {grant : UserAccessGrant}
    {level : AccessLevel} {kind : AccessLevel → Bool}
    (listed : grant.accessLevel < directory.levels.length)
    (found : directory.users[subject]? = some user) (active : user.isActive = true)
    (onTable : directory.levels[grant.accessLevel]? = some level) (suits : kind level = true) :
    (directory.setGrant subject grant listed).Holds kind subject :=
  ⟨_, (administrator_setGrant_self listed found onTable).trans (if_pos active), suits⟩

theorem administrator_addLevel (level : AccessLevel) (pk : Pk) :
    (directory.addLevel level).administrator pk = directory.administrator pk := by
  cases held : directory.administrator pk with
  | some acting =>
      obtain ⟨rfl, found, active, granted, onTable⟩ := administrator_eq_some_iff.mp held
      apply administrator_eq_some_iff.mpr
      refine ⟨rfl, found, active, granted, ?_⟩
      have inTable := directory.resolved _ _ _ found granted
      simp only [addLevel]
      rw [List.getElem?_append_left inTable, onTable]
  | none =>
      by_contra gained
      obtain ⟨acting, signedIn⟩ := Option.ne_none_iff_exists'.mp gained
      obtain ⟨rfl, found, active, granted, _⟩ := administrator_eq_some_iff.mp signedIn
      obtain ⟨_, _, before⟩ := @administrator_of_grant directory _ _ _ found active granted
      rw [held] at before
      cases before

theorem administrator_setLevel (target : Pk) (level : AccessLevel) (pk : Pk) :
    (directory.setLevel target level).administrator pk =
      (directory.administrator pk).map fun acting =>
        if acting.grant.accessLevel = target then { acting with level := level } else acting := by
  unfold administrator setLevel
  cases found : directory.users[pk]? with
  | none => simp
  | some user =>
      cases active : user.isActive with
      | false => simp [active]
      | true =>
          cases granted : user.grant with
          | none => simp [active, granted]
          | some grant =>
              have inTable := directory.resolved pk user grant found granted
              by_cases same : grant.accessLevel = target
              · subst same
                simp [active, granted, inTable]
              · have kept : (directory.levels.set target level)[grant.accessLevel]? =
                    directory.levels[grant.accessLevel]? := List.getElem?_set_ne (Ne.symm same)
                cases onTable : directory.levels[grant.accessLevel]? <;>
                  simp [active, granted, kept, onTable, same]

theorem holds_setGrant_iff (kind : AccessLevel → Bool) (suits : Pk → Prop) {subject : Pk}
    {user : User} {grant : UserAccessGrant} {level : AccessLevel}
    (listed : grant.accessLevel < directory.levels.length)
    (found : directory.users[subject]? = some user)
    (onTable : directory.levels[grant.accessLevel]? = some level) :
    (∃ pk, suits pk ∧ (directory.setGrant subject grant listed).Holds kind pk) ↔
      (suits subject ∧ user.isActive = true ∧ kind level = true) ∨
        ∃ pk, suits pk ∧ pk ≠ subject ∧ directory.Holds kind pk := by
  constructor
  · rintro ⟨pk, suitable, acting, signedIn, ofKind⟩
    by_cases same : pk = subject
    · subst same
      rw [administrator_setGrant_self listed found onTable] at signedIn
      split at signedIn
      · next active =>
          cases signedIn
          exact .inl ⟨suitable, active, ofKind⟩
      · cases signedIn
    · rw [administrator_setGrant_other same] at signedIn
      exact .inr ⟨pk, suitable, same, acting, signedIn, ofKind⟩
  · rintro (⟨suitable, active, ofKind⟩ | ⟨pk, suitable, different, holds⟩)
    · exact ⟨subject, suitable, holds_setGrant_self listed found active onTable ofKind⟩
    · exact ⟨pk, suitable, holds.congr (administrator_setGrant_other different _ listed)⟩

theorem holds_setLevel_iff (kind : AccessLevel → Bool) (suits : Pk → Prop) {target : Pk}
    {level : AccessLevel} (before : ∃ pk, suits pk ∧ directory.Holds kind pk) :
    (∃ pk, suits pk ∧ (directory.setLevel target level).Holds kind pk) ↔
      kind level = true ∨
        ∃ pk held, suits pk ∧ directory.administrator pk = some held ∧
          held.grant.accessLevel ≠ target ∧ kind held.level = true := by
  have moved : ∀ pk held, directory.administrator pk = some held →
      kind (if held.grant.accessLevel = target then level else held.level) = true →
        (directory.setLevel target level).Holds kind pk := by
    intro pk held signedIn ofKind
    refine ⟨_, by rw [administrator_setLevel, signedIn, Option.map_some], ?_⟩
    split at ofKind
    · next same => simp [same, ofKind]
    · next other => simp [other, ofKind]
  constructor
  · rintro ⟨pk, suitable, acting, signedIn, ofKind⟩
    rw [administrator_setLevel, Option.map_eq_some_iff] at signedIn
    obtain ⟨held, signedIn, rfl⟩ := signedIn
    by_cases same : held.grant.accessLevel = target
    · rw [if_pos same] at ofKind
      exact .inl ofKind
    · rw [if_neg same] at ofKind
      exact .inr ⟨pk, held, suitable, signedIn, same, ofKind⟩
  · rintro (still | ⟨pk, held, suitable, signedIn, elsewhere, ofKind⟩)
    · obtain ⟨pk, suitable, held, signedIn, ofKind⟩ := before
      refine ⟨pk, suitable, moved pk held signedIn ?_⟩
      split
      · exact still
      · exact ofKind
    · refine ⟨pk, suitable, moved pk held signedIn ?_⟩
      rw [if_neg elsewhere]
      exact ofKind

end VolunteerScreening.Accounts.Directory
