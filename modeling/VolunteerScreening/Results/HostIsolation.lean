import VolunteerScreening.Accounts.SharedHost

/-!
# The cookie selects a church and grants nothing

All churches share one table of sessions, and a session names an account by its
number alone.  Whatever cookies a request comes with, it is answered as an
account of a schema only where that very account signed in with the session.
-/

namespace VolunteerScreening.Accounts

open Tenants

namespace SharedHost

variable {secret : SiteSecret} {site after : SharedHost}

/-! ## Sessions -/

@[simp]
theorem flush_none (site : SharedHost) : site.flush none = site := rfl

@[simp]
theorem flush_accounts (site : SharedHost) (key : Option Nat) :
    (site.flush key).accounts = site.accounts := by cases key <;> rfl

@[simp]
theorem flush_toRoutingTables (site : SharedHost) (key : Option Nat) :
    (site.flush key).toRoutingTables = site.toRoutingTables := by cases key <;> rfl

@[simp]
theorem flush_signInAccount (site : SharedHost) (key : Option Nat) (schemaName : String)
    (user : Pk) : (site.flush key).signInAccount schemaName user =
      site.signInAccount schemaName user := by cases key <;> rfl

@[simp]
theorem flush_length (site : SharedHost) (key : Option Nat) :
    (site.flush key).sessions.length = site.sessions.length := by
  cases key with
  | none => rfl
  | some flushed => exact List.length_set

theorem lt_of_session {key : Nat} {data : SessionData} (found : site.session key = some data) :
    key < site.sessions.length :=
  (List.getElem?_eq_some_iff.mp (Option.join_eq_some_iff.mp found)).1

theorem flush_session (site : SharedHost) (flushed key : Nat) :
    (site.flush (some flushed)).session key = if flushed = key then none else site.session key := by
  unfold session flush
  dsimp only
  rw [List.getElem?_set]
  split
  · split <;> rfl
  · rfl

theorem of_flush_session {flushed : Option Nat} {key : Nat} {data : SessionData}
    (found : (site.flush flushed).session key = some data) : site.session key = some data := by
  cases flushed with
  | none => exact found
  | some other =>
      rw [flush_session] at found
      split at found
      · cases found
      · exact found

theorem signInAccount_eq_some {schemaName : String} {user : Pk} {account : HostAccount} :
    site.signInAccount schemaName user = some account ↔
      (site.accounts schemaName)[user]? = some account ∧ account.isActive = true :=
  Option.filter_eq_some_iff

/-- Who the framework says is signed in: nobody, or the account whose hash the session carries. -/
theorem getUser_cases (secret : SiteSecret) (site : SharedHost) (schemaName : String)
    (key : Option Nat) :
    (site.getUser secret schemaName key = (site, key, none) ∨
        site.getUser secret schemaName key = (site.flush key, none, none)) ∨
      ∃ started data account, key = some started ∧ site.session started = some data ∧
        site.signInAccount schemaName data.userId = some account ∧
        data.authHash = secret.sessionAuthHash account.password ∧
        site.getUser secret schemaName key = (site, key, some data.userId) := by
  unfold getUser
  cases held : key.bind site.session with
  | none => exact .inl (.inl rfl)
  | some data =>
      obtain ⟨started, rfl, found⟩ := Option.bind_eq_some_iff.mp held
      dsimp only
      cases looked : site.signInAccount schemaName data.userId with
      | none => exact .inl (.inl rfl)
      | some account =>
          dsimp only
          by_cases same : data.authHash = secret.sessionAuthHash account.password
          · rw [if_pos same]
            exact .inr ⟨started, data, account, rfl, found, looked, same, rfl⟩
          · rw [if_neg same]
            exact .inl (.inr rfl)

theorem authLogin_cases {user : Pk} {account : HostAccount}
    {key started : Option Nat}
    (signedIn : site.authLogin secret user account key = (after, started)) :
    after.accounts = site.accounts ∧ after.toRoutingTables = site.toRoutingTables ∧
      ∃ own, started = some own ∧
        after.session own = some ⟨user, secret.sessionAuthHash account.password⟩ ∧
        (key = some own ∧ after = site ∨ own = site.sessions.length) ∧
        ∀ other, other ≠ own → after.session other = (site.flush key).session other := by
  unfold authLogin at signedIn
  dsimp only at signedIn
  split at signedIn
  · next held =>
      obtain ⟨own, rfl, found⟩ := Option.bind_eq_some_iff.mp held
      cases signedIn
      refine ⟨rfl, rfl, own, rfl, found, .inl ⟨rfl, rfl⟩, ?_⟩
      intro other apart
      rw [flush_session, if_neg apart.symm]
  · cases signedIn
    refine ⟨flush_accounts site key, flush_toRoutingTables site key, _, rfl, ?_,
      .inr (flush_length site key), ?_⟩
    · unfold session
      dsimp only
      rw [List.getElem?_concat_length]
      rfl
    · intro other apart
      unfold session
      dsimp only
      by_cases within : other < (site.flush key).sessions.length
      · rw [List.getElem?_append_left within]
      · rw [flush_length] at within apart
        rw [List.getElem?_eq_none (by simp; omega), List.getElem?_eq_none (by simp; omega)]

/-- What a view does about signing in: nothing but flush the session it was given, or sign an
account in beside what is left. -/
theorem act_cases {binding : Binding} {key started : Option Nat} {user : Option Pk}
    {action : HostAction} {signedIn : Option (String × Pk)} {cookie : Option TenantCookie}
    (acted : site.act secret binding key user action = (after, signedIn, cookie, started)) :
    ∃ flushed, (flushed = none ∨ flushed = key) ∧
      (signedIn = none ∧ after = site.flush flushed ∧ (started = key ∨ started = none) ∨
        action ≠ .logout ∧ ∃ schemaName owner account kept,
          signedIn = some (schemaName, owner) ∧
          site.signInAccount schemaName owner = some account ∧
          (site.flush flushed).authLogin secret owner account kept = (after, started)) := by
  cases action with
  | browse =>
      cases acted
      exact ⟨none, .inl rfl, .inl ⟨rfl, rfl, .inl rfl⟩⟩
  | logout =>
      cases acted
      exact ⟨key, .inr rfl, .inl ⟨rfl, rfl, .inr rfl⟩⟩
  | passkey found owner =>
      refine ⟨none, .inl rfl, ?_⟩
      unfold SharedHost.act at acted
      dsimp only at acted
      split at acted
      · cases acted
        exact .inl ⟨rfl, rfl, .inl rfl⟩
      · next bound located =>
          split at acted
          · cases acted
            exact .inl ⟨rfl, rfl, .inl rfl⟩
          · next account active =>
              cases acted
              exact .inr ⟨nofun, bound.schemaName, owner, account, key, rfl, active, rfl⟩
  | link schemaName owner =>
      unfold SharedHost.act at acted
      dsimp only at acted
      -- Whoever is signed in is signed out before the link is looked at.
      have left : ∃ flushed kept, (flushed = none ∨ flushed = key) ∧ (kept = key ∨ kept = none) ∧
          (if user.isSome = true then (site.flush key, none) else (site, key)) =
            (site.flush flushed, kept) ∧ (site.flush flushed).flush kept = site.flush key := by
        split
        · exact ⟨key, none, .inr rfl, .inr rfl, rfl, rfl⟩
        · exact ⟨none, key, .inl rfl, .inl rfl, rfl, rfl⟩
      obtain ⟨flushed, kept, own, still, same, both⟩ := left
      rw [same] at acted
      dsimp only at acted
      split at acted
      · cases acted
        exact ⟨flushed, own, .inl ⟨rfl, rfl, still⟩⟩
      · split at acted
        · cases acted
          exact ⟨flushed, own, .inl ⟨rfl, rfl, still⟩⟩
        · next target _ user account looked =>
            obtain ⟨_, _, found⟩ := Option.bind_eq_some_iff.mp looked
            obtain ⟨_, there, same⟩ := Option.map_eq_some_iff.mp found
            cases same
            rw [flush_signInAccount] at there
            rw [both] at acted
            cases acted
            exact ⟨key, .inr rfl, .inr ⟨nofun, schemaName, user, account, none, rfl, there, rfl⟩⟩

end SharedHost

/-! ## What the sessions are backed by -/

/-- Every session is one that an account signed in with, and carries the hash of that account. -/
def Backed (secret : SiteSecret) (site : SharedHost) (signedInAs : Nat → Option (String × Pk)) :
    Prop :=
  ∀ key data, site.session key = some data → ∃ schemaName account,
    signedInAs key = some (schemaName, data.userId) ∧
      (site.accounts schemaName)[data.userId]? = some account ∧
      data.authHash = secret.sessionAuthHash account.password

/-- No two accounts have the same hash, and every account has a marker that was drawn. -/
structure HostHistory.Sound (secret : SiteSecret) (history : HostHistory) : Prop where
  apart : ∀ {schemaName other : String} {user otherUser : Pk} {account otherAccount : HostAccount},
    (history.site.accounts schemaName)[user]? = some account →
    (history.site.accounts other)[otherUser]? = some otherAccount →
    secret.sessionAuthHash account.password = secret.sessionAuthHash otherAccount.password →
      schemaName = other ∧ user = otherUser
  drawn : ∀ {schemaName : String}, ∀ account ∈ history.site.accounts schemaName,
    account.password ∈ history.markers
  backed : Backed secret history.site history.signedInAs

/-- Markers are drawn anew: none has the hash of an earlier one. -/
def DrawsAnew (secret : SiteSecret) (history : HostHistory) : HostEvent → Prop
  | .register _ password =>
      ∀ marker ∈ history.markers, secret.sessionAuthHash password ≠ secret.sessionAuthHash marker
  | _ => True

section Requests

variable {secret : SiteSecret} {site after : SharedHost} {ledger : Nat → Option (String × Pk)}

theorem Backed.flush (backed : Backed secret site ledger) (key : Option Nat) :
    Backed secret (site.flush key) ledger := by
  intro other data found
  rw [SharedHost.flush_accounts]
  exact backed other data (SharedHost.of_flush_session found)

theorem Backed.forgotten (backed : Backed secret site ledger) {key : Nat}
    (gone : site.session key = none) :
    Backed secret site (Function.update ledger key none) := by
  intro other data found
  have apart : other ≠ key := by
    rintro rfl
    rw [gone] at found
    cases found
  rw [Function.update_of_ne apart]
  exact backed other data found

theorem Backed.authLogin (backed : Backed secret site ledger) {schemaName : String} {user : Pk}
    {account : HostAccount} {key started : Option Nat}
    (active : site.signInAccount schemaName user = some account)
    (signedIn : site.authLogin secret user account key = (after, started)) :
    ∃ own, started = some own ∧
      Backed secret after (Function.update ledger own (some (schemaName, user))) := by
  obtain ⟨accounts, _, own, rfl, fresh, _, others⟩ := SharedHost.authLogin_cases signedIn
  refine ⟨own, rfl, ?_⟩
  intro other data found
  rw [accounts]
  by_cases same : other = own
  · subst same
    obtain rfl := Option.some.inj (fresh.symm.trans found)
    rw [Function.update_self]
    exact ⟨schemaName, account, rfl, (SharedHost.signInAccount_eq_some.mp active).1, rfl⟩
  · rw [others other same] at found
    rw [Function.update_of_ne same]
    exact backed other data (SharedHost.of_flush_session found)

theorem SharedHost.flush_getUser {schemaName : String} {key : Nat} {kept : Option Nat}
    {user : Option Pk} (loaded : site.getUser secret schemaName (some key) = (after, kept, user)) :
    (after.flush kept).session key = none := by
  rcases SharedHost.getUser_cases secret site schemaName (some key) with
    (nobody | flushed) | ⟨_, _, _, _, _, _, _, held⟩
  · rw [nobody] at loaded
    cases loaded
    rw [SharedHost.flush_session, if_pos rfl]
  · rw [flushed] at loaded
    cases loaded
    rw [SharedHost.flush_none, SharedHost.flush_session, if_pos rfl]
  · rw [held] at loaded
    cases loaded
    rw [SharedHost.flush_session, if_pos rfl]

end Requests

section Answers

variable {secret : SiteSecret} {history : HostHistory} {after : SharedHost}
  {request : HostRequest} {action : HostAction} {response : HostResponse}

/-- A request that a view answers is bound, and its user loaded, before the view acts. -/
theorem SharedHost.respond_cases {site : SharedHost}
    (responded : site.respond secret request action = (after, response)) :
    (after = site ∧ response.user = none ∧ response.signedIn = none ∧
        response.sessionKey = request.sessionKey ∧
        ∀ binding drop, response.routed ≠ .bound binding drop) ∨
      ∃ binding drop loaded key cookie,
        site.processRequest secret request.toTenantRequest = .bound binding drop ∧
        site.getUser secret binding.schemaName request.sessionKey = (loaded, key, response.user) ∧
        loaded.act secret binding key response.user action =
          (after, response.signedIn, cookie, response.sessionKey) ∧
        response.routed = .bound binding drop ∧
        response.tenantCookie = if drop then some .cleared else cookie := by
  unfold SharedHost.respond at responded
  dsimp only at responded
  cases routed : site.processRequest secret request.toTenantRequest with
  | notFound =>
      rw [routed] at responded
      cases responded
      exact .inl ⟨rfl, rfl, rfl, rfl, fun _ _ same => by cases same⟩
  | healthz drop =>
      rw [routed] at responded
      cases responded
      exact .inl ⟨rfl, rfl, rfl, rfl, fun _ _ same => by cases same⟩
  | bound binding drop =>
      rw [routed] at responded
      cases responded
      exact .inr ⟨binding, drop, _, _, _, rfl, rfl, rfl, rfl, rfl⟩

theorem HostHistory.signedOut_of_kept (kept : response.sessionKey = request.sessionKey) :
    history.signedOut request response action = history.signedInAs := by
  unfold HostHistory.signedOut
  rw [kept]
  cases action with
  | logout => cases request.sessionKey <;> rfl
  | browse => rfl
  | passkey _ _ => rfl
  | link _ _ => rfl

theorem HostHistory.signedOut_of_ne (staying : action ≠ .logout) :
    history.signedOut request response action = history.signedInAs := by
  cases action with
  | logout => exact absurd rfl staying
  | browse => rfl
  | passkey _ _ => rfl
  | link _ _ => rfl

theorem HostHistory.noted_of_nobody (nobody : response.signedIn = none) :
    history.noted request action response = history.signedOut request response action := by
  unfold HostHistory.noted
  rw [nobody]

/-- What an answer leaves of the sessions and of the ledger: at most one session is flushed, and the
ledger forgets it if its holder signed out; or an account signs in, and the ledger says so. -/
theorem HostHistory.answer_cases
    (responded : history.site.respond secret request action = (after, response)) :
    (∃ flushed, response.signedIn = none ∧ after = history.site.flush flushed ∧
        (response.sessionKey = request.sessionKey ∨ response.sessionKey = none) ∧
        (history.noted request action response = history.signedInAs ∨
          ∃ key, after.session key = none ∧
            history.noted request action response = Function.update history.signedInAs key none)) ∨
      ∃ flushed schemaName owner account kept own, response.signedIn = some (schemaName, owner) ∧
        response.sessionKey = some own ∧
        history.site.signInAccount schemaName owner = some account ∧
        (history.site.flush flushed).authLogin secret owner account kept = (after, some own) ∧
        history.noted request action response =
          Function.update history.signedInAs own (some (schemaName, owner)) := by
  rcases SharedHost.respond_cases responded with
    ⟨rfl, _, nobody, kept, _⟩ | ⟨binding, drop, loaded, key, cookie, _, found, acted, _, _⟩
  · refine .inl ⟨none, nobody, rfl, .inl kept, .inl ?_⟩
    rw [noted_of_nobody nobody, signedOut_of_kept kept]
  · have once : (key = request.sessionKey ∨ key = none) ∧
        ∀ flushed, flushed = none ∨ flushed = key →
          ∃ whole, loaded.flush flushed = history.site.flush whole := by
      rcases SharedHost.getUser_cases secret history.site binding.schemaName request.sessionKey with
        (nobody | flushed) | ⟨_, _, _, _, _, _, _, held⟩
      · rw [nobody] at found
        simp only [Prod.mk.injEq] at found
        obtain ⟨rfl, rfl, _⟩ := found
        exact ⟨.inl rfl, fun flushed _ => ⟨flushed, rfl⟩⟩
      · rw [flushed] at found
        simp only [Prod.mk.injEq] at found
        obtain ⟨rfl, rfl, _⟩ := found
        refine ⟨.inr rfl, fun flushed either => ⟨request.sessionKey, ?_⟩⟩
        obtain rfl : flushed = none := either.elim id id
        rfl
      · rw [held] at found
        simp only [Prod.mk.injEq] at found
        obtain ⟨rfl, rfl, _⟩ := found
        exact ⟨.inl rfl, fun flushed _ => ⟨flushed, rfl⟩⟩
    obtain ⟨flushed, given, ⟨nobody, same, started⟩ |
        ⟨staying, schemaName, owner, account, kept, who, active, login⟩⟩ :=
      SharedHost.act_cases acted
    · obtain ⟨whole, flushes⟩ := once.2 flushed given
      refine .inl ⟨whole, nobody, same.trans flushes, ?_, ?_⟩
      · rcases started with held | gone
        · rw [held]
          exact once.1
        · exact .inr gone
      · rw [noted_of_nobody nobody]
        by_cases leaving : action = .logout
        · subst leaving
          simp only [SharedHost.act, Prod.mk.injEq] at acted
          obtain ⟨rfl, _, _, gone⟩ := acted
          unfold HostHistory.signedOut
          dsimp only
          rw [← gone]
          cases held : request.sessionKey with
          | none => exact .inl rfl
          | some left =>
              rw [held] at found
              exact .inr ⟨left, SharedHost.flush_getUser found, rfl⟩
        · exact .inl (signedOut_of_ne leaving)
    · obtain ⟨whole, flushes⟩ := once.2 flushed given
      rw [flushes] at login
      obtain ⟨_, _, own, started, _⟩ := SharedHost.authLogin_cases login
      rw [started] at login
      have there : history.site.signInAccount schemaName owner = some account := by
        have unchanged := congrArg (·.signInAccount schemaName owner) flushes
        simp only [SharedHost.flush_signInAccount] at unchanged
        exact unchanged.symm.trans active
      refine .inr ⟨whole, schemaName, owner, account, kept, own, who, started, there, login, ?_⟩
      unfold HostHistory.noted
      rw [who, started, signedOut_of_ne staying]

theorem Backed.respond (backed : Backed secret history.site history.signedInAs)
    (responded : history.site.respond secret request action = (after, response)) :
    after.accounts = history.site.accounts ∧
      Backed secret after (history.noted request action response) := by
  obtain ⟨flushed, _, rfl, _, told⟩ |
      ⟨flushed, schemaName, owner, account, kept, own, _, _, active, login, told⟩ :=
    HostHistory.answer_cases responded
  · refine ⟨SharedHost.flush_accounts _ _, ?_⟩
    obtain same | ⟨key, gone, forgets⟩ := told
    · rw [same]
      exact backed.flush flushed
    · rw [forgets]
      exact (backed.flush flushed).forgotten gone
  · obtain ⟨accounts, _⟩ := SharedHost.authLogin_cases login
    rw [← SharedHost.flush_signInAccount _ flushed] at active
    obtain ⟨_, started, signed⟩ := (backed.flush flushed).authLogin active login
    cases started
    rw [told]
    exact ⟨accounts.trans (SharedHost.flush_accounts _ _), signed⟩

/-- Whom a request is answered as: nobody, or the active account that signed in with the session, in
the schema the request is bound to. -/
theorem HostHistory.Sound.answered (sound : history.Sound secret)
    (responded : history.site.respond secret request action = (after, response))
    {binding : Binding} {drop : Bool} {user : Pk}
    (bound : response.routed = .bound binding drop) (known : response.user = some user) :
    (∃ key data, request.sessionKey = some key ∧ history.site.session key = some data ∧
        history.signedInAs key = some (binding.schemaName, user)) ∧
      ∃ account, history.site.signInAccount binding.schemaName user = some account := by
  rcases SharedHost.respond_cases responded with
    ⟨_, nobody, _⟩ | ⟨_, _, loaded, key, cookie, _, found, _, routed, _⟩
  · rw [nobody] at known
    cases known
  · rw [bound] at routed
    cases routed
    rw [known] at found
    rcases SharedHost.getUser_cases secret history.site binding.schemaName request.sessionKey with
      (nobody | flushed) | ⟨started, data, account, presented, held, active, hash, answered⟩
    · rw [nobody] at found
      cases found
    · rw [flushed] at found
      cases found
    · rw [answered] at found
      obtain rfl : data.userId = user := by
        injection found with _ found
        injection found with _ found
        exact Option.some.inj found
      obtain ⟨schemaName, owner, ledger, there, sameHash⟩ := sound.backed started data held
      have here := (SharedHost.signInAccount_eq_some.mp active).1
      obtain ⟨rfl, _⟩ := sound.apart here there (hash.symm.trans sameHash)
      exact ⟨⟨started, data, presented, held, ledger⟩, account, active⟩

/-- A request is bound to an active church that a cookie of the site names, and to what its hostname
leads to. -/
theorem RoutingTables.of_processRequest {tables : RoutingTables} {request : TenantRequest}
    {binding : Binding} {drop : Bool}
    (routed : tables.processRequest secret request = .bound binding drop) :
    (∃ raw tenant, request.tenantCookie = some raw ∧ secret.readTenantCookie raw =
        some tenant.schemaName ∧ tenant ∈ tables.registry ∧ tenant.isActive = true ∧
        binding = .church tenant) ∨
      tables.hostBinding request.hostname = some binding := by
  have byHostname : ∀ drop', tables.routeByHostname request drop' = .bound binding drop →
      tables.hostBinding request.hostname = some binding := by
    intro drop' routed
    unfold RoutingTables.routeByHostname at routed
    split at routed
    · next led =>
        cases routed
        exact led
    · split at routed <;> cases routed
  unfold RoutingTables.processRequest at routed
  split at routed
  · exact .inr (byHostname _ routed)
  · next raw carried =>
      split at routed
      · next tenant resolved =>
          cases routed
          obtain ⟨schemaName, named, found⟩ := Option.bind_eq_some_iff.mp resolved
          obtain ⟨listed, rfl, active⟩ := of_resolveTenant found
          exact .inl ⟨raw, tenant, carried, named, listed, active, rfl⟩
      · exact .inr (byHostname _ routed)

end Answers

/-! ## Every event keeps the ledger true -/

namespace HostHistory

variable {secret : SiteSecret} {history : HostHistory}

theorem Sound.serve (sound : history.Sound secret) (request : HostRequest) (action : HostAction) :
    (history.serve secret request action).1.Sound secret := by
  obtain ⟨accounts, backed⟩ := sound.backed.respond
    ((Prod.eta _).symm : history.site.respond secret request action = _)
  refine ⟨?_, ?_, backed⟩
  · intro schemaName other user otherUser account otherAccount here there
    change (history.site.respond secret request action).1.accounts = _ at accounts
    change ((history.site.respond secret request action).1.accounts _)[_]? = _ at here there
    rw [accounts] at here there
    exact sound.apart here there
  · intro schemaName account member
    change account ∈ (history.site.respond secret request action).1.accounts schemaName at member
    change (history.site.respond secret request action).1.accounts = _ at accounts
    rw [accounts] at member
    exact sound.drawn account member

theorem step_register_getElem? {schemaName password other : String} {user : Pk}
    {account : HostAccount}
    (found : ((history.step secret (.register schemaName password)).site.accounts other)[user]? =
      some account) :
    (history.site.accounts other)[user]? = some account ∨
      other = schemaName ∧ user = (history.site.accounts schemaName).length ∧
        account = ⟨password, true⟩ := by
  unfold HostHistory.step at found
  dsimp only at found
  by_cases same : other = schemaName
  · subst same
    rw [Function.update_self, List.getElem?_append] at found
    split at found
    · exact .inl found
    · next beyond =>
        obtain ⟨within, there⟩ := List.getElem?_eq_some_iff.mp found
        rw [List.length_singleton] at within
        have atEnd := Nat.sub_eq_zero_iff_le.mp (Nat.lt_one_iff.mp within)
        refine .inr ⟨rfl, Nat.le_antisymm atEnd (Nat.not_lt.mp beyond), ?_⟩
        rw [← there, List.getElem_singleton]
  · rw [Function.update_of_ne same] at found
    exact .inl found

theorem getElem?_step_register {other : String} {user : Pk} {account : HostAccount}
    (found : (history.site.accounts other)[user]? = some account) (schemaName password : String) :
    ((history.step secret (.register schemaName password)).site.accounts other)[user]? =
      some account := by
  unfold HostHistory.step
  dsimp only
  by_cases same : other = schemaName
  · subst same
    rw [Function.update_self, List.getElem?_append_left (List.getElem?_eq_some_iff.mp found).1]
    exact found
  · rw [Function.update_of_ne same]
    exact found

theorem step_setActive_getElem? (schemaName other : String) (user otherUser : Pk)
    (isActive : Bool) :
    ((history.step secret (.setActive schemaName user isActive)).site.accounts other)[otherUser]? =
      ((history.site.accounts other)[otherUser]?).map fun account =>
        if other = schemaName ∧ user = otherUser then { account with isActive := isActive }
        else account := by
  unfold HostHistory.step
  dsimp only
  by_cases same : other = schemaName
  · subst same
    rw [Function.update_self, List.getElem?_modify]
    cases (history.site.accounts other)[otherUser]? with
    | none => rfl
    | some account => simp
  · rw [Function.update_of_ne same]
    simp [same]

theorem Sound.register (sound : history.Sound secret) {schemaName password : String}
    (new : DrawsAnew secret history (.register schemaName password)) :
    (history.step secret (.register schemaName password)).Sound secret := by
  have later : ∀ {other : String} {user : Pk} {account : HostAccount},
      (history.site.accounts other)[user]? = some account →
        secret.sessionAuthHash account.password ≠ secret.sessionAuthHash password :=
    fun found => (new _ (sound.drawn _ (List.mem_of_getElem? found))).symm
  refine ⟨?_, ?_, ?_⟩
  · intro one other user otherUser account otherAccount here there sameHash
    rcases step_register_getElem? here with earlier | ⟨rfl, rfl, rfl⟩ <;>
      rcases step_register_getElem? there with otherEarlier | ⟨rfl, rfl, rfl⟩
    · exact sound.apart earlier otherEarlier sameHash
    · exact absurd sameHash (later earlier)
    · exact absurd sameHash.symm (later otherEarlier)
    · exact ⟨rfl, rfl⟩
  · intro other account member
    obtain ⟨user, found⟩ := List.mem_iff_getElem?.mp member
    rcases step_register_getElem? found with found | ⟨_, _, rfl⟩
    · exact List.mem_cons_of_mem _ (sound.drawn account (List.mem_of_getElem? found))
    · exact List.mem_cons_self
  · intro key data held
    obtain ⟨other, account, ledger, there, sameHash⟩ := sound.backed key data held
    exact ⟨other, account, ledger, getElem?_step_register there schemaName password, sameHash⟩

theorem Sound.setActive (sound : history.Sound secret) (schemaName : String) (user : Pk)
    (isActive : Bool) :
    (history.step secret (.setActive schemaName user isActive)).Sound secret := by
  have before : ∀ {other : String} {otherUser : Pk} {account : HostAccount},
      ((history.step secret (.setActive schemaName user isActive)).site.accounts
        other)[otherUser]? = some account →
      ∃ earlier, (history.site.accounts other)[otherUser]? = some earlier ∧
        earlier.password = account.password := by
    intro other otherUser account found
    rw [step_setActive_getElem?] at found
    obtain ⟨earlier, there, rfl⟩ := Option.map_eq_some_iff.mp found
    refine ⟨earlier, there, ?_⟩
    split <;> rfl
  refine ⟨?_, ?_, ?_⟩
  · intro one other user otherUser account otherAccount here there sameHash
    obtain ⟨earlier, here, same⟩ := before here
    obtain ⟨otherEarlier, there, otherSame⟩ := before there
    rw [← same, ← otherSame] at sameHash
    exact sound.apart here there sameHash
  · intro other account member
    obtain ⟨otherUser, found⟩ := List.mem_iff_getElem?.mp member
    obtain ⟨earlier, there, same⟩ := before found
    rw [← same]
    exact sound.drawn earlier (List.mem_of_getElem? there)
  · intro key data held
    obtain ⟨other, account, ledger, there, sameHash⟩ := sound.backed key data held
    refine ⟨other, _, ledger, (step_setActive_getElem? _ _ _ _ _).trans (congrArg _ there), ?_⟩
    rw [sameHash]
    split <;> rfl

theorem Sound.step (sound : history.Sound secret) {event : HostEvent}
    (new : DrawsAnew secret history event) : (history.step secret event).Sound secret := by
  cases event with
  | register schemaName password => exact sound.register new
  | setActive schemaName user isActive => exact sound.setActive schemaName user isActive
  | provision tenant hostname =>
      unfold HostHistory.step
      dsimp only
      split
      · exact sound
      · exact ⟨sound.apart, sound.drawn, sound.backed⟩
  | setChurchActive schemaName isActive => exact ⟨sound.apart, sound.drawn, sound.backed⟩
  | visit browser path action =>
      have served := sound.serve ((history.jars browser).request path) action
      exact ⟨served.apart, served.drawn, served.backed⟩
  | forge request action => exact sound.serve request action

theorem Sound.start (secret : SiteSecret) (hostname : String) :
    (start hostname).Sound secret where
  apart := by
    intro _ _ _ _ _ _ here
    cases here
  drawn := by
    intro _ _ member
    cases member
  backed := by
    intro key data held
    cases held

/-! ## The sessions that browsers keep -/

/-- What an answer leaves of a session that was there: nothing, or the session as it was, and then
the ledger says of it what it said before.  The session that the visitor leaves with is their own,
or the one they came with. -/
theorem Sound.sessions_kept (sound : history.Sound secret) {request : HostRequest}
    {action : HostAction} {after : SharedHost} {response : HostResponse}
    (responded : history.site.respond secret request action = (after, response)) :
    history.site.sessions.length ≤ after.sessions.length ∧
      (∀ key data, key < history.site.sessions.length → after.session key = some data →
        history.site.session key = some data ∧
          history.noted request action response key = history.signedInAs key) ∧
      ∀ key, response.sessionKey = some key →
        response.signedIn = none ∧ request.sessionKey = some key ∨
          ∃ who, response.signedIn = some who ∧ key < after.sessions.length ∧
            history.noted request action response key = some who := by
  obtain ⟨flushed, nobody, rfl, started, told⟩ |
      ⟨flushed, schemaName, owner, account, kept, own, who, started, active, login, told⟩ :=
    answer_cases responded
  · refine ⟨(SharedHost.flush_length _ _).ge, ?_, ?_⟩
    · intro key data _ found
      refine ⟨SharedHost.of_flush_session found, ?_⟩
      obtain same | ⟨forgotten, gone, forgets⟩ := told
      · rw [same]
      · rw [forgets, Function.update_of_ne]
        rintro rfl
        rw [gone] at found
        cases found
    · intro key left
      refine .inl ⟨nobody, ?_⟩
      obtain held | gone := started
      · exact held ▸ left
      · rw [gone] at left
        cases left
  · obtain ⟨_, _, _, same, fresh, place, others⟩ := SharedHost.authLogin_cases login
    cases same
    have within := SharedHost.lt_of_session fresh
    refine ⟨?_, ?_, ?_⟩
    · obtain ⟨_, rfl⟩ | rfl := place
      · exact (SharedHost.flush_length _ _).ge
      · rw [SharedHost.flush_length] at within
        exact within.le
    · intro key data earlier found
      by_cases same : key = own
      · -- The account was signed in with this session already, so it is whose it was.
        subst same
        obtain ⟨_, rfl⟩ | rfl := place
        · have before := SharedHost.of_flush_session found
          refine ⟨before, ?_⟩
          obtain rfl := Option.some.inj (fresh.symm.trans found)
          obtain ⟨other, account', ledger, there, sameHash⟩ := sound.backed key _ before
          obtain ⟨rfl, _⟩ :=
            sound.apart (SharedHost.signInAccount_eq_some.mp active).1 there sameHash
          rw [told, Function.update_self, ledger]
        · rw [SharedHost.flush_length] at earlier
          exact absurd earlier (Nat.lt_irrefl _)
      · rw [others key same] at found
        refine ⟨SharedHost.of_flush_session (SharedHost.of_flush_session found), ?_⟩
        rw [told, Function.update_of_ne same]
    · intro key left
      rw [started] at left
      cases left
      exact .inr ⟨_, who, within, by rw [told, Function.update_self]⟩

/-- A browser's session was started, and while it is there the ledger says that whom the browser
last signed in as signed in with it. -/
structure OwnSessions (history : HostHistory) : Prop where
  within : ∀ browser key, (history.jars browser).sessionKey = some key →
    key < history.site.sessions.length
  own : ∀ browser key data, (history.jars browser).sessionKey = some key →
    history.site.session key = some data → history.signedInAs key = history.browserAs browser

theorem OwnSessions.start (hostname : String) : (start hostname).OwnSessions where
  within := nofun
  own := nofun

theorem OwnSessions.serve (own : history.OwnSessions) (sound : history.Sound secret)
    (request : HostRequest) (action : HostAction) :
    (history.serve secret request action).1.OwnSessions := by
  obtain ⟨grown, kept, _⟩ := sound.sessions_kept
    ((Prod.eta _).symm : history.site.respond secret request action = _)
  constructor
  · intro browser key held
    exact (own.within browser key held).trans_le grown
  · intro browser key data held found
    obtain ⟨before, same⟩ := kept key data (own.within browser key held) found
    exact same.trans (own.own browser key data held before)

theorem OwnSessions.visit (own : history.OwnSessions) (sound : history.Sound secret)
    (browser : Nat) (path : String) (action : HostAction) :
    (history.step secret (.visit browser path action)).OwnSessions := by
  obtain ⟨grown, kept, leaves⟩ := sound.sessions_kept ((Prod.eta _).symm :
    history.site.respond secret ((history.jars browser).request path) action = _)
  have served := own.serve sound ((history.jars browser).request path) action
  constructor
  · intro other key held
    change (Function.update history.jars browser _ other).sessionKey = some key at held
    by_cases same : other = browser
    · subst same
      rw [Function.update_self] at held
      obtain ⟨_, earlier⟩ | ⟨_, _, within, _⟩ := leaves key held
      · exact (own.within other key earlier).trans_le grown
      · exact within
    · rw [Function.update_of_ne same] at held
      exact served.within other key held
  · intro other key data held found
    change (Function.update history.jars browser _ other).sessionKey = some key at held
    change history.noted _ action (history.site.respond secret _ action).2 key =
      Function.update history.browserAs browser
        ((history.site.respond secret _ action).2.signedIn.or _) other
    by_cases same : other = browser
    · subst same
      rw [Function.update_self] at held ⊢
      obtain ⟨nobody, earlier⟩ | ⟨_, who, _, ledger⟩ := leaves key held
      · obtain ⟨before, still⟩ := kept key data (own.within other key earlier) found
        rw [still, nobody, Option.none_or]
        exact own.own other key data earlier before
      · rw [ledger, who, Option.some_or]
    · rw [Function.update_of_ne same] at held ⊢
      exact served.own other key data held found

theorem OwnSessions.step (own : history.OwnSessions) (sound : history.Sound secret)
    {event : HostEvent} : (history.step secret event).OwnSessions := by
  cases event with
  | register schemaName password => exact ⟨own.within, own.own⟩
  | setActive schemaName user isActive => exact ⟨own.within, own.own⟩
  | provision tenant hostname =>
      unfold HostHistory.step
      dsimp only
      split
      · exact own
      · exact ⟨own.within, own.own⟩
  | setChurchActive schemaName isActive => exact ⟨own.within, own.own⟩
  | visit browser path action => exact own.visit sound browser path action
  | forge request action => exact own.serve sound request action

end HostHistory

/-- What sessions promise at one point of a history. -/
structure SessionLaw (secret : SiteSecret) (history : HostHistory) : Prop where
  answered : ∀ (request : HostRequest) (action : HostAction) (binding : Binding) (drop : Bool) user,
    (history.site.respond secret request action).2.routed = .bound binding drop →
      (history.site.respond secret request action).2.user = some user →
        (∃ key, request.sessionKey = some key ∧
          history.signedInAs key = some (binding.schemaName, user)) ∧
        ∃ account, history.site.signInAccount binding.schemaName user = some account
  led : ∀ (request : HostRequest) (action : HostAction) (binding : Binding) (drop : Bool),
    (history.site.respond secret request action).2.routed = .bound binding drop →
      (∃ raw tenant, request.tenantCookie = some raw ∧
          secret.readTenantCookie raw = some tenant.schemaName ∧
          tenant ∈ history.site.registry ∧ tenant.isActive = true ∧ binding = .church tenant) ∨
        history.site.hostBinding request.hostname = some binding
  browsers : ∀ browser path (action : HostAction) (binding : Binding) (drop : Bool) user,
    (history.site.respond secret ((history.jars browser).request path) action).2.routed =
        .bound binding drop →
      (history.site.respond secret ((history.jars browser).request path) action).2.user =
          some user →
        history.browserAs browser = some (binding.schemaName, user)

theorem HostHistory.Sound.law {secret : SiteSecret} {history : HostHistory}
    (sound : history.Sound secret) (own : history.OwnSessions) : SessionLaw secret history where
  answered request action binding drop user bound known := by
    obtain ⟨⟨key, _, presented, _, ledger⟩, active⟩ :=
      sound.answered (Prod.eta _).symm bound known
    exact ⟨⟨key, presented, ledger⟩, active⟩
  led request action binding drop bound := by
    rcases SharedHost.respond_cases
        ((Prod.eta _).symm : history.site.respond secret request action = _) with
      ⟨_, _, _, _, unbound⟩ | ⟨_, _, _, _, _, routed, _, _, same, _⟩
    · exact absurd bound (unbound binding drop)
    · rw [bound] at same
      cases same
      exact RoutingTables.of_processRequest routed
  browsers browser path action binding drop user bound known := by
    obtain ⟨⟨key, data, presented, held, ledger⟩, _⟩ :=
      sound.answered (Prod.eta _).symm bound known
    exact (own.own browser key data presented held).symm.trans ledger

end VolunteerScreening.Accounts
