import VolunteerScreening.Results.LinkUse
import VolunteerScreening.Library.Interleaving

/-!
# Posting a sign-in link twice at once

A POST reads its link's row, checks the row it read, and saves `consumed_at`
later.  No lock is held from the read to the save, so POSTs interleave in any
order.  At most one of them signs its sender in exactly when every save finds
the stored row as unspent as the check did.
-/

namespace VolunteerScreening.Accounts

open Tenants

inductive PostPhase where
  | loaded
  | checked
  | refused
  | signedIn
  deriving DecidableEq

/-- A POST under way: the link as it was read, and how far the request has come. -/
structure Posting (Digest : Type) where
  signIn : SignIn Digest
  clock : Clock
  phase : PostPhase

structure PostRequest (Payload : Type) where
  payload : Payload
  clock : Clock

variable {Payload Digest : Type}

def Site.isConsumed (site : Site Digest) (schema : String) (pk : Pk) : Bool :=
  ((site.schemas schema).links[pk]?).any fun row => row.consumedAt.isSome

def Site.hasLink (site : Site Digest) (schema : String) (pk : Pk) : Prop :=
  pk < (site.schemas schema).links.length

namespace Posting

variable (posting : Posting Digest)

def schema : String := posting.signIn.target.schemaName

def pk : Pk := posting.signIn.found.pk

def signedInThrough (schema : String) (pk : Pk) : Bool :=
  decide (posting.phase = .signedIn ∧ posting.schema = schema ∧ posting.pk = pk)

/-- The next part of the request: the check of the row as it was read, then the save. -/
def advance (site : Site Digest) : Posting Digest × Site Digest :=
  match posting.phase with
  | .loaded =>
      if posting.signIn.found.row.isUsable posting.clock.second &&
          posting.signIn.found.user.isActive then
        ({ posting with phase := .checked }, site)
      else ({ posting with phase := .refused }, site)
  | .checked =>
      ({ posting with phase := .signedIn },
        site.consume posting.schema posting.pk posting.clock.third)
  | .refused => (posting, site)
  | .signedIn => (posting, site)

/-- Only the save writes, and only a row that was read unspent gets as far. -/
theorem advance_cases (site : Site Digest) :
    (posting.phase = .checked ∧ posting.advance site =
        ({ posting with phase := .signedIn },
          site.consume posting.schema posting.pk posting.clock.third)) ∨
      posting.phase ≠ .checked ∧ ∃ phase, (phase = .signedIn ↔ posting.phase = .signedIn) ∧
        (phase = .checked → posting.signIn.found.row.consumedAt = none) ∧
        posting.advance site = ({ posting with phase := phase }, site) := by
  obtain ⟨signIn, clock, phase⟩ := posting
  cases phase with
  | checked => exact .inl ⟨rfl, rfl⟩
  | loaded =>
      refine .inr ⟨nofun, ?_⟩
      dsimp only [advance]
      split
      · next accepted =>
          rw [Bool.and_eq_true] at accepted
          have unconsumed := ((signIn.found.row.isUsable_iff clock.second).mp accepted.1).1
          exact ⟨.checked, by simp, fun _ => unconsumed, rfl⟩
      · exact ⟨.refused, by simp, nofun, rfl⟩
  | refused => exact .inr ⟨nofun, .refused, by simp, nofun, rfl⟩
  | signedIn => exact .inr ⟨nofun, .signedIn, by simp, nofun, rfl⟩

end Posting

section Service

variable [DecidableEq Digest] (service : LinkService Payload Digest)

namespace LinkService

/-- A POST up to the row it reads.  One that finds no link is refused before it reads any. -/
def enterPost (request : PostRequest Payload) (site : Site Digest) : Option (Posting Digest) :=
  match service.openLink site request.payload request.clock.first with
  | .error _ => none
  | .ok (target, secret) =>
      ((site.schemas target.schemaName).findLink (service.hash secret)).map fun found =>
        ⟨⟨target, found⟩, request.clock, .loaded⟩

def postStep : Interleaved (Site Digest) (Posting Digest) → Turn (PostRequest Payload) →
    Interleaved (Site Digest) (Posting Digest) :=
  Interleaved.step service.enterPost Posting.advance

variable {service} {site : Site Digest} {payload : Payload} {clock : Clock}

theorem linkConsume_of_enterPost_none (binding : Binding)
    (outside : service.enterPost ⟨payload, clock⟩ site = none) :
    (service.linkConsume site binding .post payload clock).1 = site ∧
      (service.linkConsume site binding .post payload clock).2.2.isSignIn = false := by
  obtain ⟨reason, _, visited⟩ | ⟨signIn, accepted, _⟩ :=
    service.linkConsume_cases site binding .post payload clock
  · rw [visited]
    exact ⟨rfl, rfl⟩
  · obtain ⟨secret, opened, looked, _⟩ := verifyLink_accepted accepted
    simp [enterPost, opened, looked] at outside

/-- Left alone, a POST that reads a link does what the page does. -/
theorem linkConsume_of_enterPost (binding : Binding) {posting : Posting Digest}
    (entered : service.enterPost ⟨payload, clock⟩ site = some posting) :
    (service.linkConsume site binding .post payload clock).1 =
        ((posting.advance site).1.advance site).2 ∧
      (service.linkConsume site binding .post payload clock).2.2.isSignIn =
        decide (((posting.advance site).1.advance site).1.phase = .signedIn) := by
  unfold enterPost at entered
  split at entered
  · cases entered
  · next target secret opened =>
      obtain ⟨found, looked, rfl⟩ := Option.map_eq_some_iff.mp entered
      cases accepted : found.row.isUsable clock.second && found.user.isActive with
      | true =>
          have both := Bool.and_eq_true_iff.mp accepted
          have checked : (service.verifyLink site binding payload clock).result =
              .ok ⟨target, found⟩ := by
            rw [verifyLink_opened opened, checkLink_of_usable looked both.1 both.2]
          simp [linkConsume, consumeLink_accepted checked, consumeLink_presented,
            Presented.response, checked, SignIn.response, LinkResponse.isSignIn, Posting.advance,
            accepted, Posting.schema, Posting.pk]
      | false =>
          have refused : (service.verifyLink site binding payload clock).result =
              .error genericError := by
            rw [verifyLink_opened opened]
            simp [checkLink, looked, accepted]
          simp [linkConsume, consumeLink_refused refused, consumeLink_presented,
            Presented.response, refused, LinkResponse.isSignIn, Posting.advance, accepted]

theorem enterPost_found {request : PostRequest Payload} {posting : Posting Digest}
    (entered : service.enterPost request site = some posting) :
    posting.phase = .loaded ∧
      (site.schemas posting.schema).links[posting.pk]? = some posting.signIn.found.row := by
  unfold enterPost at entered
  split at entered
  · cases entered
  · obtain ⟨found, looked, rfl⟩ := Option.map_eq_some_iff.mp entered
    exact ⟨rfl, (LinkTables.findLink_eq_some_iff.mp looked).1⟩

end LinkService

end Service

/-- At most one sender was signed in through any one link. -/
def SingleUse (shared : Interleaved (Site Digest) (Posting Digest)) : Prop :=
  ∀ schema pk, shared.parties.countP (·.signedInThrough schema pk) ≤ 1

def SavesUnspent (shared : Interleaved (Site Digest) (Posting Digest))
    (turn : Turn (PostRequest Payload)) : Prop :=
  ∀ position posting, turn = .advance position → shared.parties[position]? = some posting →
    posting.phase = .checked → shared.store.isConsumed posting.schema posting.pk = false

/-! ## What every turn keeps -/

theorem Site.isConsumed_of_row {site : Site Digest} {schema : String} {pk : Pk}
    {row : LoginLink Digest} (found : (site.schemas schema).links[pk]? = some row) :
    site.isConsumed schema pk = row.consumedAt.isSome := by
  simp [Site.isConsumed, found]

theorem Site.isConsumed_consume {site : Site Digest} {schema : String} {pk : Pk} (now : Nat)
    (present : site.hasLink schema pk) (schema' : String) (pk' : Pk) :
    (site.consume schema pk now).isConsumed schema' pk' =
      (decide (schema = schema' ∧ pk = pk') || site.isConsumed schema' pk') := by
  unfold Site.isConsumed Site.consume
  rw [Site.setTables_schemas]
  by_cases sameSchema : schema' = schema
  · subst sameSchema
    rw [if_pos rfl]
    by_cases samePk : pk = pk'
    · subst samePk
      rw [LinkTables.consume_self now (List.getElem?_eq_getElem present)]
      simp [LoginLink.consume]
    · rw [LinkTables.consume_other now samePk]
      simp [samePk]
  · rw [if_neg sameSchema]
    simp [Ne.symm sameSchema]

theorem Site.hasLink_consume {site : Site Digest} {schema schema' : String} {pk pk' : Pk}
    {now : Nat} : (site.consume schema pk now).hasLink schema' pk' ↔ site.hasLink schema' pk' := by
  unfold Site.hasLink Site.consume
  rw [Site.setTables_schemas]
  split
  · next same =>
      subst same
      simp [LinkTables.consume]
  · rfl

/-- The POSTs under way read rows that are there, a link is spent because it was from the start or
because somebody was signed in through it, and nobody passes the check for a link that was spent
from the start. -/
structure Racing (start : Site Digest) (shared : Interleaved (Site Digest) (Posting Digest)) :
    Prop where
  present : ∀ posting ∈ shared.parties, shared.store.hasLink posting.schema posting.pk
  spent : ∀ schema pk, shared.store.isConsumed schema pk = true ↔
    start.isConsumed schema pk = true ∨
      0 < shared.parties.countP (·.signedInThrough schema pk)
  unspent : ∀ posting ∈ shared.parties, posting.signIn.found.row.consumedAt = none →
    start.isConsumed posting.schema posting.pk = false
  checked : ∀ posting ∈ shared.parties, posting.phase = .checked →
    posting.signIn.found.row.consumedAt = none

section Turns

variable {start : Site Digest} {shared : Interleaved (Site Digest) (Posting Digest)}

theorem racing_start (site : Site Digest) : Racing site ⟨site, []⟩ where
  present _ listed := absurd listed List.not_mem_nil
  spent _ _ := by simp
  unspent _ listed := absurd listed List.not_mem_nil
  checked _ listed := absurd listed List.not_mem_nil

theorem Racing.join (racing : Racing start shared) {posting : Posting Digest}
    (loaded : posting.phase = .loaded)
    (found : (shared.store.schemas posting.schema).links[posting.pk]? =
      some posting.signIn.found.row) :
    Racing start ⟨shared.store, shared.parties ++ [posting]⟩ := by
  have same : ∀ schema pk, (shared.parties ++ [posting]).countP (·.signedInThrough schema pk) =
      shared.parties.countP (·.signedInThrough schema pk) := by
    intro schema pk
    simp [List.countP_append, Posting.signedInThrough, loaded]
  constructor
  · intro other listed
    rcases List.mem_append.mp listed with earlier | new
    · exact racing.present other earlier
    · cases List.mem_singleton.mp new
      exact (List.getElem?_eq_some_iff.mp found).1
  · intro schema pk
    rw [same]
    exact racing.spent schema pk
  · intro other listed unconsumed
    rcases List.mem_append.mp listed with earlier | new
    · exact racing.unspent other earlier unconsumed
    · cases List.mem_singleton.mp new
      by_contra spent
      have consumed : shared.store.isConsumed posting.schema posting.pk = true :=
        (racing.spent _ _).mpr (.inl (by simpa using spent))
      rw [Site.isConsumed_of_row found, unconsumed] at consumed
      cases consumed
  · intro other listed checked
    rcases List.mem_append.mp listed with earlier | new
    · exact racing.checked other earlier checked
    · cases List.mem_singleton.mp new
      rw [loaded] at checked
      cases checked

theorem countP_signedIn {parties : List (Posting Digest)} {position : Nat}
    {posting : Posting Digest} (found : parties[position]? = some posting) (phase : PostPhase)
    (schema : String) (pk : Pk) :
    (parties.set position { posting with phase := phase }).countP (·.signedInThrough schema pk) +
        (posting.signedInThrough schema pk).toNat =
      parties.countP (·.signedInThrough schema pk) +
        (decide (phase = .signedIn ∧ posting.schema = schema ∧ posting.pk = pk)).toNat :=
  countP_set_eq _ found

theorem Racing.advance (racing : Racing start shared) {position : Nat} {posting : Posting Digest}
    (found : shared.parties[position]? = some posting) {phase : PostPhase}
    (sameOutcome : phase = .signedIn ↔ posting.phase = .signedIn)
    (checked : phase = .checked → posting.signIn.found.row.consumedAt = none) :
    (∀ schema pk, (shared.parties.set position { posting with phase := phase }).countP
        (·.signedInThrough schema pk) = shared.parties.countP (·.signedInThrough schema pk)) ∧
      Racing start
        ⟨shared.store, shared.parties.set position { posting with phase := phase }⟩ := by
  have listed := List.mem_of_getElem? found
  have same : ∀ schema pk, (shared.parties.set position { posting with phase := phase }).countP
      (·.signedInThrough schema pk) = shared.parties.countP (·.signedInThrough schema pk) := by
    intro schema pk
    have counted := countP_signedIn found phase schema pk
    have alike : decide (phase = .signedIn ∧ posting.schema = schema ∧ posting.pk = pk) =
        posting.signedInThrough schema pk :=
      decide_eq_decide.mpr (and_congr_left fun _ => sameOutcome)
    rw [alike] at counted
    exact Nat.add_right_cancel counted
  refine ⟨same, ?_, ?_, ?_, ?_⟩
  · intro other among
    rcases List.mem_or_eq_of_mem_set among with earlier | rfl
    · exact racing.present other earlier
    · exact racing.present posting listed
  · intro schema pk
    rw [same]
    exact racing.spent schema pk
  · intro other among unconsumed
    rcases List.mem_or_eq_of_mem_set among with earlier | rfl
    · exact racing.unspent other earlier unconsumed
    · exact racing.unspent posting listed unconsumed
  · intro other among passed
    rcases List.mem_or_eq_of_mem_set among with earlier | rfl
    · exact racing.checked other earlier passed
    · exact checked passed

theorem Racing.save (racing : Racing start shared) {position : Nat} {posting : Posting Digest}
    (found : shared.parties[position]? = some posting) (checked : posting.phase = .checked) :
    (∀ schema pk, (shared.parties.set position { posting with phase := .signedIn }).countP
        (·.signedInThrough schema pk) =
      shared.parties.countP (·.signedInThrough schema pk) +
        (decide (posting.schema = schema ∧ posting.pk = pk)).toNat) ∧
      Racing start ⟨shared.store.consume posting.schema posting.pk posting.clock.third,
        shared.parties.set position { posting with phase := .signedIn }⟩ := by
  have listed := List.mem_of_getElem? found
  have more : ∀ schema pk, (shared.parties.set position
      { posting with phase := .signedIn }).countP (·.signedInThrough schema pk) =
      shared.parties.countP (·.signedInThrough schema pk) +
        (decide (posting.schema = schema ∧ posting.pk = pk)).toNat := by
    intro schema pk
    have counted := countP_signedIn found .signedIn schema pk
    have before : posting.signedInThrough schema pk = false := by
      simp [Posting.signedInThrough, checked]
    rw [before, Bool.toNat_false, Nat.add_zero] at counted
    simpa using counted
  refine ⟨more, ?_, ?_, ?_, ?_⟩
  · intro other among
    apply Site.hasLink_consume.mpr
    rcases List.mem_or_eq_of_mem_set among with earlier | rfl
    · exact racing.present other earlier
    · exact racing.present posting listed
  · intro schema pk
    rw [Site.isConsumed_consume _ (racing.present posting listed), Bool.or_eq_true,
      racing.spent schema pk, more]
    by_cases same : posting.schema = schema ∧ posting.pk = pk
    · simp [same]
    · simp [same]
  · intro other among unconsumed
    rcases List.mem_or_eq_of_mem_set among with earlier | rfl
    · exact racing.unspent other earlier unconsumed
    · exact racing.unspent posting listed unconsumed
  · intro other among passed
    rcases List.mem_or_eq_of_mem_set among with earlier | rfl
    · exact racing.checked other earlier passed
    · cases passed

theorem Racing.singleUse_save_iff (racing : Racing start shared) (once : SingleUse shared)
    {position : Nat} {posting : Posting Digest}
    (found : shared.parties[position]? = some posting) (checked : posting.phase = .checked) :
    SingleUse ⟨shared.store.consume posting.schema posting.pk posting.clock.third,
        shared.parties.set position { posting with phase := .signedIn }⟩ ↔
      shared.store.isConsumed posting.schema posting.pk = false := by
  have listed := List.mem_of_getElem? found
  have more := (racing.save found checked).1
  have fresh := racing.unspent posting listed (racing.checked posting listed checked)
  have spent := racing.spent posting.schema posting.pk
  rw [fresh] at spent
  constructor
  · intro single
    have alone := single posting.schema posting.pk
    rw [more] at alone
    simp only [and_self, decide_true, Bool.toNat_true] at alone
    rw [← Bool.not_eq_true, spent]
    simp only [Bool.false_eq_true, false_or]
    omega
  · intro unspent schema pk
    dsimp only
    rw [more]
    by_cases same : posting.schema = schema ∧ posting.pk = pk
    · obtain ⟨rfl, rfl⟩ := same
      rw [unspent] at spent
      simp only [Bool.false_eq_true, false_or, false_iff, Nat.not_lt] at spent
      simpa using spent
    · simpa [same] using once schema pk

end Turns

section Runs

variable [DecidableEq Digest] {service : LinkService Payload Digest} {start : Site Digest}
  {shared : Interleaved (Site Digest) (Posting Digest)} {turn : Turn (PostRequest Payload)}

theorem racing_step (racing : Racing start shared) :
    Racing start (service.postStep shared turn) := by
  obtain ⟨same, _⟩ | ⟨request, posting, _, entered, joined⟩ |
      ⟨position, posting, _, found, advanced⟩ :=
    Interleaved.step_cases service.enterPost Posting.advance shared turn
  · rw [LinkService.postStep, same]
    exact racing
  · obtain ⟨loaded, stored⟩ := LinkService.enterPost_found entered
    rw [LinkService.postStep, joined]
    exact racing.join loaded stored
  · rw [LinkService.postStep, advanced]
    obtain ⟨checked, saved⟩ | ⟨_, phase, sameOutcome, passed, left⟩ :=
      posting.advance_cases shared.store
    · rw [saved]
      exact (racing.save found checked).2
    · rw [left]
      exact (racing.advance found sameOutcome passed).2

theorem singleUse_step_iff (racing : Racing start shared) (once : SingleUse shared) :
    SingleUse (service.postStep shared turn) ↔ SavesUnspent shared turn := by
  obtain ⟨same, idle⟩ | ⟨request, posting, rfl, entered, joined⟩ |
      ⟨position, posting, rfl, found, advanced⟩ :=
    Interleaved.step_cases service.enterPost Posting.advance shared turn
  · rw [LinkService.postStep, same]
    refine iff_of_true once ?_
    intro position posting takes found
    exact absurd found (idle position posting takes)
  · obtain ⟨loaded, _⟩ := LinkService.enterPost_found entered
    rw [LinkService.postStep, joined]
    refine iff_of_true ?_ ?_
    · intro schema pk
      simpa [List.countP_append, Posting.signedInThrough, loaded] using once schema pk
    · intro position posting takes
      cases takes
  · rw [LinkService.postStep, advanced]
    have only : SavesUnspent shared (.advance position : Turn (PostRequest Payload)) ↔
        (posting.phase = .checked →
          shared.store.isConsumed posting.schema posting.pk = false) := by
      constructor
      · intro saves
        exact saves position posting rfl found
      · rintro saves _ other ⟨⟩ there
        rw [found] at there
        cases there
        exact saves
    rw [only]
    obtain ⟨checked, saved⟩ | ⟨unchecked, phase, sameOutcome, passed, left⟩ :=
      posting.advance_cases shared.store
    · rw [saved, racing.singleUse_save_iff once found checked]
      simp [checked]
    · rw [left]
      refine iff_of_true ?_ fun checked => absurd checked unchecked
      intro schema pk
      rw [(racing.advance found sameOutcome passed).1]
      exact once schema pk

/-- Over every interleaving of POSTs of any links, at most one sender is signed in through each link
exactly when every save finds its row still unspent. -/
theorem single_use_iff (service : LinkService Payload Digest) (site : Site Digest)
    (turns : List (Turn (PostRequest Payload))) :
    Machine.Always service.postStep SingleUse ⟨site, []⟩ turns ↔
      Machine.Guarded service.postStep SavesUnspent ⟨site, []⟩ turns := by
  refine Machine.always_iff_guarded service.postStep SavesUnspent (Racing site) SingleUse
    (fun _ _ racing _ _ => racing_step racing)
    (fun _ _ racing once => singleUse_step_iff racing once)
    ?_ (fun _ _ => Nat.zero_le _) turns
  exact racing_start site

end Runs

namespace SampleLinks

/-- The invitation, posted by two senders who both read it before either saves. -/
def twoPosts : List (Turn (PostRequest (LinkData × Nat × Bool))) :=
  [.join ⟨invitation, clock⟩, .join ⟨invitation, clock⟩, .advance 0, .advance 1, .advance 0,
    .advance 1]

end SampleLinks

theorem invitation_signs_in_twice :
    ¬ SingleUse (Machine.run SampleLinks.service.postStep
      ⟨(SampleLinks.service.happen (.start SampleLinks.site) SampleLinks.inviting).site, []⟩
      SampleLinks.twoPosts) := by
  intro single
  have once := single "grace" 0
  revert once
  decide

end VolunteerScreening.Accounts
