import VolunteerScreening.Notifications.Raising

/-!
# What becomes of a claimed reminder

A claim is written before the digest is sent and nothing takes it back, so a
claimed reminder is kept exactly when the digest goes out.
-/

namespace VolunteerScreening.Notifications

open Calendar Requirements Review Tenants

/-- A claimed reminder is not lost: the pass sent a digest that carries it, or a later pass for
the same day claims it again, whatever the church has become. -/
def Kept (tenant : Tenant) (church : Church) (pass : Pass) (outbox : Outbox) (entry : Entry) :
    Prop :=
  let after := (processTenantReminders tenant church pass outbox).1
  (∃ email, after.emails = outbox.emails ++ [email] ∧ email.status = .sent ∧
      entry ∈ email.entries) ∨
    ∃ (tenant : Tenant) (church : Church) (later : Pass), later.asOf = pass.asOf ∧
      entry.log ∈ (claimedBy tenant church later after).map (·.log)

/-- Notifications are on, somebody can be written to, and the provider takes the message. -/
def Delivers (tenant : Tenant) (church : Church) (pass : Pass) : Prop :=
  tenant.notificationsEnabled = true ∧ adminRecipients church ≠ [] ∧
    ∃ provider, pass.delivery = .accepted provider

variable {tenant : Tenant} {church : Church} {pass : Pass} {outbox : Outbox}

theorem not_claimed_again {entry : Entry} (claims : entry ∈ claimedBy tenant church pass outbox)
    (tenant' : Tenant) (church' : Church) (later : Pass) :
    entry.log ∉ (claimedBy tenant' church' later
      (processTenantReminders tenant church pass outbox).1).map (·.log) := by
  intro again
  have fresh := (mem_claimedBy_log.mp again).2
  rw [processTenantReminders_reminders] at fresh
  exact fresh (List.mem_append_right _ (List.mem_map_of_mem claims))

theorem emails_of_claimed {entry : Entry} (claims : entry ∈ claimedBy tenant church pass outbox)
    (enabled : tenant.notificationsEnabled = true) (reached : adminRecipients church ≠ []) :
    (processTenantReminders tenant church pass outbox).1.emails =
      outbox.emails ++ [pass.delivery.logged (digest tenant (adminRecipients church)
        (claimedBy tenant church pass outbox) (pendingSummary church pass.created pass.now))] := by
  have some : claimedBy tenant church pass outbox ≠ [] := List.ne_nil_of_mem claims
  have sends : ¬(claimedBy tenant church pass outbox = [] ∧
        (pendingSummary church pass.created pass.now).stale = 0 ∨
      tenant.notificationsEnabled = false ∨ adminRecipients church = []) := by
    simp [some, enabled, reached]
  rw [processTenantReminders_emails, sendDigest_emails, if_neg sends]

theorem sent_of_delivers {entry : Entry} (claims : entry ∈ claimedBy tenant church pass outbox)
    (delivers : Delivers tenant church pass) : Kept tenant church pass outbox entry := by
  obtain ⟨enabled, reached, provider, accepted⟩ := delivers
  have emails := emails_of_claimed claims enabled reached
  rw [accepted] at emails
  refine .inl ⟨_, emails, rfl, ?_⟩
  have listed := @digest_entries tenant (adminRecipients church)
    (claimedBy tenant church pass outbox) (pendingSummary church pass.created pass.now)
  exact listed.mem_iff.mpr claims

theorem delivers_of_sent {entry : Entry} (claims : entry ∈ claimedBy tenant church pass outbox)
    {email : EmailLog}
    (logged : (processTenantReminders tenant church pass outbox).1.emails =
      outbox.emails ++ [email])
    (sent : email.status = .sent) : Delivers tenant church pass := by
  have stays : ¬(tenant.notificationsEnabled = false ∨ adminRecipients church = []) := by
    intro silent
    rw [processTenantReminders_emails, sendDigest_emails, if_pos (.inr silent)] at logged
    have longer := congrArg List.length logged
    simp at longer
  rw [not_or] at stays
  obtain ⟨enabled, reached⟩ := stays
  rw [Bool.not_eq_false] at enabled
  rw [emails_of_claimed claims enabled reached, List.append_cancel_left_eq] at logged
  refine ⟨enabled, reached, ?_⟩
  cases delivery : pass.delivery with
  | unrecognised =>
      rw [delivery] at logged
      cases logged
      cases sent
  | refused provider error =>
      rw [delivery] at logged
      cases logged
      cases sent
  | accepted provider => exact ⟨provider, rfl⟩

theorem kept_iff {entry : Entry} (claims : entry ∈ claimedBy tenant church pass outbox) :
    Kept tenant church pass outbox entry ↔ Delivers tenant church pass := by
  constructor
  · rintro (⟨email, logged, sent, _⟩ | ⟨tenant', church', later, _, again⟩)
    · exact delivers_of_sent claims logged sent
    · exact absurd again (not_claimed_again claims tenant' church' later)
  · exact sent_of_delivers claims

/-- A pass keeps every reminder it claims exactly when its digest is delivered, or every reminder
owed that day has been claimed already. -/
theorem claimed_kept_iff (tenant : Tenant) (church : Church) (pass : Pass) (outbox : Outbox) :
    (∀ entry ∈ claimedBy tenant church pass outbox, Kept tenant church pass outbox entry) ↔
      Delivers tenant church pass ∨
        ∀ entry ∈ findDueReminders tenant church pass.asOf, entry.log ∈ outbox.reminders := by
  constructor
  · intro kept
    by_cases delivers : Delivers tenant church pass
    · exact .inl delivers
    · refine .inr fun entry found => ?_
      by_contra fresh
      have claims := mem_claimedBy_log.mpr ⟨List.mem_map_of_mem found, fresh⟩
      obtain ⟨claimed, listed, _⟩ := List.mem_map.mp claims
      exact delivers ((kept_iff listed).mp (kept claimed listed))
  · rintro (delivers | claimed) entry claims
    · exact (kept_iff claims).mpr delivers
    · have row := mem_claimedBy_log.mp (List.mem_map_of_mem claims)
      obtain ⟨found, listed, same⟩ := List.mem_map.mp row.1
      exact absurd (same ▸ claimed found listed) row.2

end VolunteerScreening.Notifications

namespace VolunteerScreening.Sample

open Notifications Requirements Tenants

def tenant : Tenant := ⟨"First Church", "first.example.org", true, "60,30,7"⟩

def expiring (number : Nat) : VolunteerFile :=
  { VolunteerFile.opened adult with
    requirementInstances := fun definition =>
      if definition = 1 then
        some { RequirementInstance.fresh with
          status := .complete
          completedOn := some (january 0)
          expiresOn := some (january number) }
      else none }

def pass (number : Nat) (delivery : Delivery) : Pass := ⟨january number, 0, fun _ _ => 0, delivery⟩

end VolunteerScreening.Sample

namespace VolunteerScreening.Notifications

/-- A reminder whose digest the provider refused: its claim stands, so no later pass finds it
unclaimed. -/
theorem refused_digest_loses_reminder :
    let church := Sample.church Sample.orientationOnly [Sample.expiring 17]
    let pass := Sample.pass 10 (.refused "acs-smtp" "timed out")
    (claimedBy Sample.tenant church pass ⟨[], []⟩).map (·.log) =
        [⟨0, 1, .leadTime, 7, some (Sample.january 17)⟩] ∧
      ∀ entry ∈ claimedBy Sample.tenant church pass ⟨[], []⟩,
        ¬Kept Sample.tenant church pass ⟨[], []⟩ entry := by
  refine ⟨by decide +kernel, ?_⟩
  intro entry claims kept
  obtain ⟨_, _, provider, accepted⟩ := (kept_iff claims).mp kept
  cases accepted

end VolunteerScreening.Notifications
