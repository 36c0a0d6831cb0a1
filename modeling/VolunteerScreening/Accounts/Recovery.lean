import VolunteerScreening.Accounts.Links
import VolunteerScreening.Accounts.Lookup

/-!
# Recovery links

Asking for a recovery link mints one for every account the address finds, each
in its own church.  What fails in one church does not stop the others.
-/

namespace VolunteerScreening.Accounts

open Tenants

/-- One church's half of a request: it fails before its link is minted, or mints one.  Whether the
mail then goes out makes no difference to the link. -/
inductive RecoveryHalf where
  | fails
  | mints (secret : String) (clock : Clock)

namespace LinkService

variable {Payload Digest : Type} [DecidableEq Digest] (service : LinkService Payload Digest)

def recoverTarget (site : Site Digest) (target : LoginTarget) :
    RecoveryHalf → Option (Issued Payload Digest)
  | .fails => none
  | .mints secret clock =>
      match (site.schemas target.schemaName).users[target.userPk]? with
      | none => none
      | some user =>
          if user.isActive then
            service.issueLink site target.schemaName target.userPk .recovery none secret clock
          else none

def recoverTargets (halves : LoginTarget → RecoveryHalf) :
    List LoginTarget → Site Digest → Site Digest × List (LoginTarget × Issued Payload Digest)
  | [], site => (site, [])
  | target :: rest, site =>
      match service.recoverTarget site target (halves target) with
      | none => recoverTargets halves rest site
      | some issued =>
          let (after, later) := recoverTargets halves rest issued.site
          (after, (target, issued) :: later)

def sendRecoveryLinks (index : AddressIndex) (accounts : AccountSite)
    (halves : LoginTarget → RecoveryHalf) (email : String) (site : Site Digest) :
    Site Digest × List (LoginTarget × Issued Payload Digest) :=
  service.recoverTargets halves (accounts.findLoginTargets index email) site

end LinkService

end VolunteerScreening.Accounts
