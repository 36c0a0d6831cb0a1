import VolunteerScreening.Org.Views
import VolunteerScreening.Screening

/-!
# Every request an administrator can make

The accounts, the organisation, the requirement definitions and the screening of
volunteers.  Saving a definition writes the catalogue and recalculates nothing.
-/

namespace VolunteerScreening

open Accounts Org Requirements

/-- What an administrator can ask of their church. -/
inductive ChurchRequest where
  | profile (form : AdminProfileForm)
  | account (request : AccountRequest)
  | organisation (request : OrgRequest)
  | definitions (catalogue : Catalogue)
  | screening (volunteer : Nat) (request : FileRequest)

/-- Save what the definition forms make of the catalogue. -/
def definitionsSave (church : Church) (visit : Visit) (catalogue : Catalogue) :
    Except Refusal Church := do
  let _ ← church.requires visit .manageRequirements
  return { church with catalogue := catalogue }

def Church.answer (church : Church) (visit : Visit) : ChurchRequest → Except Refusal Church
  | .profile form => Accounts.profile church visit form
  | .account request => Accounts.answer church visit request
  | .organisation request => request.answer church visit
  | .definitions catalogue => definitionsSave church visit catalogue
  | .screening volunteer request => church.screen visit volunteer request

/-- One request by one visitor; a request that is refused changes nothing. -/
def requestStep (church : Church) (call : Visit × ChurchRequest) : Church :=
  Machine.attempt (fun church => church.answer call.1 call.2) church

end VolunteerScreening
