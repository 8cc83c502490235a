import Prosopography.Proofs.Report.Transition
import Prosopography.Proofs.Resolution.Identifiers
import Prosopography.Proofs.Resolution.Places

/-!
# Transitions from one trial to another

A transition is reported for persons who end up with both roles in different trials, but
with the earliest appearances in either role. These are in one trial only if two variants
disagree about the role in it.
-/

namespace Prosopography

namespace Person

variable {mentions : MentionTable} {trials : TrialTable} {id : PersonId} {c : Cluster}

end Person

namespace Resolution

/-- A witness who was accused five years later. -/
def petitAccused : MentionTable :=
  .ofPuts [((Mention.of "Jean Petit" .accused).withTrial "T1" .witness).withTrial "T2" .accused]

end Resolution

end Prosopography
