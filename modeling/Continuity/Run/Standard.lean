import Continuity.Character.Validator
import Continuity.Link.Validator
import Continuity.Run.Outcome

/-! # The standard validators -/

namespace Continuity.Run

/-- The validators that the program runs, in this order. -/
def standardValidators : List Validator := [Character.validator, Link.validator]

end Continuity.Run
