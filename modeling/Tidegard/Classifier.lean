import Mathlib

namespace Tidegard.Classifier

inductive Direction where
  | incoming
  | outgoing
  | internal
  | other
  | unknown
  deriving DecidableEq

/-- What classification knows of a flow's two ends. -/
structure ClassificationResult where
  direction : Direction
  sourceMatchedTenant : Option String
  destinationMatchedTenant : Option String
  sourceMatchedHostgroup : Option String
  destinationMatchedHostgroup : Option String
  deriving DecidableEq

end Tidegard.Classifier
