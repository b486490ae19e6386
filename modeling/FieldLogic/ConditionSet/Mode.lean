/-! How the results of several conditions make one. -/

namespace FieldLogic

inductive Mode where
  | any
  | all
deriving DecidableEq, Repr, Inhabited

namespace Mode

def name : Mode → String
  | any => "any"
  | all => "all"

def combine : Mode → List Bool → Bool
  | any, results => results.any id
  | all, results => results.all id

end Mode

end FieldLogic
