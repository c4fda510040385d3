import BatchFilter.Stage

/-! # Settings

    Everything a run is configured with: the stage, and the named conditions
    it may refer to. -/

namespace BatchFilter

/-- The settings of a run. -/
structure Settings where
  processor : StageConfig := {}
  resources : Declarations := {}

/-- Build the named conditions, then the stage. -/
def Settings.build (s : Settings) (r : Registry) : Attempt Stage :=
  (s.resources.build r).bind fun pool => s.processor.build pool r

end BatchFilter
