import LogLab.Curriculum
import LogLab.Store

/-! # Labs

A lab is what learners work with: the lessons, and the data that queries run on.
-/

namespace LogLab

/-- Lessons and data. -/
structure Lab where
  curriculum : Curriculum
  store : Store

end LogLab
