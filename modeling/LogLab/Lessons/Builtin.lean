import LogLab.Curriculum
import LogLab.Lessons.Kql
import LogLab.Lessons.Sigma
import LogLab.Lessons.Spl
import LogLab.Lessons.Sql

/-! # The built-in curriculum -/

namespace LogLab.Lessons

def builtin : Curriculum where
  sql := some sql
  spl := some spl
  kql := some kql
  sigma := some sigma

end LogLab.Lessons
