import LogLab.Curriculum

/-! # Sessions

A session is where a learner stands: a dialect, a lesson in it, and the exercises completed so far.
-/

namespace LogLab

structure LessonKey where
  dialect : Dialect
  index : Nat
  deriving DecidableEq, Repr, Inhabited

/-- The learner's place and the completed exercises, in the order of completion. -/
structure Session where
  dialect : Dialect := .sql
  lesson : Nat := 0
  completed : List LessonKey := []
  deriving DecidableEq, Repr, Inhabited

structure LessonOutOfRange where
  dialect : Dialect
  index : Nat
  available : Nat
  deriving DecidableEq, Repr, Inhabited

/-- Whether an attempt passed, and whether the exercise was completed by it. -/
structure Outcome where
  passed : Bool
  newlyCompleted : Bool
  deriving DecidableEq, Repr, Inhabited

structure Progress where
  completed : Nat
  total : Nat
  deriving DecidableEq, Repr, Inhabited

def LessonOutOfRange.message (e : LessonOutOfRange) : String :=
  s!"No {e.dialect} lesson at index {e.index} ({e.available} available)"

def LessonKey.display (k : LessonKey) : String :=
  s!"{k.dialect}-{k.index}"

namespace Progress

/-- The completed part in percent, rounded to the nearest whole number, halves up. -/
def percent (p : Progress) : Nat :=
  if p.total = 0 then 0 else (p.completed * 100 + p.total / 2) / p.total

def display (p : Progress) : String :=
  s!"{p.percent}% Complete ({p.completed}/{p.total})"

end Progress

namespace Session

def current (s : Session) : LessonKey :=
  ⟨s.dialect, s.lesson⟩

/-- Goes to the first lesson of a dialect. -/
def selectDialect (s : Session) (dialect : Dialect) : Session :=
  { s with dialect, lesson := 0 }

def selectLesson (s : Session) (c : Curriculum) (index : Nat) : Except LessonOutOfRange Session :=
  if index < c.length s.dialect then .ok { s with lesson := index }
  else .error ⟨s.dialect, index, c.length s.dialect⟩

def nextLesson? (s : Session) (c : Curriculum) : Option Session :=
  (s.selectLesson c (s.lesson + 1)).toOption

def previousLesson? (s : Session) : Option Session :=
  match s.lesson with
  | 0 => none
  | n + 1 => some { s with lesson := n }

def isCompleted (s : Session) (key : LessonKey) : Bool :=
  s.completed.contains key

/-- Grades results for the current exercise. The first pass completes it. -/
def recordAttempt (s : Session) (c : Curriculum) (results : Dataset) :
    Except CurriculumError (Outcome × Session) :=
  match c.exercise s.dialect s.lesson with
  | .error e => .error e
  | .ok exercise =>
    let passed := exercise.check.passes results
    if passed && !s.isCompleted s.current then
      .ok (⟨passed, true⟩, { s with completed := s.completed ++ [s.current] })
    else .ok (⟨passed, false⟩, s)

def exerciseIndices (lessons : List Lesson) : List Nat :=
  (lessons.zipIdx.filter fun l => l.1.kind.isExercise).map Prod.snd

/-- The progress in the current dialect. -/
def progress (s : Session) (c : Curriculum) : Progress :=
  let indices := exerciseIndices (c.lessons s.dialect)
  ⟨(indices.filter fun i => s.isCompleted ⟨s.dialect, i⟩).length, indices.length⟩

/-- The completed exercises by dialect and index. -/
def completedInOrder (s : Session) : List LessonKey :=
  Dialect.all.flatMap fun d =>
    ((s.completed.filter fun k => k.dialect == d).map LessonKey.index).mergeSort.map (⟨d, ·⟩)

end Session

end LogLab
