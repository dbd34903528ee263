import LogLab.Record
import LogLab.Scalar
import LogLab.Text.Columns

/-! # Tables

Results as a table with borders. The columns are those of the first record; every column is as wide
as its widest line, and a cell with line breaks takes several lines.
-/

namespace LogLab

/-- The lines of a cell. -/
abbrev Cell := List (List Char)

/-- A row of headings over rows of cells. -/
structure Table where
  header : List Cell
  rows : List (List Cell)
  deriving DecidableEq, Repr, Inhabited

/-- The characters of a horizontal border: the ends, the line, and where columns meet it. -/
structure Border where
  left : Char
  line : Char
  crossing : Char
  right : Char
  deriving DecidableEq, Repr

namespace Cell

def ofText (text : String) : Cell :=
  Text.cutAt (· == '\n') text.toList

/-- What is shown for an absent field. -/
def absent : Cell :=
  ofText "NULL"

def ofField (value : Option Json) : Cell :=
  match value with
  | some v => ofText v.text
  | none => absent

end Cell

namespace Border

def top : Border := ⟨'┌', '─', '┬', '┐'⟩

def underHeader : Border := ⟨'╞', '═', '╪', '╡'⟩

def between : Border := ⟨'├', '╌', '┼', '┤'⟩

def bottom : Border := ⟨'└', '─', '┴', '┘'⟩

/-- The border over columns of given widths, each with a blank on both sides. -/
def draw (b : Border) (widths : List Nat) : List Char :=
  b.left :: [b.crossing].intercalate (widths.map fun w => List.replicate (w + 2) b.line) ++
    [b.right]

end Border

namespace Table

/-- The table that shows the fields of a dataset's first record. -/
def ofDataset (data : Dataset) : Table where
  header := data.columns.map Cell.ofText
  rows := data.map fun r => data.columns.map fun name => Cell.ofField (r.field? name)

/-- The wider of each two cells' widths. -/
def widen (widths : List Nat) (row : List Cell) : List Nat :=
  List.zipWith (fun w cell => cell.foldl (fun acc line => max acc (Text.columns line)) w) widths row

/-- The width of each column, at least one. -/
def widths (t : Table) : List Nat :=
  (t.header :: t.rows).foldl widen (t.header.map fun _ => 1)

def fill (width : Nat) (line : List Char) : List Char :=
  line ++ List.replicate (width - Text.columns line) ' '

/-- The line of a cell at an index, as wide as the column, with a blank on both sides. -/
def cellLine (i width : Nat) (cell : Cell) : List Char :=
  ' ' :: fill width (cell.getD i []) ++ [' ']

def rowLine (widths : List Nat) (row : List Cell) (i : Nat) : List Char :=
  '│' :: ['┆'].intercalate (List.zipWith (cellLine i) widths row) ++ ['│']

/-- The lines of a row: as many as its highest cell has. -/
def rowLines (widths : List Nat) (row : List Cell) : List (List Char) :=
  (List.range ((row.map List.length).foldl max 0)).map (rowLine widths row)

def lines (t : Table) : List (List Char) :=
  let widths := t.widths
  [Border.top.draw widths] ++ rowLines widths t.header ++ [Border.underHeader.draw widths] ++
    [Border.between.draw widths].intercalate (t.rows.map (rowLines widths)) ++
    [Border.bottom.draw widths]

/-- A dataset as text: a table, or a note that there is nothing to show. -/
def render (data : Dataset) : String :=
  if data.isEmpty then "(no results)\n"
  else String.ofList ((ofDataset data).lines.flatMap fun line => line ++ ['\n'])

end Table

end LogLab
