import LogLab.Json.Reader
import LogLab.Record
import LogLab.Samples
import LogLab.Source

/-! # Stores

A store holds a dataset for every source. It starts empty, with the samples, or with what the files
of a directory hold; a file that is missing or is not an array of objects counts as empty.
-/

namespace LogLab

/-- The dataset of every source. -/
structure Store where
  get : Source → Dataset

namespace Store

def empty : Store := ⟨fun _ => []⟩

def samples : Store := ⟨Samples.dataset⟩

def replace (s : Store) (source : Source) (data : Dataset) : Store :=
  ⟨fun other => if other = source then data else s.get other⟩

def parseDataset? (text : String) : Option Dataset :=
  (Json.parse? text.toList).bind Dataset.ofJson?

def fileName (source : Source) : String :=
  source.name ++ ".json"

/-- The store with the data of files; `read` gives the text of a file by its name. -/
def ofFiles (read : String → Option String) : Store :=
  ⟨fun source => ((read (fileName source)).bind parseDataset?).getD []⟩

def getNamed (s : Store) (name : String) : Except UnknownSource Dataset :=
  (Source.ofText name).map s.get

end Store

end LogLab
