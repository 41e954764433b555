import PipeShell.Path

/-!
# The search path

The value of `PATH` is a list of directories with colons between them.  Empty entries mean nothing
here.  Before a value is stored it is cleaned: empty entries go, and of several entries that name
the same directory only the first stays, as it was written.
-/

namespace PipeShell.SearchPath

/-- The entries of a value, empty ones included. -/
def split (value : String) : List String :=
  (Text.fields ':' value.toList).map String.ofList

/-- The entries that name a directory. -/
def entries (value : String) : List String :=
  (split value).filter (!·.isEmpty)

/-- The entries without those whose components were `seen` before. -/
def distinct (seen : List (List Path.Component)) : List String → List String
  | [] => []
  | p :: ps =>
    if Path.components p ∈ seen then distinct seen ps
    else p :: distinct (Path.components p :: seen) ps

/-- The cleaned value. -/
def clean (value : String) : String :=
  ":".intercalate (distinct [] (entries value))

end PipeShell.SearchPath
