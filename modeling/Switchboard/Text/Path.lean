/-!
# Paths

A path is a text of names with slashes between them. What tells two paths apart is not the text but
its steps: slashes after the first count once, and a dot stays only where it begins the path.
-/

namespace Switchboard.Text.Path

/-- The steps of a path. The first one is empty if the path begins at the root. -/
def steps (path : String) : List String :=
  match path.splitOn "/" with
  | [] => []
  | first :: rest =>
    let rest := rest.filter fun name => name ≠ "" && name ≠ "."
    if first = "" && path.isEmpty then rest else first :: rest

/-- Whether two texts are the same path. -/
def same (p q : String) : Bool := steps p == steps q

end Switchboard.Text.Path
