import BundleHost.Configuration.Environment

/-!
# Layers of documents

An upper document is laid over a lower one: tables are joined key by key, and where either is no
table the upper one counts.
-/

namespace BundleHost

namespace Document

mutual

/-- The document `upper` laid over `lower`. -/
def overlay (lower : Document) : Document → Document
  | .table upper =>
    match lower with
    | .table lower => .table (overlayEntries lower upper)
    | _ => .table upper
  | upper => upper

/-- Entries laid over those of a table, one after the other. -/
def overlayEntries (lower : List (String × Document)) :
    List (String × Document) → List (String × Document)
  | [] => lower
  | (key, value) :: rest =>
    let value :=
      match Entries.lookup? key lower with
      | some below => overlay below value
      | none => value
    overlayEntries (Entries.put key value lower) rest

end

end Document

namespace Environment

/-- The table that variables give, later ones laid over earlier ones. -/
def document (vars : List (String × String)) : Document :=
  vars.foldl (fun table (name, text) =>
    match keys? name with
    | some keys => table.overlay (nest keys (valueOf text))
    | none => table) (.table [])

end Environment

end BundleHost
