import NameFlow.Files.Path
import NameFlow.Files.ReadError

/-!
# File trees

Files held in memory, seen from a working directory. A directory is there if it is listed or if
something below it is. Nothing is known of the world outside but that it holds the directory.
-/

namespace NameFlow.Files

set_option autoImplicit false

inductive Node
  | file (content : ByteArray)
  | directory

/-- Nodes by their names from the working directory down. -/
structure Tree where
  entries : List (List (List Char) × Node)

namespace Tree

def ofEntries (entries : List (String × Node)) : Tree :=
  ⟨entries.map fun (path, node) => ((segments path.toList).filter (! isIdle ·), node)⟩

def node? (t : Tree) (names : List (List Char)) : Option Node :=
  match t.entries.find? (·.1 = names) with
  | some (_, node) => some node
  | none =>
    if names = [] || t.entries.any (fun e => names.isPrefixOf e.1) then some .directory else none

/-- A place that a path leads to. -/
inductive Place
  /-- Below the working directory, innermost name first. -/
  | inside (names : List (List Char))
  /-- A directory outside. -/
  | outside

def Place.node? (t : Tree) : Place → Option Node
  | .inside names => t.node? names.reverse
  | .outside => some .directory

/-- Follows one segment from a place, which has to be a directory. -/
def follow (t : Tree) (p : Place) (segment : List Char) : Except ReadError Place :=
  match p.node? t with
  | none => .error .notFound
  | some (.file _) => .error .notDirectory
  | some .directory =>
    if isIdle segment then .ok p
    else if segment = parent then
      match p with
      | .inside (_ :: names) => .ok (.inside names)
      | _ => .ok .outside
    else match p with
      | .inside names =>
        let p := .inside (segment :: names)
        if (Place.node? t p).isSome then .ok p else .error .notFound
      | .outside => .error .notFound

/-- The bytes of the file that a path leads to. -/
def read (t : Tree) (path : String) : Except ReadError ByteArray := do
  let segs := segments path.toList
  if segs = [[]] then throw .notFound
  let start : Place := if isAbsolute segs then .outside else .inside []
  let p ← segs.foldlM t.follow start
  match p.node? t with
  | some (.file content) => return content
  | some .directory => throw .isDirectory
  | none => throw .notFound

end Tree

end NameFlow.Files
