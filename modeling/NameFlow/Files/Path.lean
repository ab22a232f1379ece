/-!
# Paths

A path is read as the segments between its slashes. The root name of a module is its path
without extension, with parent segments resolved as far as the text alone allows, and with dots
between the parts.
-/

namespace NameFlow.Files

set_option autoImplicit false

/-- What stands between the slashes, empty segments included. -/
def segments (path : List Char) : List (List Char) :=
  path.foldr (fun c segs =>
    if c = '/' then [] :: segs
    else match segs with
      | [] => [[c]]
      | s :: ss => (c :: s) :: ss) [[]]

def here : List Char := ['.']

def parent : List Char := ['.', '.']

/-- A segment that leads nowhere. -/
def isIdle (segment : List Char) : Bool := segment = [] || segment = here

def isAbsolute : List (List Char) → Bool
  | [] :: _ :: _ => true
  | _ => false

/-- A file name up to its last dot, the whole of it if nothing stands before that dot. -/
def stem (name : List Char) : List Char :=
  match name.reverse.dropWhile (· ≠ '.') with
  | [] => name
  | [_] => name
  | _ :: before => before.reverse

/-- Segments with the extension of the file name dropped, and with it all that follows the name.
Where a single dot would end the path, two are left. -/
def dropExtension (segs : List (List Char)) : List (List Char) :=
  match segs.reverse.dropWhile isIdle with
  | [] => segs
  | name :: directory =>
    if name = parent then segs
    else
      let final := segs.getLast? = some name
      let short := if final && stem name = here then parent else stem name
      (short :: directory).reverse

/-- Takes in one segment behind the parts so far, last part first. Above the root stays the root. -/
def enter (parts : List (List Char)) (segment : List Char) : List (List Char) :=
  if isIdle segment then parts
  else if segment = parent then
    match parts with
    | [] => [parent]
    | part :: rest =>
      if part = [] then parts else if part = parent then parent :: parts else rest
  else segment :: parts

/-- The parts of a module's root name; the root directory is an empty part. -/
def rootParts (path : List Char) : List (List Char) :=
  let segs := dropExtension (segments path)
  (segs.foldl enter (if isAbsolute segs then [[]] else [])).reverse

def rootName (path : String) : String :=
  match rootParts path.toList with
  | [] => "."
  | parts => String.intercalate "." (parts.map String.ofList)

/-- The path of a file below a directory. -/
def join (directory file : String) : String :=
  if file.toList.head? = some '/' then file
  else if directory.toList.getLast? = some '/' then directory ++ file
  else directory ++ "/" ++ file

end NameFlow.Files
