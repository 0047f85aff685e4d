/-
**Paths of files.**

A path is a text, and its components are what stands between slashes: empty ones and single dots
count for nothing, except for a dot at the very beginning. Two paths are the same path when their
components are.

* `Path.join`: a path below another one; an absolute path replaces what it is joined to;
* `Path.parent?`: the path of the directory that holds the last component;
* `Path.extension?`: what follows the last dot of a file name that does not begin with it.
-/

namespace MetricRelay

/-- The path of a file. -/
structure Path where
  text : String
  deriving DecidableEq, Repr

namespace Path

/-- A component of a path. -/
inductive Component where
  | root
  /-- The directory itself, at the beginning of a path. -/
  | here
  /-- The directory above. -/
  | up
  | name (text : List Char)
  deriving DecidableEq, Repr

/-- The component of a piece that does not stand at the beginning. -/
def component? (piece : List Char) : Option Component :=
  if piece = [] ∨ piece = ['.'] then none
  else if piece = ['.', '.'] then some .up
  else some (.name piece)

/-- The components of a path with this text. -/
def componentsOf (text : List Char) : List Component :=
  match text.splitOn '/' with
  | [] => []
  | first :: rest =>
    let start :=
      if first = [] then (if rest.isEmpty then [] else [.root])
      else if first = ['.'] then [.here]
      else (component? first).toList
    start ++ rest.filterMap component?

/-- The components of a path. -/
def components (path : Path) : List Component :=
  componentsOf path.text.toList

/-- Both are one path, perhaps written in two ways. -/
def same (first second : Path) : Bool :=
  first.components == second.components

/-- The path begins at the root. -/
def isAbsolute (path : Path) : Bool :=
  path.text.toList.head? == some '/'

/-- A path below a directory; an absolute path stays what it is. -/
def join (directory : Path) (path : Path) : Path :=
  if path.isAbsolute then path
  else
    match directory.text.toList.getLast? with
    | none => path
    | some '/' => ⟨directory.text ++ path.text⟩
    | some _ => ⟨directory.text ++ "/" ++ path.text⟩

/-- The pieces without those at the end that are no component. -/
def dropVoidEnd (first : List Char) (rest : List (List Char)) : List (List Char) :=
  first :: (rest.reverse.dropWhile fun piece => (component? piece).isNone).reverse

/-- The path with these pieces between its slashes. -/
def ofPieces (pieces : List (List Char)) : Path :=
  match pieces with
  | [[]] => ⟨"/"⟩
  | pieces => ⟨String.ofList (['/'].intercalate pieces)⟩

/-- The path of the directory that holds the last component. -/
def parent? (path : Path) : Option Path :=
  match path.text.toList.splitOn '/' with
  | [] => none
  | first :: rest =>
    match (dropVoidEnd first rest).reverse with
    | [] => none
    | [only] => if only.isEmpty then none else some ⟨""⟩
    | _ :: before =>
      match before.reverse with
      | [] => none
      | first :: rest => some (ofPieces (dropVoidEnd first rest))

/-- The last component, if it is a name. -/
def fileName? (path : Path) : Option (List Char) :=
  match path.components.getLast? with
  | some (.name text) => some text
  | _ => none

/-- What follows the last dot of the file name, if something stands before that dot. -/
def extension? (path : Path) : Option (List Char) := do
  let name ← path.fileName?
  let after := name.reverse.takeWhile (· != '.')
  let before := name.dropLast.take (name.length - after.length - 1)
  if after.length = name.length ∨ before.isEmpty then none else some after.reverse

/-- The path ends in something that only a directory has. -/
def namesDirectory (path : Path) : Bool :=
  match (path.text.toList.splitOn '/').getLast? with
  | some piece => (component? piece).isNone || piece == ['.', '.']
  | none => true

end Path

end MetricRelay
