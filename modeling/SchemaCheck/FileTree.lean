import SchemaCheck.Files

/-!
# File trees

A `FileTree` holds files and directories in memory.  `FileTree.files` is the file system that a
program sees that runs in its root, and `FileTree.write` the tree after a file has been written.
-/

namespace SchemaCheck

/-- A file, or a directory of named entries. -/
inductive FileTree
  | file (content : Json.Bytes)
  | directory (entries : List (String × FileTree))

namespace FileTree

def child? : FileTree → String → Option FileTree
  | .file _, _ => none
  | .directory entries, name => entries.lookup name

/-- The entry that names lead to from the root. -/
def descend? (tree : FileTree) (names : List String) : Option FileTree :=
  names.foldlM child? tree

/-- Follows the parts of a path, given the names walked so far, innermost first.  A step up drops a
name; there is nothing above the root. -/
def walk (tree : FileTree) (names : List String) : List String → Except FileError (List String)
  | [] => .ok names
  | part :: parts =>
    match tree.descend? names.reverse with
    | none => .error .notFound
    | some (.file _) => .error .notDirectory
    | some (.directory entries) =>
      if part = "" ∨ part = "." then walk tree names parts
      else if part = ".." then
        match names with
        | [] => .error .notFound
        | _ :: outer => walk tree outer parts
      else if (entries.lookup part).isSome then walk tree (part :: names) parts
      else .error .notFound

/-- The parts of a path.  A path that is empty or begins at another root leads nowhere. -/
def partsOf (path : String) : Except FileError (List String) :=
  if path = "" ∨ path.startsWith "/" then .error .notFound else .ok (path.splitOn "/")

def at? (tree : FileTree) (path : String) : Except FileError FileTree :=
  partsOf path >>= tree.walk [] >>= fun names =>
    match tree.descend? names.reverse with
    | some entry => .ok entry
    | none => .error .notFound

def files (tree : FileTree) : Files where
  read path := tree.at? path >>= fun entry =>
    match entry with
    | .file content => .ok content
    | .directory _ => .error .isDirectory
  list path := tree.at? path >>= fun entry =>
    match entry with
    | .directory entries => .ok (entries.map (·.1))
    | .file _ => .error .notDirectory

/-- The tree with another entry at names that lead from the root; directories on the way are made
where there are none. -/
def put (entry : FileTree) : List String → FileTree → FileTree
  | [], _ => entry
  | name :: names, tree =>
    let entries := match tree with
      | .directory entries => entries
      | .file _ => []
    let inner := put entry names ((entries.lookup name).getD (.directory []))
    .directory (Json.putMember entries name inner)

/-- The tree after a file has been written.  Its directory has to be there already, and the last
part of the path has to be a name. -/
def write (tree : FileTree) (path : String) (content : Json.Bytes) : Except FileError FileTree :=
  partsOf path >>= fun parts => tree.walk [] parts.dropLast >>= fun names =>
    let name := parts.getLast?.getD ""
    match tree.descend? names.reverse with
    | none => .error .notFound
    | some (.file _) => .error .notDirectory
    | some (.directory entries) =>
      if name = "" ∨ name = "." ∨ name = ".." then .error .isDirectory
      else
        match entries.lookup name with
        | some (.directory _) => .error .isDirectory
        | _ => .ok (put (.file content) (names.reverse ++ [name]) tree)

mutual

/-- The files of a tree with their paths from the root. -/
def contents (above : String) : FileTree → List (String × Json.Bytes)
  | .file content => [(above, content)]
  | .directory entries => contentsOf above entries

/-- The files of the entries of a directory. -/
def contentsOf (above : String) : List (String × FileTree) → List (String × Json.Bytes)
  | [] => []
  | (name, entry) :: entries =>
    contents (if above = "" then name else above ++ "/" ++ name) entry ++ contentsOf above entries

end

end FileTree

end SchemaCheck
