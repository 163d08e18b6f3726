import LogSteward.Connection.Secret
import LogSteward.Text.Split

/-!
# File trees

A tree of directories, files and symbolic links, and how a path is followed in it from a working
directory.  A link is replaced by its target; following more than forty links counts as going in a
circle.  A path that ends in a slash names a directory.
-/

namespace LogSteward

inductive FileTree where
  | file (content : Octets)
  | directory (entries : List (String × FileTree))
  | link (target : String)

namespace FileTree

/-- The entry of a directory with the given name. -/
def find? (name : String) (entries : List (String × FileTree)) : Option FileTree :=
  (entries.find? (·.1 == name)).map (·.2)

/-- How many links are followed on one path. -/
def linkLimit : Nat := 40

/-- How many octets the name of an entry may have. -/
def nameLimit : Nat := 255

/-- How many octets a path may have, as it is given. -/
def pathLimit : Nat := 4095

/-- The parts of a path between the slashes. -/
def parts (path : String) : List String :=
  (splitAt '/' path.toList).map String.ofList

/-- Follows the parts of a path from a place in a tree.  `here` is the directory or file that has
been reached, `above` are the directories around it, the nearest first, and `top` is the root.
`links` more links may be followed. -/
def follow (top : FileTree) (links : Nat) (above : List FileTree) (here : FileTree)
    (parts : List String) : Except FileError FileTree :=
  match parts with
  | [] => .ok here
  | part :: rest =>
    match here with
    | directory entries =>
      if part = "" ∨ part = "." then follow top links above here rest
      else if part = ".." then
        match above with
        | [] => follow top links [] here rest
        | d :: ds => follow top links ds d rest
      else if nameLimit < part.utf8ByteSize then .error .nameTooLong
      else match find? part entries with
        | none => .error .notFound
        | some (link target) =>
          match links with
          | 0 => .error .linkLoop
          | links + 1 =>
            if target = "" then .error .notFound
            else if target.startsWith "/" then
              follow top links [] top (FileTree.parts target ++ rest)
            else follow top links above here (FileTree.parts target ++ rest)
        | some (directory es) => follow top links (here :: above) (directory es) rest
        | some (file content) => follow top links (here :: above) (file content) rest
    | _ => .error .notADirectory
termination_by (links, parts.length)

/-- A path, and a path below it. -/
def join (path below : String) : String :=
  if path = "" ∨ below.startsWith "/" then below
  else if path.endsWith "/" then path ++ below
  else path ++ "/" ++ below

/-- What a path names, as seen from a directory. -/
def resolve (t : FileTree) (directory path : String) : Except FileError FileTree :=
  if path.contains '\x00' then .error .invalidPath
  else if path = "" then .error .notFound
  else if pathLimit < path.utf8ByteSize then .error .nameTooLong
  else follow t linkLimit [] t (parts (join directory path))

/-- The entries of a directory. -/
def list (t : FileTree) (directory path : String) : Except FileError (List (String × FileTree)) :=
  match t.resolve directory path with
  | .error e => .error e
  | .ok (.directory entries) => .ok entries
  | .ok _ => .error .notADirectory

/-- The content of a file. -/
def read (t : FileTree) (directory path : String) : Except FileError Octets :=
  match t.resolve directory path with
  | .error e => .error e
  | .ok (file content) => .ok content
  | .ok _ => .error .isADirectory

/-! ### Making a tree -/

/-- What stands at a place that is given by names, without following links. -/
def at? : List String → FileTree → Option FileTree
  | [], t => some t
  | part :: rest, directory es => (find? part es).bind (at? rest)
  | _ :: _, _ => none

/-- The place, by names, to which the parts of a path lead.  `here` is the place that has been
reached, the last name first.  What is not there yet is taken for directories. -/
def locate (top : FileTree) (links : Nat) (here : List String) (parts : List String) :
    List String :=
  match parts with
  | [] => here.reverse
  | part :: rest =>
    if part = "" ∨ part = "." then locate top links here rest
    else if part = ".." then locate top links (here.drop 1) rest
    else match at? (part :: here).reverse top with
      | some (link target) =>
        match links with
        | 0 => locate top 0 (part :: here) rest
        | links + 1 =>
          locate top links (if target.startsWith "/" then [] else here)
            (FileTree.parts target ++ rest)
      | _ => locate top links (part :: here) rest
termination_by (links, parts.length)

/-- Puts a tree at a place; directories on the way are made where there are none. -/
def insertAt (new : FileTree) : List String → FileTree → FileTree
  | [], old =>
    match new, old with
    | directory [], directory es => directory es
    | _, _ => new
  | part :: rest, directory es =>
    match find? part es with
    | some old =>
      directory (es.map fun (n, t) => if n = part then (n, insertAt new rest old) else (n, t))
    | none => directory (es ++ [(part, insertAt new rest (directory []))])
  | _ :: _, old => old

/-- Puts a tree under a path from the root, to which links lead as well.  A link itself stands where
its path says. -/
def insert (t : FileTree) (path : String) (new : FileTree) : FileTree :=
  let names := (parts path).filter (· ≠ "")
  let place (names : List String) := locate t linkLimit [] names
  match new with
  | link _ => insertAt new (place names.dropLast ++ names.drop (names.length - 1)) t
  | _ => insertAt new (place names) t

/-- A directory without entries. -/
def empty : FileTree := directory []

end FileTree

end LogSteward
