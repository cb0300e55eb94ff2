import ScrollTimeline.Text

/-!
Files in directories, and where a path leads among them. A path is followed name by name; it breaks
off at the first name that cannot be followed, so each path that leads nowhere has one cause.
-/
set_option autoImplicit false

namespace ScrollTimeline

inductive OpenError where
  | noSuchFile
  | notADirectory
  | nameTooLong
  | other (reason : String)
deriving DecidableEq, Repr

def OpenError.message : OpenError → String
  | noSuchFile => "No such file or directory (os error 2)"
  | notADirectory => "Not a directory (os error 20)"
  | nameTooLong => "File name too long (os error 36)"
  | other reason => reason

inductive FileTree where
  | file (text : String)
  | directory (entries : List (String × FileTree))

namespace FileTree

def maxNameSize : Nat := 255

def maxPathSize : Nat := 4095

def text? : FileTree → Option String
  | file text => some text
  | directory _ => none

/-- Follows names from a node whose ancestors are given, the nearest first. An empty name and a dot
stay in a directory, and two dots leave it, except at the root. -/
def descend : List FileTree → FileTree → List String → Except OpenError FileTree
  | _, node, [] => .ok node
  | _, file _, _ :: _ => .error .notADirectory
  | ancestors, directory entries, name :: names =>
    if name = "" ∨ name = "." then descend ancestors (directory entries) names
    else if name = ".." then
      match ancestors with
      | [] => descend [] (directory entries) names
      | parent :: older => descend older parent names
    else if maxNameSize < name.utf8ByteSize then .error .nameTooLong
    else
      match entries.lookup name with
      | some node => descend (directory entries :: ancestors) node names
      | none => .error .noSuchFile

def namesOf (path : String) : List String :=
  (Text.splitWhere (· = '/') path.toList).map String.ofList

/-- The node that a path leads to. A path that does not begin with a slash starts in the working
directory, which is given by its own path. -/
def follow (root : FileTree) (workingDirectory path : String) : Except OpenError FileTree :=
  if path = "" then .error .noSuchFile
  else if maxPathSize < path.utf8ByteSize then .error .nameTooLong
  else
    let start := if path.toList.head? = some '/' then [] else namesOf workingDirectory
    descend [] root (start ++ namesOf path)

end FileTree

end ScrollTimeline
