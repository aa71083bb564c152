import LineBridge.Fault

/-! Files in one folder, and what a path that starts in it leads to. A path is followed part by
part. Every part needs a folder to start from, an empty one or a dot stays where it is, and two
dots lead to the folder around. Around the folder there are folders only, and none of them has
a name. -/

namespace LineBridge.Tool

/-- The files that can be read. -/
abbrev Files := String → Except FileFault Bytes

/-- The files of a folder by name. -/
abbrev Folder := String → Option Bytes

namespace Folder

/-- Where a path has led so far. -/
inductive Place where
  | inside
  | around
  | file (content : Bytes)
deriving DecidableEq, Repr

/-- Bytes of the longest name. -/
def maxNameBytes : Nat := 255

/-- Bytes of the longest path. -/
def maxPathBytes : Nat := 4095

/-- A name in the folder itself. -/
def find (folder : Folder) (name : String) : Except FileFault Place :=
  match folder name with
  | some content => .ok (.file content)
  | none => if maxNameBytes < name.utf8ByteSize then .error .nameTooLong else .error .missing

/-- The place one part further on. A file is the end of every path. -/
def step (folder : Folder) (place : Place) (part : String) : Except FileFault Place :=
  match place with
  | .file _ => .error .notDirectory
  | .inside =>
    if part = "" ∨ part = "." then .ok .inside
    else if part = ".." then .ok .around
    else folder.find part
  | .around =>
    if part = "" ∨ part = "." ∨ part = ".." then .ok .around
    else find (fun _ => none) part

/-- What stands between the slashes. -/
def parts (path : String) : List String := (path.toList.splitOn '/').map String.ofList

/-- A path that starts with a slash starts outside of the folder. -/
def start (path : String) : Place :=
  if path.toList.head? = some '/' then .around else .inside

/-- The place that a path leads to. -/
def follow (folder : Folder) (path : String) : Except FileFault Place :=
  if path.isEmpty then .error .missing
  else if maxPathBytes < path.utf8ByteSize then .error .nameTooLong
  else (parts path).foldlM folder.step (start path)

/-- What can be read behind a path. -/
def read (folder : Folder) : Files := fun path => do
  match ← folder.follow path with
  | .file content => pure content
  | .inside | .around => throw .isDirectory

end Folder

end LineBridge.Tool
