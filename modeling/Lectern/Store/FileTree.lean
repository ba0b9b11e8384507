/-
Module: Lectern.Store.FileTree
Purpose: Files by their paths, and the changes that are made to them one at a time.
Main exports: FilePath, FilePath.plain, FileTree, FileTree.below, Change, FileTree.apply
-/
import Lectern.Text.Blank

namespace Lectern.Store

/-- The path of a file: the folders on the way to it and its name. -/
abbrev FilePath := List String

/-- The path that a text gives. Empty steps and steps that stay in place do not count. -/
def FilePath.ofText (text : String) : FilePath :=
  ((Text.splitOn (· == '/') text.toList).map String.ofList).filter fun step =>
    step != "" && step != "."

/-- A path as text. -/
def FilePath.toText (path : FilePath) : String := "/".intercalate path

/-- The shortest path to the same place: no empty steps and none that stay. Two slashes in front
mean something else than one, three or more do not. -/
def FilePath.plain (path : String) : String :=
  let steps := (Text.splitOn (· == '/') path.toList).filter fun step =>
    !step.isEmpty && step != ['.']
  let root := match path.toList with
    | '/' :: '/' :: '/' :: _ => "/"
    | '/' :: '/' :: _ => "//"
    | '/' :: _ => "/"
    | _ => ""
  let body := "/".intercalate (steps.map String.ofList)
  if root.isEmpty && body.isEmpty then "." else root ++ body

/-- The place that a text names. A path from the root starts with a step of its own. -/
def FilePath.place (text : String) : FilePath :=
  (if text.startsWith "/" then ["/"] else []) ++ FilePath.ofText text

/-- Files with their texts, each path once. -/
structure FileTree where
  files : List (FilePath × String) := []
  deriving DecidableEq, Repr, Inhabited

/-- A change that is made at once or not at all. -/
inductive Change where
  /-- Put a text into a file, in place of what was there. -/
  | write (path : FilePath) (text : String)
  /-- Give a file another path, in place of what was there. -/
  | rename (source target : FilePath)
  /-- Add a text to the end of a file. -/
  | append (path : FilePath) (text : String)
  deriving DecidableEq, Repr, Inhabited

namespace FileTree

/-- The text of a file. -/
def read? (tree : FileTree) (path : FilePath) : Option String :=
  (tree.files.find? (·.1 == path)).map (·.2)

/-- Put a text into a file. -/
def write (tree : FileTree) (path : FilePath) (text : String) : FileTree where
  files :=
    if tree.files.any (·.1 == path) then
      tree.files.map fun file => if file.1 == path then (path, text) else file
    else tree.files ++ [(path, text)]

/-- Remove a file. -/
def remove (tree : FileTree) (path : FilePath) : FileTree where
  files := tree.files.filter (·.1 != path)

/-- The files below a folder, by their paths from there. -/
def below (tree : FileTree) (folder : FilePath) : FileTree where
  files := tree.files.filterMap fun (path, text) =>
    if folder.isPrefixOf path && path.length != folder.length then
      some (path.drop folder.length, text)
    else none

/-- Put files below a folder, in place of all that was there. -/
def withBelow (tree : FileTree) (folder : FilePath) (inner : FileTree) : FileTree where
  files :=
    tree.files.filter (fun (path, _) =>
      !(folder.isPrefixOf path && path.length != folder.length)) ++
      inner.files.map fun (path, text) => (folder ++ path, text)

/-- Is there a folder at a place? -/
def hasFolder (tree : FileTree) (folder : FilePath) : Bool :=
  folder.isEmpty || !(tree.below folder).files.isEmpty

/-- Make a change. -/
def apply (tree : FileTree) : Change → FileTree
  | .write path text => tree.write path text
  | .rename source target =>
    match tree.read? source with
    | some text => (tree.remove source).write target text
    | none => tree
  | .append path text => tree.write path ((tree.read? path).getD "" ++ text)

/-- Make changes one after the other. -/
def applyAll (tree : FileTree) (changes : List Change) : FileTree := changes.foldl apply tree

end FileTree

/-- Write a file next to its place and then move it there, so that its place never holds a part of
it. -/
def replaceFile (folder : FilePath) (name text : String) : List Change :=
  [.write (folder ++ [name ++ ".tmp"]) text,
    .rename (folder ++ [name ++ ".tmp"]) (folder ++ [name])]

end Lectern.Store
