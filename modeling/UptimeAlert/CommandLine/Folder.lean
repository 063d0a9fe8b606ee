import UptimeAlert.CommandLine.Path
import UptimeAlert.Text.Digits
import UptimeAlert.Text.Quoted
import UptimeAlert.Text.Utf8

namespace UptimeAlert.CommandLine

open UptimeAlert.Text

inductive OpenError where
  | notFound
  | notAFolder
  | isAFolder
  | nameTooLong
  | nulInName
  | system (code : Nat) (reason : String)
  deriving DecidableEq, Repr

namespace OpenError

/-- The wording of an error of the system, with its number and the file. -/
def systemMessage (code : Nat) (reason : String) (path : Path) : String :=
  "[Errno " ++ String.ofList (decimal code) ++ "] " ++ reason ++ ": " ++
    String.ofList (quote path.text.toList)

def message (e : OpenError) (path : Path) : String :=
  match e with
  | .notFound => systemMessage 2 "No such file or directory" path
  | .notAFolder => systemMessage 20 "Not a directory" path
  | .isAFolder => systemMessage 21 "Is a directory" path
  | .nameTooLong => systemMessage 36 "File name too long" path
  | .nulInName => "embedded null byte"
  | .system code reason => systemMessage code reason path

end OpenError

/-- The files of a folder and of the folders in it, each under the names that lead to it. -/
abbrev Folder := List (List String × List UInt8)

namespace Folder

def ofList (files : List (String × List UInt8)) : Folder :=
  files.map fun (name, bytes) => ((Path.ofString name).names, bytes)

def nameLimit : Nat := 255

/-- The most bytes of a path, with the mark at its end. -/
def pathLimit : Nat := 4096

/-- Whether there is a folder under the given names. -/
def hasFolder (folder : Folder) (names : List String) : Bool :=
  names.isEmpty || folder.any fun (path, _) => names.isPrefixOf path && path != names

/-- Follows names from a place. Above the working folder there is nothing but folders. -/
def follow (folder : Folder) (place : List String) : List String → Except OpenError (List UInt8)
  | [] => .error .isAFolder
  | name :: rest =>
    if name = ".." then
      match place with
      | [] => .error (if rest.all (· = "..") then .isAFolder else .notFound)
      | _ => follow folder place.dropLast rest
    else if nameLimit < name.utf8ByteSize then .error .nameTooLong
    else
      let here := place ++ [name]
      match folder.lookup here with
      | some bytes => if rest.isEmpty then .ok bytes else .error .notAFolder
      | none => if folder.hasFolder here then follow folder here rest else .error .notFound

/-- The bytes of a file. Of paths that begin elsewhere only the folder at the top is there. -/
def read (folder : Folder) (path : Path) : Except OpenError (List UInt8) :=
  if path.text.contains '\x00' then .error .nulInName
  else if pathLimit ≤ path.text.utf8ByteSize then .error .nameTooLong
  else if path.root.isEmpty then folder.follow [] path.names
  else .error (if path.names.all (· = "..") then .isAFolder else .notFound)

end Folder

end UptimeAlert.CommandLine
