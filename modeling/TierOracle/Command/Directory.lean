namespace TierOracle

inductive ReadError where
  | absent
  | notDirectory
  | isDirectory
  | nameTooLong
  | notUtf8
  /-- Anything else, in the system's own words. -/
  | other (cause : String)
  deriving DecidableEq, Repr

def ReadError.message : ReadError → String
  | absent => "No such file or directory (os error 2)"
  | notDirectory => "Not a directory (os error 20)"
  | isDirectory => "Is a directory (os error 21)"
  | nameTooLong => "File name too long (os error 36)"
  | notUtf8 => "stream did not contain valid UTF-8"
  | other cause => cause

/-- The bytes behind each path. -/
abbrev Files := String → Except ReadError ByteArray

def Files.readText (files : Files) (path : String) : Except ReadError String :=
  match files path with
  | .error e => .error e
  | .ok bytes =>
    match String.fromUTF8? bytes with
    | some text => .ok text
    | none => .error .notUtf8

/-- The directory that a program runs in, with its files under names relative to it. Of what lies
outside little is known. -/
structure Directory where
  files : List (String × ByteArray)

namespace Directory

def steps (path : String) : List String := (path.toList.splitOn '/').map String.ofList

/-- Where the directory lies, from the top of the file system. An empty step leads nowhere, so no
path enters it by this name. -/
def ownPlace : List String := ["tmp", ""]

/-- The files known outside of it: the null device and the standard input, both empty. -/
def outerFiles : List (List String × ByteArray) :=
  [(["dev", "null"], .empty), (["dev", "stdin"], .empty)]

/-- The usual directories at the top. -/
def outerDirectories : List (List String) :=
  ["bin", "boot", "dev", "etc", "home", "lib", "media", "mnt", "opt", "proc", "root", "run", "sbin",
    "srv", "sys", "tmp", "usr", "var"].map (fun name => [name])

def places (d : Directory) : List (List String × ByteArray) :=
  d.files.map (fun (name, bytes) => (ownPlace ++ steps name, bytes)) ++ outerFiles

def file? (d : Directory) (place : List String) : Option ByteArray :=
  (d.places.find? (fun (p, _) => p == place)).map Prod.snd

/-- A place is a directory if that of some file goes on after it. -/
def holds (d : Directory) (place : List String) : Bool :=
  outerDirectories.contains place || d.places.any (fun (p, _) => place.isPrefixOf p && p != place)

/-- Follows the steps from a place that is a directory. The top is its own parent. -/
def follow (d : Directory) : List String → List String → Except ReadError ByteArray
  | _, [] => .error .isDirectory
  | place, step :: later =>
    if step = "" ∨ step = "." then follow d place later
    else if step = ".." then follow d place.dropLast later
    else if 255 < step.utf8ByteSize then .error .nameTooLong
    else
      match d.file? (place ++ [step]) with
      | some bytes => if later = [] then .ok bytes else .error .notDirectory
      | none =>
        if d.holds (place ++ [step]) then follow d (place ++ [step]) later else .error .absent

/-- What the paths lead to for a program that runs in this directory. A path of 4096 bytes is too
long, whatever its steps. -/
def read (d : Directory) : Files := fun path =>
  if path = "" then .error .absent
  else if 4096 ≤ path.utf8ByteSize then .error .nameTooLong
  else d.follow (if path.toList.head? = some '/' then [] else ownPlace) (steps path)

end Directory

end TierOracle
