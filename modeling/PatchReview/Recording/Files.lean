import PatchReview.Settings.FileSystem

/-!
A file system for runs that have none of their own. It holds the directories and files that every
system has and nothing else, and a log can be written into a directory that it holds.
-/

namespace PatchReview.BareFiles

/-- The parts of a path between its slashes. -/
def parts : List Char → List (List Char)
  | [] => [[]]
  | '/' :: rest => [] :: parts rest
  | c :: rest =>
      match parts rest with
      | part :: more => (c :: part) :: more
      | [] => [[c]]

/-- No present place is deeper than this. -/
def depth : Nat := 8

/-- The directories that every system has, besides the root. -/
def directories : List String := [
  "/bin", "/boot", "/dev", "/dev/fd", "/dev/mqueue", "/dev/pts", "/dev/shm", "/etc",
  "/etc/default", "/etc/ssl", "/etc/ssl/certs", "/home", "/lib", "/lib64", "/media", "/mnt",
  "/opt", "/proc", "/proc/1", "/proc/net", "/proc/self", "/proc/sys", "/root", "/run",
  "/run/lock", "/sbin", "/srv", "/sys", "/sys/fs", "/sys/kernel", "/tmp", "/usr", "/usr/bin",
  "/usr/include", "/usr/lib", "/usr/local", "/usr/local/bin", "/usr/local/etc",
  "/usr/local/include", "/usr/local/lib", "/usr/local/sbin", "/usr/local/share", "/usr/sbin",
  "/usr/share", "/usr/share/doc", "/usr/src", "/var", "/var/backups", "/var/cache", "/var/lib",
  "/var/local", "/var/lock", "/var/log", "/var/mail", "/var/opt", "/var/run", "/var/spool",
  "/var/tmp"]

/-- Files that every system has. -/
def files : List String := [
  "/bin/sh", "/dev/full", "/dev/null", "/dev/ptmx", "/dev/random", "/dev/stderr", "/dev/stdin",
  "/dev/stdout", "/dev/urandom", "/dev/zero", "/etc/group", "/etc/hostname", "/etc/hosts",
  "/etc/os-release", "/etc/passwd", "/etc/resolv.conf", "/etc/shadow", "/usr/bin/env"]

/-- The most bytes of a name. -/
def nameLimit : Nat := 255

/-- The least number of bytes that is too many for a path. -/
def pathLimit : Nat := 4096

/-- What a path leads to. -/
inductive Finding where
  | absent
  | directory
  | file (path : String)
  | tooLong
  deriving DecidableEq, Repr

/-- The path from the root by names, which are in reverse. -/
def pathOf (names : List String) : String := "/" ++ "/".intercalate names.reverse

/-- Follows names from a directory, which is given by its own names in reverse. -/
def follow (here : List String) : List String → Finding
  | [] => .directory
  | name :: rest =>
      let next := name :: here
      if name == ".." then follow (here.drop 1) rest
      else if nameLimit < name.utf8ByteSize then .tooLong
      else if directories.contains (pathOf next) then follow next rest
      else if rest.isEmpty && files.contains (pathOf next) then .file (pathOf next)
      else .absent

/-- Follows names from the present place, of which nothing is known but that it is there. -/
def followHere (names : List String) : Finding :=
  let rest := names.dropWhile (· == "..")
  if depth ≤ names.length - rest.length then follow [] rest
  else match rest with
    | [] => .directory
    | name :: _ => if nameLimit < name.utf8ByteSize then .tooLong else .absent

/-- The names of a path. One point stays where it is. -/
def namesOf (path : List Char) : List String :=
  ((parts path).filter fun part => !part.isEmpty && part != ['.']).map String.ofList

/-- What a path leads to. -/
def find (path : String) : Finding :=
  let cs := path.toList
  let names := namesOf cs
  if cs.contains (Char.ofNat 0) then .absent
  else if pathLimit ≤ (pathOf names.reverse).utf8ByteSize then .tooLong
  else if cs.head? == some '/' then follow [] names
  else followHere names

/-- Where a path leads: so far above the present place, or from the root, and then by names, which
are in reverse. -/
structure Place where
  above : Option Nat
  names : List String

namespace Place

/-- Goes on by a part. One point stays, two lead back. -/
def enter (place : Place) (part : List Char) : Place :=
  if part.isEmpty || part == ['.'] then place
  else if part == ['.', '.'] then
    if place.names.isEmpty then { place with above := place.above.map (· + 1) }
    else { place with names := place.names.drop 1 }
  else { place with names := String.ofList part :: place.names }

/-- Where a path leads, by its text alone. -/
def ofPath (path : List Char) : Place :=
  let start := if path.head? == some '/' then none else some 0
  let place := (parts path).foldl enter ⟨start, []⟩
  if place.above.any (depth ≤ ·) then { place with above := none } else place

end Place

/-- The slashes that a path keeps in front: two if they are exactly two, and otherwise one. -/
def lead (path : List Char) : String :=
  if (path.takeWhile (· == '/')).length = 2 then "//" else "/"

/-- A path from the root without parts that stay or lead back. -/
def plainPath (path : List Char) : String :=
  lead path ++ "/".intercalate (Place.ofPath path).names.reverse

/-- Directories in which no file is found that is not there. -/
def fixedDirectories : List String := ["/dev/fd", "/proc", "/proc/1", "/proc/net", "/proc/self",
  "/proc/sys"]

/-- Directories in which no file may be made. -/
def lockedDirectories : List String := ["/dev/pts", "/sys", "/sys/fs", "/sys/kernel"]

/-- Follows names from a directory, the last one being that of the file `path`. -/
def openFrom (path here : String) : List String → Except Failure Unit
  | [] => .error (.unopened .directory)
  | name :: rest =>
      let next := here ++ "/" ++ name
      if nameLimit < name.utf8ByteSize then .error (.unopened .tooLong)
      else if directories.contains next then openFrom path next rest
      else if files.contains next then
        if rest.isEmpty then .ok () else .error (.unopened .notDirectory)
      else if !rest.isEmpty || fixedDirectories.contains here then
        .error (.unopened (.absent path))
      else if lockedDirectories.contains here then .error (.unopened .denied)
      else .ok ()

/-- Follows names from the present place or above it. Of what is there nothing is known. -/
def openHere (path : String) : List String → Except Failure Unit
  | [] => .error (.unopened .directory)
  | name :: rest =>
      if nameLimit < name.utf8ByteSize then .error (.unopened .tooLong)
      else if rest.isEmpty then .ok ()
      else .error (.unopened (.absent path))

/-- Opens a file for writing. A name alone stands for a file at the present place. -/
def openText (path : String) : Except Failure Unit :=
  let cs := path.toList
  let place := Place.ofPath cs
  let plain := plainPath cs
  if cs.contains (Char.ofNat 0) then .error (.unopened .zero)
  else if pathLimit ≤ plain.utf8ByteSize then .error (.unopened .tooLong)
  else match place.above with
    | none => openFrom plain "" place.names.reverse
    | some _ => openHere path place.names.reverse

/-- The text of a file. A word stands for what those say that are not empty. -/
def read? (path : String) : Except Failure (Option String) :=
  match find path with
  | .absent => .ok none
  | .directory => .error (.unopened .directory)
  | .tooLong => .error (.unopened .tooLong)
  | .file "/dev/null" => .ok (some "")
  | .file _ => .ok (some "x")

/-- The file system. A path in bytes is one in UTF-8. -/
def system : FileSystem where
  append
    | .text path => openText path
    | .bytes path => match Utf8.decode path with
        | .ok path => openText path
        | .error _ => .error (.unopened .denied)
  read? := read?

end PatchReview.BareFiles
