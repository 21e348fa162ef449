import VideoCapture.Text.Path

/-!
# A small disk

A disk for trials of readers of files: a table of places with a directory, a file or a link at each.
A path is followed name by name, so what goes wrong first is what the reader is told.

## Main definitions

* `Disk` — the table and the working directory.
* `Disk.read` — the text of the file at a path, or the reason why there is none.
* `Disk.usual` — a disk with what is found on most systems, none of it a list of sound cards.
-/

namespace VideoCapture.Scripted

/-- A place on a disk: the names that lead there from the root, the last one first. -/
abbrev Place := List String

/-- What is at a place. -/
inductive Entry where
  | directory
  | file (text : String)
  /-- A file whose bytes are no text. -/
  | binary
  /-- Another name of a directory. -/
  | link (target : Place)
  deriving DecidableEq

/-- A disk. There is always a directory at the root. -/
structure Disk where
  entries : List (Place × Entry)
  /-- The working directory, where paths begin that do not begin at the root. -/
  working : Place
  deriving DecidableEq

/-- The reasons why a file cannot be read. -/
inductive DiskError where
  | noSuchFile
  | notADirectory
  | isADirectory
  | nameTooLong
  /-- The path has a zero byte in it, which would end it early. -/
  | zeroByte
  | notText
  deriving DecidableEq

/-- The reason in the words of the operating system. -/
def DiskError.message : DiskError → String
  | noSuchFile => "No such file or directory (os error 2)"
  | notADirectory => "Not a directory (os error 20)"
  | isADirectory => "Is a directory (os error 21)"
  | nameTooLong => "File name too long (os error 36)"
  | zeroByte => "file name contained an unexpected NUL byte"
  | notText => "stream did not contain valid UTF-8"

namespace Disk

def longestPath : Nat := 4095

def longestName : Nat := 255

/-- What is at a place, if there is anything. -/
def entry? (d : Disk) (place : Place) : Option Entry :=
  if place = [] then some .directory else d.entries.lookup place

/-- One step along a path. Nothing leads on from a file, not even an empty name; a step to a link
ends where it points. -/
def step (d : Disk) (place : Place) (name : String) : Except DiskError Place :=
  if d.entry? place ≠ some .directory then .error .notADirectory
  else if name = "" ∨ name = "." then .ok place
  else if name = ".." then .ok place.tail
  else if longestName < name.utf8ByteSize then .error .nameTooLong
  else
    match d.entry? (name :: place) with
    | none => .error .noSuchFile
    | some (.link target) => .ok target
    | some _ => .ok (name :: place)

/-- The place where a list of names leads from another place. -/
def follow (d : Disk) (place : Place) : List String → Except DiskError Place
  | [] => .ok place
  | name :: rest =>
    match d.step place name with
    | .error e => .error e
    | .ok next => d.follow next rest

/-- The place where a path leads. -/
def locate (d : Disk) (path : String) : Except DiskError Place :=
  let names := (Text.pathPieces path.toList).map String.ofList
  if path.toList.contains '\x00' then .error .zeroByte
  else if longestPath < path.utf8ByteSize then .error .nameTooLong
  else if path = "" then .error .noSuchFile
  else d.follow (if names.head? = some "" then [] else d.working) names

/-- The text of the file at a path, or the reason why there is none. -/
def read (d : Disk) (path : String) : Except DiskError String :=
  match d.locate path with
  | .error e => .error e
  | .ok place =>
    match d.entry? place with
    | some (.file text) => .ok text
    | some .binary => .error .notText
    | some _ => .error .isADirectory
    | none => .error .noSuchFile

def reader (d : Disk) (path : String) : Except String String :=
  match d.read path with
  | .ok text => .ok text
  | .error e => .error e.message

/-- Entries of one kind in one directory. -/
def inside (directory : Place) (entry : Entry) (names : List String) : List (Place × Entry) :=
  names.map fun name => (name :: directory, entry)

/-- A disk with what is found on most systems: the usual directories, some files of the system, whose
texts name no sound card, and some programs. -/
def usual : Disk where
  entries :=
    inside [] .directory
        ["boot", "dev", "etc", "home", "media", "mnt", "opt", "proc", "root", "run", "srv", "sys",
          "tmp", "usr", "var"]
      ++ [(["bin"], .link ["bin", "usr"]), (["sbin"], .link ["sbin", "usr"]),
        (["lib"], .link ["lib", "usr"]), (["lib64"], .link ["lib64", "usr"])]
      ++ inside ["usr"] .directory
        ["bin", "games", "include", "lib", "lib64", "local", "sbin", "share", "src"]
      ++ inside ["local", "usr"] .directory ["bin", "include", "lib", "sbin", "share", "src"]
      ++ inside ["var"] .directory ["cache", "lib", "log", "mail", "opt", "spool", "tmp"]
      ++ [(["run", "var"], .link ["run"])]
      ++ inside ["dev"] .directory ["fd", "mqueue", "pts", "shm"]
      ++ inside ["dev"] (.file "") ["null"]
      ++ inside ["proc"] .directory ["1", "self", "sys"]
      ++ inside ["proc"] (.file "")
        ["cmdline", "cpuinfo", "filesystems", "loadavg", "meminfo", "mounts", "stat", "uptime",
          "version"]
      ++ inside ["self", "proc"] (.file "") ["cmdline", "maps", "mounts", "stat", "status"]
      ++ inside ["self", "proc"] .binary ["exe"]
      ++ inside ["etc"] (.file "")
        ["debian_version", "fstab", "group", "hostname", "hosts", "issue", "nsswitch.conf",
          "os-release", "passwd", "profile", "resolv.conf", "shadow", "shells"]
      ++ inside ["bin", "usr"] .binary
        ["bash", "cat", "chmod", "cp", "dash", "date", "echo", "env", "false", "grep", "head", "id",
          "ln", "ls", "mkdir", "mv", "perl", "ps", "pwd", "rm", "sed", "sh", "sleep", "sort", "tail",
          "tar", "touch", "true", "uname", "wc", "whoami"]
  working := ["tmp"]

end Disk

end VideoCapture.Scripted
