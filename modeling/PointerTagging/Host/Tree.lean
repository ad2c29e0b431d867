import PointerTagging.Host.Catalogue
import PointerTagging.Host.SystemError
/-!
# The file tree

The directories and files of the host, the links between them, and where a path leads. A place is
the list of the names on the way from the root. Names and contents are text whose characters stand
for bytes.
-/

namespace PointerTagging.Host

/-- What stands at a place. -/
inductive File where
  | directory
  /-- A text with its permissions. -/
  | ordinary (text : String) (mode : Nat)
  /-- The device that takes everything and gives nothing. -/
  | nothing
  /-- The device that takes everything and gives null characters without end. -/
  | zeros
  /-- The device that has no room for anything. -/
  | full
  /-- Another device. -/
  | device
  /-- A stream with a name. -/
  | pipe
  /-- What a descriptor of the opening program leads to. -/
  | descriptor (number : Nat)
  | program (utility : Utility)
  /-- A library that programs can load. -/
  | library
  /-- A link to the file that a path leads to from here. -/
  | link (path : String)
  deriving DecidableEq, Repr

/-- The permissions of a new file. -/
def File.newMode : Nat := 0o644

/-- Null characters, more than programs take from the device that has no end of them. -/
def File.someZeros : String := String.ofList (List.replicate 65536 '\x00')

/-- A new file with a text. -/
def File.holding (text : String) : File := .ordinary text newMode

/-- The permissions that a file has which does not hold any, if nothing else is said. -/
def File.usualMode : File → Nat
  | .ordinary _ mode => mode
  | .directory => 0o755
  | .program _ => 0o755
  | .link _ => 0o777
  | .nothing => 0o666
  | .zeros => 0o666
  | .full => 0o666
  | .device => 0o666
  | _ => 0o644

/-- What is known of a file apart from what it is. -/
structure Detail where
  /-- The permissions, if they are not the usual ones and the file does not hold them. -/
  mode : Option Nat
  owner : Nat
  group : Nat
  /-- When it was changed last: seconds since the start of 1970, and billionths of a second. -/
  modified : Int × Nat
  deriving Repr

/-- The files of a host by their places. -/
structure Tree where
  files : List (List String × File)
  /-- What is known of some of them. -/
  details : List (List String × Detail)
  /-- The places that have one file in common. -/
  twins : List (List (List String))
  /-- The seconds since the start of 1970. -/
  now : Int
  /-- The permissions that new files do not have. -/
  mask : Nat
  deriving Repr

namespace Tree

/-- The second at which the host was made. -/
def firstSecond : Int := 1735689600

/-- The permissions that new files do not have, if nothing else is said. -/
def usualMask : Nat := 0o022

/-- The directories that have no other description here. -/
def directories : List (List String) :=
  [["boot"], ["dev"], ["dev", "pts"], ["dev", "shm"], ["etc"], ["etc", "alternatives"], ["home"],
    ["home", "guest"], ["home", "guest", "work"], ["media"], ["mnt"], ["opt"], ["proc"],
    ["root"], ["run"], ["srv"], ["sys"], ["tmp"], ["usr"], ["usr", "bin"], ["usr", "games"],
    ["usr", "include"], ["usr", "lib"], ["usr", "lib", "x86_64-linux-gnu"], ["usr", "lib64"],
    ["usr", "libexec"], ["usr", "local"], ["usr", "local", "bin"], ["usr", "local", "etc"],
    ["usr", "local", "include"], ["usr", "local", "lib"], ["usr", "local", "sbin"],
    ["usr", "local", "share"], ["usr", "sbin"], ["usr", "share"], ["usr", "src"], ["var"],
    ["var", "backups"], ["var", "cache"], ["var", "lib"], ["var", "local"], ["var", "log"],
    ["var", "mail"], ["var", "opt"], ["var", "spool"], ["var", "tmp"]]

/-- Files of whose contents nothing is known. -/
def unreadFiles : List (List String) :=
  [["etc", "fstab"], ["etc", "ld.so.cache"], ["etc", "ld.so.conf"], ["etc", "nsswitch.conf"],
    ["etc", "profile"], ["etc", "resolv.conf"], ["etc", "shells"], ["proc", "cpuinfo"],
    ["proc", "meminfo"], ["proc", "version"], ["usr", "lib", "os-release"]]

/-- The users of the host: their names, numbers, groups, full names, homes and shells. -/
def users : List (String × Nat × Nat × String × String × String) :=
  let out := "/usr/sbin/nologin"
  [("root", 0, 0, "root", "/root", "/bin/bash"), ("daemon", 1, 1, "daemon", "/usr/sbin", out),
    ("bin", 2, 2, "bin", "/bin", out), ("sys", 3, 3, "sys", "/dev", out),
    ("sync", 4, 65534, "sync", "/bin", "/bin/sync"), ("games", 5, 60, "games", "/usr/games", out),
    ("man", 6, 12, "man", "/var/cache/man", out), ("lp", 7, 7, "lp", "/var/spool/lpd", out),
    ("mail", 8, 8, "mail", "/var/mail", out), ("news", 9, 9, "news", "/var/spool/news", out),
    ("uucp", 10, 10, "uucp", "/var/spool/uucp", out), ("proxy", 13, 13, "proxy", "/bin", out),
    ("www-data", 33, 33, "www-data", "/var/www", out),
    ("backup", 34, 34, "backup", "/var/backups", out),
    ("list", 38, 38, "Mailing List Manager", "/var/list", out),
    ("irc", 39, 39, "ircd", "/run/ircd", out), ("_apt", 42, 65534, "", "/nonexistent", out),
    ("nobody", 65534, 65534, "nobody", "/nonexistent", out)]

/-- The groups of the host: their names and numbers. -/
def groups : List (String × Nat) :=
  [("root", 0), ("daemon", 1), ("bin", 2), ("sys", 3), ("adm", 4), ("tty", 5), ("disk", 6),
    ("lp", 7), ("mail", 8), ("news", 9), ("uucp", 10), ("man", 12), ("proxy", 13), ("kmem", 15),
    ("dialout", 20), ("fax", 21), ("voice", 22), ("cdrom", 24), ("floppy", 25), ("tape", 26),
    ("sudo", 27), ("audio", 29), ("dip", 30), ("www-data", 33), ("backup", 34), ("operator", 37),
    ("list", 38), ("irc", 39), ("src", 40), ("shadow", 42), ("utmp", 43), ("video", 44),
    ("sasl", 45), ("plugdev", 46), ("staff", 50), ("games", 60), ("users", 100),
    ("nogroup", 65534)]

/-- The name of the user with a number. -/
def userName? (n : Nat) : Option String := (users.find? fun u => u.2.1 == n).map (·.1)

/-- The name of the group with a number. -/
def groupName? (n : Nat) : Option String := (groups.find? fun g => g.2 == n).map (·.1)

/-- The list of the groups as a file. -/
def groupList : String :=
  String.join (groups.map fun (name, number) => name ++ ":x:" ++ toString number ++ ":\n")

/-- The list of the users as a file. -/
def userList : String :=
  String.join (users.map fun (name, number, group, fullName, home, shell) =>
    ":".intercalate [name, "x", toString number, toString group, fullName, home, shell] ++ "\n")

/-- The other files apart from the programs. -/
def others : List (List String × File) :=
  [(["bin"], .link "usr/bin"), (["lib"], .link "usr/lib"), (["lib64"], .link "usr/lib64"),
    (["sbin"], .link "usr/sbin"), (["var", "run"], .link "/run"),
    (["var", "lock"], .link "/run/lock"),
    (["etc", "os-release"], .link "../usr/lib/os-release"),
    (["etc", "mtab"], .link "/proc/mounts"),
    (["etc", "alternatives", "awk"], .link "/usr/bin/mawk"),
    (["etc", "alternatives", "nawk"], .link "/usr/bin/mawk"),
    (["usr", "lib", "x86_64-linux-gnu", "libc.so.6"], .library),
    (["usr", "lib64", "ld-linux-x86-64.so.2"], .library),
    (["dev", "null"], .nothing), (["dev", "zero"], .zeros), (["dev", "full"], .full),
    (["dev", "random"], .device), (["dev", "urandom"], .device), (["dev", "tty"], .device),
    (["dev", "stdin"], .link "/proc/self/fd/0"), (["dev", "stdout"], .link "/proc/self/fd/1"),
    (["dev", "stderr"], .link "/proc/self/fd/2"), (["dev", "fd"], .link "/proc/self/fd"),
    (["etc", "group"], .holding groupList), (["etc", "hostname"], .holding "localhost\n"),
    (["etc", "hosts"], .holding "127.0.0.1\tlocalhost\n"),
    (["etc", "passwd"], .holding userList),
    (["etc", "shadow"], .ordinary "root:*:0:0:99999:7:::\n" 0o640)]

/-- The directory that programs start in. -/
def start : List String := ["home", "guest", "work"]

/-- Where the program stands that launches others with a library preloaded. -/
def launcherPlace : List String := ["home", "guest", "launcher"]

/-- The files of the host as they are at first. -/
def initial : Tree :=
  { files := directories.map (fun place => (place, .directory)) ++
      unreadFiles.map (fun place => (place, .holding "")) ++ others ++
      [(launcherPlace, .program .launcher)] ++
      Utility.names.map (fun u => (["usr", "bin", u.1], .program u.2)) ++
      Utility.links.map fun l => (["usr", "bin", l.1], .link l.2)
    details := [(["root"], ⟨some 0o700, 0, 0, (firstSecond, 0)⟩),
      (["tmp"], ⟨some 0o1777, 0, 0, (firstSecond, 0)⟩),
      (["var", "tmp"], ⟨some 0o1777, 0, 0, (firstSecond, 0)⟩),
      (["dev", "shm"], ⟨some 0o1777, 0, 0, (firstSecond, 0)⟩),
      (["proc"], ⟨some 0o555, 0, 0, (firstSecond, 0)⟩),
      (["sys"], ⟨some 0o555, 0, 0, (firstSecond, 0)⟩),
      (["var", "local"], ⟨some 0o2775, 0, 50, (firstSecond, 0)⟩),
      (["var", "mail"], ⟨some 0o2775, 0, 8, (firstSecond, 0)⟩),
      (["etc", "shadow"], ⟨none, 0, 42, (firstSecond, 0)⟩)]
    twins := []
    now := firstSecond
    mask := usualMask }

/-- What stands at a place. -/
def at? (tree : Tree) (place : List String) : Option File :=
  if place.isEmpty then some .directory
  else (tree.files.find? fun f => f.1 == place).map (·.2)

/-- The names in a directory. -/
def namesIn (tree : Tree) (place : List String) : List String :=
  tree.files.filterMap fun f => if f.1.dropLast == place then f.1.getLast? else none

/-- What is known of the file at a place. -/
def detail (tree : Tree) (place : List String) : Detail :=
  ((tree.details.find? fun d => d.1 == place).map (·.2)).getD ⟨none, 0, 0, (firstSecond, 0)⟩

/-- The places at which the file at a place stands. -/
def twinsOf (tree : Tree) (place : List String) : List (List String) :=
  (tree.twins.find? (·.contains place)).getD [place]

/-- The tree with something else known of the file at a place. -/
def withDetail (tree : Tree) (place : List String) (detail : Detail) : Tree :=
  let places := tree.twinsOf place
  { tree with
    details := places.map (fun p => (p, detail)) ++
      tree.details.filter fun d => !places.contains d.1 }

/-- The tree with another file at a place and all places that have it in common. -/
def exchange (tree : Tree) (place : List String) (file : File) : Tree :=
  let places := tree.twinsOf place
  { tree with
    files := places.map (fun p => (p, file)) ++
      tree.files.filter fun f => !places.contains f.1 }

/-- The tree with a file put at a place, which changes it now. -/
def put (tree : Tree) (place : List String) (file : File) : Tree :=
  let tree := tree.exchange place file
  tree.withDetail place { tree.detail place with modified := (tree.now, 0) }

/-- The tree with a new file that holds a text. -/
def create (tree : Tree) (place : List String) (text : String) : Tree :=
  tree.put place (.ordinary text (0o666 &&& (0o7777 - tree.mask)))

/-- The tree with a new directory that has given permissions. -/
def createDirectory (tree : Tree) (place : List String) (mode : Nat) : Tree :=
  let tree := tree.put place .directory
  tree.withDetail place { tree.detail place with mode := some mode }

/-- The permissions of a new directory. -/
def directoryMode (tree : Tree) : Nat := 0o777 &&& (0o7777 - tree.mask)

/-- The permissions of the file at a place. -/
def modeOf (tree : Tree) (place : List String) (file : File) : Nat :=
  match file with
  | .ordinary _ mode => mode
  | .link _ => 0o777
  | file => (tree.detail place).mode.getD file.usualMode

/-- The tree with other permissions of the file at a place. -/
def setMode (tree : Tree) (place : List String) (mode : Nat) : Tree :=
  match tree.at? place with
  | some (.ordinary text _) => tree.exchange place (.ordinary text mode)
  | _ => tree.withDetail place { tree.detail place with mode := some mode }

/-- Groups of places with at least two of them. -/
def severalPlaces (places : List (List (List String))) : List (List (List String)) :=
  places.filter fun group => group.length > 1

/-- The tree without the file at a place and all that is below it. -/
def remove (tree : Tree) (place : List String) : Tree :=
  { tree with
    files := tree.files.filter fun f => !place.isPrefixOf f.1
    details := tree.details.filter fun d => !place.isPrefixOf d.1
    twins := severalPlaces (tree.twins.map fun group => group.filter fun p => !place.isPrefixOf p) }

/-- The tree with what is at a place and below it moved to another place. -/
def move (tree : Tree) (source target : List String) : Tree :=
  let tree := tree.remove target
  let moved (place : List String) : List String :=
    if source.isPrefixOf place then target ++ place.drop source.length else place
  { tree with
    files := tree.files.map fun f => (moved f.1, f.2)
    details := tree.details.map fun d => (moved d.1, d.2)
    twins := tree.twins.map fun group => group.map moved }

/-- The tree with the file at a place standing at another place too. -/
def join (tree : Tree) (place other : List String) : Tree :=
  match tree.at? place with
  | none => tree
  | some file =>
    let detail := tree.detail place
    let group := tree.twinsOf place
    let tree := tree.remove other
    { tree with
      files := (other, file) :: tree.files
      details := (other, detail) :: tree.details
      twins := (other :: group) :: tree.twins.filter fun g => !g.contains place }

/-- The longest name of a file. -/
def longestName : Nat := 255

/-- One more than the length of the longest path. -/
def pathBound : Nat := 4096

/-- How many links a path may lead through. -/
def mostLinks : Nat := 40

/-- A spot at the end of a path: the place, and what stands there if anything does. -/
structure Spot where
  place : List String
  file : Option File
  deriving Repr

/-- The path of a place. -/
def pathOf (place : List String) : String := "/" ++ "/".intercalate place

/-- Follows names from a place, through at most `links` links. Each name but the last has to lead
to a directory; at the last there may be nothing. A link at the last name is followed only if
`follows`. -/
def walk (tree : Tree) (follows : Bool) (links : Nat) (place names : List String) :
    Except SystemError Spot :=
  match names with
  | [] => .ok ⟨place, tree.at? place⟩
  | name :: names =>
    match tree.at? place with
    | none => .error .notFound
    | some .directory =>
      if name == "" || name == "." then walk tree follows links place names
      else if name == ".." then walk tree follows links place.dropLast names
      else if name.length > longestName then .error .nameTooLong
      else
        match tree.at? (place ++ [name]) with
        | some (.link path) =>
          if names.isEmpty && !follows then .ok ⟨place ++ [name], some (.link path)⟩
          else
            match links with
            | 0 => .error .tooManyLinks
            | links + 1 =>
              walk tree follows links (if path.startsWith "/" then [] else place)
                (path.splitOn "/" ++ names)
        | _ => walk tree follows links (place ++ [name]) names
    | some _ => .error .notADirectory
termination_by (links, names.length)

/-- The spot that a path leads to from a place, which may be empty. A link at the end of the path is
followed only if `follows`. -/
def spotOf (tree : Tree) (follows : Bool) (place : List String) (path : String) :
    Except SystemError Spot :=
  if path.isEmpty || path.contains '\x00' then .error .notFound
  else if path.length ≥ pathBound then .error .nameTooLong
  else tree.walk follows mostLinks (if path.startsWith "/" then [] else place) (path.splitOn "/")

/-- The spot that a path leads to through all links. -/
def spot (tree : Tree) (place : List String) (path : String) : Except SystemError Spot :=
  tree.spotOf true place path

/-- What a spot holds, which may not be empty. -/
def Spot.occupied (spot : Spot) : Except SystemError (List String × File) :=
  match spot.file with
  | some file => .ok (spot.place, file)
  | none => .error .notFound

/-- The place and the file that a path leads to from a place. -/
def locate (tree : Tree) (place : List String) (path : String) :
    Except SystemError (List String × File) := (tree.spot place path).bind Spot.occupied

/-- The same where a link at the end of the path counts as a file. -/
def locateLink (tree : Tree) (place : List String) (path : String) :
    Except SystemError (List String × File) := (tree.spotOf false place path).bind Spot.occupied

/-- True of a path whose last name is a link. -/
def isLink (tree : Tree) (place : List String) (path : String) : Bool :=
  match tree.locateLink place path with
  | .ok (_, .link _) => true
  | _ => false

/-- True of a path that leads to a file with contents: neither a directory nor a device. -/
def isFile (tree : Tree) (place : List String) (path : String) : Bool :=
  match tree.locate place path with
  | .ok (_, .ordinary ..) => true
  | .ok (_, .program _) => true
  | .ok (_, .library) => true
  | _ => false

/-! ## Programs -/

/-- A program that can be started. -/
structure Executable where
  utility : Utility
  /-- Where it stands. -/
  place : List String
  /-- For a text that the program runs: the words that stand for the first one. -/
  lead : List String
  deriving Repr

/-- The words that a program is started with in place of the given ones. -/
def Executable.words (executable : Executable) (words : List String) : List String :=
  if executable.lead.isEmpty then words else executable.lead ++ words.drop 1

/-- True of permissions by which a file can be run. -/
def isRunnable (mode : Nat) : Bool := mode &&& 0o111 != 0

/-- The program and its argument that the first line of a text names, behind `#!`. -/
def interpreter? (text : String) : Option (String × List String) :=
  if text.startsWith "#!" then
    let line := (text.toList.drop 2).takeWhile (· != '\n')
    let isBlank (c : Char) : Bool := c == ' ' || c == '\t'
    let line := ((line.dropWhile isBlank).reverse.dropWhile isBlank).reverse
    let name := line.takeWhile (!isBlank ·)
    let argument := (line.drop name.length).dropWhile isBlank
    some (String.ofList name, if argument.isEmpty then [] else [String.ofList argument])
  else none

/-- How many texts may run one another. -/
def mostInterpreters : Nat := 5

/-- The program that a path leads to, through at most some texts that name another one. A text that
names none has no known format. -/
def executable (tree : Tree) (place : List String) : Nat → String → Except SystemError Executable
  | 0, _ => .error .tooManyLinks
  | n + 1, path =>
    match tree.locate place path with
    | .error error => .error error
    | .ok (spot, .program utility) => .ok ⟨utility, spot, []⟩
    | .ok (_, .ordinary text mode) =>
      if !isRunnable mode then .error .permissionDenied
      else
        match interpreter? text with
        | none => .error .badFormat
        | some (name, arguments) =>
          (tree.executable place n name).map fun found =>
            { found with lead := found.words [name] ++ arguments ++ [path] }
    | .ok _ => .error .permissionDenied

/-- The program that a path leads to. -/
def program (tree : Tree) (place : List String) (path : String) : Except SystemError Executable :=
  tree.executable place mostInterpreters path

/-- The path of the program that runs texts of no known format. -/
def shellPath : String := "/bin/sh"

/-- The program that a path leads to; a text of no known format is run by the shell. -/
def programOrScript (tree : Tree) (place : List String) (path : String) :
    Except SystemError Executable :=
  match tree.program place path with
  | .error .badFormat =>
    (tree.program place shellPath).map fun found => { found with lead := [shellPath, path] }
  | result => result

/-- Where programs are searched that are named without a slash, if nothing else is said. -/
def searchPath : String := "/usr/local/sbin:/usr/local/bin:/usr/sbin:/usr/bin:/sbin:/bin"

/-- A name inside a directory of a search path; an empty entry is the current directory. -/
def inside (directory name : String) : String :=
  if directory.isEmpty then name else directory ++ "/" ++ name

/-- The entries of a search path. An entry that has no room in a path counts as an empty one, and is
dropped if it is the last. -/
def entries (path : String) : List String :=
  let bound := min path.length (pathBound - 1) + 1
  let all := path.splitOn ":"
  let all := if (all.getLastD "").length ≥ bound then all.dropLast else all
  all.map fun entry => if entry.length ≥ bound then "" else entry

/-- Tries paths of a program one after the other. A path that leads nowhere or may not be used is
passed over, and any other refusal ends the search. If all are passed over, the last refusal is
returned, or that a path may not be used if that was one of them. -/
def searchAmong (start : String → Except SystemError Executable) (isDenied : Bool)
    (error : SystemError) : List String → Except SystemError Executable
  | [] => .error (if isDenied then .permissionDenied else error)
  | path :: paths =>
    match start path with
    | .ok executable => .ok executable
    | .error .permissionDenied => searchAmong start true .permissionDenied paths
    | .error refusal =>
      if refusal.isAbsence then searchAmong start isDenied refusal paths else .error refusal

/-- The program that a word names: the word itself if it holds a slash, else the first hit in the
search path. -/
def search (start : String → Except SystemError Executable) (path word : String) :
    Except SystemError Executable :=
  if word.contains '/' then start word
  else if word.isEmpty || word.contains '\x00' then .error .notFound
  else searchAmong start false .notFound ((entries path).map fun entry => inside entry word)

end Tree

end PointerTagging.Host
