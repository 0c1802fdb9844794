import Fleet.Files.Entry

/-!
# Files of every host

What is found on every host below the root: the usual directories, the devices that stand for
nothing or for an endless stream, a few files of the system, and the programs that need no
installation.
-/

namespace Fleet.Files.Host

/-- The directories, by their names from the root. -/
def directories : List (List String) :=
  [["bin"], ["boot"], ["dev"], ["etc"], ["home"], ["lib"], ["media"], ["mnt"], ["opt"], ["proc"],
    ["root"], ["run"], ["sbin"], ["srv"], ["sys"], ["tmp"], ["usr"], ["var"], ["dev", "pts"],
    ["dev", "shm"], ["usr", "bin"], ["usr", "include"], ["usr", "lib"], ["usr", "local"],
    ["usr", "sbin"], ["usr", "share"], ["usr", "local", "bin"], ["usr", "local", "lib"],
    ["var", "lib"], ["var", "log"], ["var", "tmp"]]

/-- The devices. -/
def devices : List (List String) :=
  [["dev", "null"], ["dev", "zero"], ["dev", "full"], ["dev", "random"], ["dev", "urandom"],
    ["dev", "tty"]]

/-- The files of the system, with a first line each. -/
def systemFiles : List (List String × String) :=
  [(["etc", "passwd"], "root:x:0:0:root:/root:/bin/bash\n"), (["etc", "group"], "root:x:0:\n"),
    (["etc", "shadow"], "root:*:19000:0:99999:7:::\n"),
    (["etc", "hosts"], "127.0.0.1\tlocalhost\n"), (["etc", "hostname"], "localhost\n")]

/-- The directories in which programs are found. -/
def programDirectories : List (List String) := [["bin"], ["usr", "bin"]]

/-- The programs. -/
def programs : List String := ["true", "false", "echo", "printf", "cat", "sh"]

/-- Everything that is found below the root. -/
def listing : Listing :=
  directories.map (·, .directory) ++ devices.map (·, .device) ++
    systemFiles.map (fun (names, text) => (names, .file text.toUTF8)) ++
    programDirectories.flatMap fun directory =>
      programs.map fun program => (directory ++ [program], .file ByteArray.empty)

/-- The program that names from the root lead to. -/
def programAt (names : List String) : Option String :=
  if programDirectories.contains names.dropLast then names.getLast?.filter programs.contains
  else none

end Fleet.Files.Host
