import Fleet.Text.ShellWord

/-!
# Remote commands of a script run

A script is carried to a node inside the command that writes it there: the lines between the first
line and a line that holds only the delimiter are the contents of the file. A second command runs
the file, removes it and ends with the script's own status.
-/

namespace Fleet.ScriptCommand

/-- The path of a script on a node, from a fresh token. -/
def path (token : String) : String :=
  "/tmp/cumulus-" ++ token ++ ".sh"

/-- The line that ends a script, from a fresh token. -/
def delimiter (token : String) : String :=
  "CUMULUS_EOF_" ++ token

/-- A script without its last line end. -/
def body (script : List Char) : List Char :=
  if script.getLast? = some '\n' then script.dropLast else script

/-- The command that writes a script to a path and makes it executable. -/
def upload (delimiter path script : String) : String :=
  let word := Text.shellWord path
  let text := String.ofList (body script.toList)
  s!"cat > {word} <<'{delimiter}'\n{text}\n{delimiter}\nchmod 0755 {word}"

/-- The command that runs the script at a path, removes it, and ends with its status. -/
def run (path : String) : String :=
  let word := Text.shellWord path
  s!"/bin/sh {word}; status=$?; rm -f {word}; exit $status"

end Fleet.ScriptCommand
