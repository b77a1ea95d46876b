import CueFront.Host.Kernel
import CueFront.Host.Shell.Interpreter
import CueFront.Host.Tool.Entries
import CueFront.Host.Tool.Lines
import CueFront.Host.Tool.Processes
import CueFront.Host.Tool.Search
import CueFront.Host.Tool.Values

/-!
# What is installed

The programs of the host by name, and the file tree they are found in.
-/

namespace CueFront

namespace Host

namespace Image

/-- The tools by name. -/
def tools : List (String × Tool) :=
  [("[", Tool.test), ("basename", Tool.basename), ("cat", Tool.cat), ("chmod", Tool.chmod),
    ("cp", Tool.cp), ("cut", Tool.cut), ("dd", Tool.dd), ("dirname", Tool.dirname),
    ("echo", Tool.echo), ("env", Tool.env), ("expr", Tool.expr), ("false", Tool.fail),
    ("fold", Tool.fold), ("grep", Tool.grep), ("head", Tool.head), ("id", Tool.identity),
    ("kill", Tool.kill), ("ln", Tool.ln), ("ls", Tool.ls), ("mkdir", Tool.mkdir),
    ("mv", Tool.mv), ("nl", Tool.nl), ("nohup", Tool.nohup), ("od", Tool.od),
    ("paste", Tool.paste), ("printenv", Tool.printenv), ("printf", Tool.printf),
    ("pwd", Tool.pwd), ("readlink", Tool.readlink), ("realpath", Tool.realpath),
    ("rev", Tool.rev), ("rm", Tool.rm), ("rmdir", Tool.rmdir), ("sed", Tool.sed),
    ("seq", Tool.seq), ("setsid", Tool.setsid), ("sleep", Tool.sleep), ("sort", Tool.sort),
    ("tac", Tool.tac), ("tail", Tool.tail), ("tee", Tool.tee), ("test", Tool.test),
    ("timeout", Tool.timeout), ("touch", Tool.touch), ("tr", Tool.tr), ("true", Tool.succeed),
    ("uname", Tool.uname), ("uniq", Tool.uniq), ("wc", Tool.wc), ("whoami", Tool.whoami),
    ("xargs", Tool.xargs), ("yes", Tool.yes)]

/-- The names of the shell. -/
def shellNames : List String := ["sh", "dash"]

/-- The code of a tool. -/
def codeOf (tool : Tool) (arguments environment : List Bytes) : Code :=
  let task := tool (arguments.headD []) arguments.tail environment
  task fun code => .exit code

/-- The programs of the host. -/
def load : Loader := fun name arguments environment =>
  if shellNames.any (utf8 · == name) then some (Shell.program arguments environment)
  else
    (tools.find? (utf8 ·.1 == name)).map fun (_, tool) => codeOf tool arguments environment

/-! ## The file tree -/

/-- The directories, parents first. -/
def directories : List String :=
  ["/dev", "/etc", "/home", "/proc", "/root", "/tmp", "/usr", "/usr/bin", "/usr/lib", "/var",
    "/var/tmp"]

/-- The links, with their targets. -/
def links : List (String × String) := [("/bin", "usr/bin"), ("/lib", "usr/lib")]

/-- The devices. -/
def devices : List (String × Device) :=
  [("/dev/null", .null), ("/dev/zero", .zero), ("/dev/full", .full)]

/-- The file tree of a host where nobody has done anything yet. -/
def store : Store :=
  let store := directories.foldl (fun (store : Store) path =>
    store.withFile [] (utf8 path) ⟨.directory [], 0o755⟩) Store.empty
  let store := links.foldl (fun (store : Store) (path, target) =>
    store.withFile [] (utf8 path) ⟨.link (utf8 target), 0o777⟩) store
  let store := devices.foldl (fun (store : Store) (path, kind) =>
    store.withFile [] (utf8 path) ⟨.device kind, 0o666⟩) store
  (shellNames ++ tools.map (·.1)).foldl (fun (store : Store) name =>
    store.withFile [] (utf8 "/usr/bin/" ++ utf8 name) ⟨.program (utf8 name), 0o755⟩) store

end Image

end Host

end CueFront
