import AnnotatedMake.Expansion
import AnnotatedMake.Shell.Script

namespace AnnotatedMake.Shell

/-- The file that a shell loads the completions of a command from, below the home directory. -/
def fileFor (shell : Shell) (command : String) : Path :=
  Path.ofString <| match shell with
    | bash => "~/.local/share/bash-completion/completions/" ++ command
    | zsh => "~/.zsh/completions/_" ++ command
    | fish => "~/.config/fish/completions/" ++ command ++ ".fish"

variable [Platform]

/-- The file for a command in the home directory that the environment tells. -/
def defaultPath (environment : Environment) (shell : Shell) (command : String) :
    Except Fault Path :=
  environment.expandHome (shell.fileFor command)

/-- The files for several commands; for zsh one file serves them all. -/
def defaultPaths (environment : Environment) (shell : Shell) (commands : List String) :
    Except Fault (List Path) :=
  match shell, commands with
  | zsh, [] => .error .noCommand
  | zsh, command :: _ => (zsh.defaultPath environment command).map fun path => [path]
  | _, _ => commands.mapM (shell.defaultPath environment)

/-- The file for a command in the shell of a name. -/
def defaultPathNamed (environment : Environment) (name command : String) : Except Fault Path :=
  match ofName? name with
  | some shell => shell.defaultPath environment command
  | none => .error (.unknownShell name)

/-- The files for several commands in the shell of a name, noticed with the first of them. -/
def defaultPathsNamed (environment : Environment) (name : String) (commands : List String) :
    Except Fault (List Path) :=
  match ofName? name with
  | some shell => shell.defaultPaths environment commands
  | none => commands.mapM fun _ => .error (.unknownShell name)

end AnnotatedMake.Shell
