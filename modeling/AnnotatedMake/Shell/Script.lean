import AnnotatedMake.Shell.Word

namespace AnnotatedMake

inductive Shell where
  | bash
  | zsh
  | fish
deriving DecidableEq, Repr

namespace Shell

def name : Shell → String
  | bash => "bash"
  | zsh => "zsh"
  | fish => "fish"

def all : List Shell := [bash, zsh, fish]

def ofName? (name : String) : Option Shell := all.find? fun shell => shell.name = name

/-- Lines with a line feed behind each. -/
def joinLines (lines : List String) : String := String.join (lines.map fun line => line ++ "\n")

/-- A list of commands for readers of a script. -/
def listed (commands : List String) : String := ", ".intercalate commands

/-- The script for bash. Every command is spelled as one word. -/
def bashScript (program : String) (commands : List String) : String := joinLines [
  "# Bash completion for " ++ listed commands,
  "# Generated by: makecomp compgen bash",
  "#",
  "# Installation:",
  "#   makecomp compgen bash default",
  "#   or source this file from ~/.bashrc (needs the bash-completion package)",
  "",
  "_makecomp_complete() \x7b",
  "    local cur prev words cword",
  "    _init_completion -n = || return",
  "",
  "    local IFS=$'\\n'",
  "    local -a candidates",
  "    candidates=($(" ++ wordOf program ++
    " complete --cword \"$cword\" -- \"$\x7bwords[@]\x7d\" 2>/dev/null))",
  "",
  "    # readline still breaks words on '=': only replace what follows it",
  "    if [[ \"$cur\" == *=* && \"$COMP_WORDBREAKS\" == *=* ]]; then",
  "        local prefix=\"$\x7bcur%=*\x7d=\"",
  "        candidates=(\"$\x7bcandidates[@]#\"$prefix\"\x7d\")",
  "    fi",
  "",
  "    COMPREPLY=(\"$\x7bcandidates[@]\x7d\")",
  "    return 0",
  "\x7d",
  "",
  "complete -o default -F _makecomp_complete " ++ " ".intercalate (commands.map wordOf)]

/-- The script for zsh, which reads the commands from the first line. -/
def zshScript (program : String) (commands : List String) : String := joinLines [
  "#compdef " ++ " ".intercalate commands,
  "# Zsh completion for " ++ listed commands,
  "# Generated by: makecomp compgen zsh",
  "#",
  "# Installation:",
  "#   makecomp compgen zsh default",
  "#   then add ~/.zsh/completions to fpath before compinit in ~/.zshrc",
  "",
  "_makecomp_complete() \x7b",
  "    local -a candidates",
  "    candidates=($\x7b(f)\"$(" ++ program ++
    " complete --cword $((CURRENT - 1)) -- \"$\x7bwords[@]\x7d\" 2>/dev/null)\"\x7d)",
  "    if (( $\x7b#candidates\x7d )); then",
  "        compadd -Q -- \"$\x7bcandidates[@]\x7d\"",
  "    else",
  "        _files",
  "    fi",
  "\x7d",
  "",
  "_makecomp_complete \"$@\""]

/-- The line that binds a command in the script for fish. -/
def fishBinding (command : String) : String :=
  "complete -c " ++ command ++ " -a '(__makecomp_complete)'"

/-- The script for fish, with one binding for each command. -/
def fishScript (program : String) (commands : List String) : String := joinLines ([
  "# Fish completion for " ++ listed commands,
  "# Generated by: makecomp compgen fish",
  "#",
  "# Installation:",
  "#   makecomp compgen fish default",
  "",
  "function __makecomp_complete",
  "    set -l tokens (commandline -opc)",
  "    set -l current (commandline -ct)",
  "    " ++ program ++ " complete --cword (count $tokens) -- $tokens $current 2>/dev/null",
  "end",
  ""] ++ commands.map fishBinding)

/-- The name under which scripts call this program. -/
def programName : String := "makecomp"

/-- The script that completes commands in a shell. -/
def script (shell : Shell) (program : String) (commands : List String) : String :=
  match shell with
  | bash => bashScript program commands
  | zsh => zshScript program commands
  | fish => fishScript program commands

end Shell

end AnnotatedMake
