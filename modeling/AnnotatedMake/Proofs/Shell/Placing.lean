import AnnotatedMake.Proofs.Expansion
import AnnotatedMake.Setting.Schema
import AnnotatedMake.Shell.ScriptFile
import Mathlib.Data.List.Nodup

namespace AnnotatedMake

namespace Path

/-- A file lies in a directory under a name, and the name does not lead up. -/
def IsEntry (directory : Path) (name : String) (file : Path) : Prop :=
  name ≠ ".." ∧ file = ⟨directory.anchor, directory.parts ++ [name]⟩

end Path

namespace Shell

variable {environment : Environment} {shell : Shell} {home : Path} {command : String}

/-- The names from the home directory to the directory in which a shell looks for completions. -/
def folders : Shell → List String
  | bash => [".local", "share", "bash-completion", "completions"]
  | zsh => [".zsh", "completions"]
  | fish => [".config", "fish", "completions"]

/-- The name under which a shell looks for the completions of a command. -/
def fileName (shell : Shell) (command : String) : String :=
  match shell with
  | bash => command
  | zsh => "_" ++ command
  | fish => command ++ ".fish"

/-- The directory in which a shell looks for completions. -/
def directoryIn (shell : Shell) (home : Path) : Path :=
  ⟨home.anchor, home.parts ++ shell.folders⟩

/-- The names from that directory to the file of a command. -/
def namesFor (shell : Shell) (command : String) : List String :=
  Path.partsOf (shell.fileName command)

/-- The file of a command below a home directory. -/
def fileIn (shell : Shell) (home : Path) (command : String) : Path :=
  ⟨home.anchor, home.parts ++ shell.folders ++ shell.namesFor command⟩

/-- A command has no slash and, where nothing is added, is neither empty nor a dot or two. -/
def CanName (shell : Shell) (command : String) : Prop :=
  '/' ∉ command.toList ∧ (shell = bash → command ≠ "" ∧ command ≠ "." ∧ command ≠ "..")

/-- A command can name its file exactly when what is looked for is one name. -/
theorem isOneName_fileName_iff : IsOneName (shell.fileName command) ↔ shell.CanName command := by
  rw [isOneName_iff, CanName]
  cases shell with
  | bash => simp [fileName]
  | zsh =>
      have differs {name : String} (first : name.toList.head? ≠ some '_') :
          "_" ++ command ≠ name := by
        rintro rfl
        simp at first
      have empty : "_" ++ command ≠ "" := differs (by decide)
      have dot : "_" ++ command ≠ "." := differs (by decide)
      have up : "_" ++ command ≠ ".." := differs (by decide)
      simp [fileName, empty, dot, up]
  | fish =>
      have long : 5 ≤ (command ++ ".fish").toList.length := by
        rw [String.toList_append, List.length_append]
        exact Nat.le_add_left 5 _
      have differs {name : String} (short : name.toList.length < 5) :
          command ++ ".fish" ≠ name := by
        rintro rfl
        exact absurd long (Nat.not_le.2 short)
      have empty : command ++ ".fish" ≠ "" := differs (by decide)
      have dot : command ++ ".fish" ≠ "." := differs (by decide)
      have up : command ++ ".fish" ≠ ".." := differs (by decide)
      simp [fileName, empty, dot, up]

theorem namesFor_of_canName (can : shell.CanName command) :
    shell.namesFor command = [shell.fileName command] :=
  Path.partsOf_of_oneName (isOneName_fileName_iff.2 can)

theorem fileName_injective (shell : Shell) : Function.Injective shell.fileName := by
  intro first second same
  cases shell with
  | bash => exact same
  | zsh => exact (String.append_right_inj "_").1 same
  | fish => exact (String.append_left_inj ".fish").1 same

/-- A file below the home directory is the directory of the shell with the names of the file. -/
theorem fileFor_eq (shell : Shell) (command : String) :
    shell.fileFor command =
      ⟨.relative, "~" :: (shell.folders ++ shell.namesFor command)⟩ := by
  have below (lead : String) (tilde : lead.toList.head? = some '~') (name : String) :
      Path.ofString (lead ++ "/" ++ name) =
        ⟨.relative, Path.partsOf lead ++ Path.partsOf name⟩ := by
    obtain ⟨rest, cut⟩ := List.head?_eq_some_iff.1 tilde
    have anchor : Path.anchorOf (lead ++ "/" ++ name).toList = .relative := by
      rw [String.toList_append, String.toList_append, cut]
      rfl
    rw [Path.ofString, anchor, Path.partsOf_append_slash]
  cases shell with
  | bash => exact below "~/.local/share/bash-completion/completions" rfl command
  | zsh =>
      have whole : "~/.zsh/completions/_" ++ command =
          "~/.zsh/completions" ++ "/" ++ ("_" ++ command) := by
        rw [← String.append_assoc]
        rfl
      rw [fileFor, whole]
      exact below "~/.zsh/completions" rfl ("_" ++ command)
  | fish =>
      have whole : "~/.config/fish/completions/" ++ command ++ ".fish" =
          "~/.config/fish/completions" ++ "/" ++ (command ++ ".fish") := by
        rw [← String.append_assoc]
        rfl
      rw [fileFor, whole]
      exact below "~/.config/fish/completions" rfl (command ++ ".fish")

variable [Platform]

/-- The file for a command lies below the home directory, when there is one. -/
theorem defaultPath_eq (environment : Environment) (shell : Shell) (command : String) :
    shell.defaultPath environment command =
      environment.home.map fun home => shell.fileIn home command := by
  have tilde : Path.ofString "~" = ⟨.relative, ["~"]⟩ := rfl
  have starts : startsText "~" "~" = true := rfl
  rw [defaultPath, fileFor_eq, Environment.home, tilde, Environment.expandHome,
    Environment.expandHome]
  simp only [starts, if_true]
  cases environment.homeOf "~" with
  | error fault => rfl
  | ok home => simp [Except.map, fileIn]

/-- A shell with a file for each command has the files of several commands in their order. -/
theorem defaultPaths_eq (each : shell ≠ .zsh) (commands : List String) :
    shell.defaultPaths environment commands =
      commands.mapM fun command => environment.home.map fun home => shell.fileIn home command := by
  have path : shell.defaultPath environment =
      fun command => environment.home.map fun home => shell.fileIn home command :=
    funext (defaultPath_eq environment shell)
  cases shell with
  | zsh => exact absurd rfl each
  | bash | fish => rw [defaultPaths.eq_def, path]

theorem defaultPaths_of_home (each : shell ≠ .zsh) (known : environment.home = .ok home)
    (commands : List String) :
    shell.defaultPaths environment commands = .ok (commands.map (shell.fileIn home)) := by
  rw [defaultPaths_eq each, known]
  exact List.mapM_pure

theorem defaultPaths_of_homeless {fault : Fault} (each : shell ≠ .zsh)
    (unknown : environment.home = .error fault) {commands : List String} (some : commands ≠ []) :
    shell.defaultPaths environment commands = .error fault := by
  obtain ⟨first, rest, rfl⟩ := List.exists_cons_of_ne_nil some
  rw [defaultPaths_eq each, unknown, List.mapM_cons]
  rfl

omit [Platform] in
/-- The file of a command is found under its name exactly when the command can name it. -/
theorem isEntry_fileIn_iff :
    Path.IsEntry (shell.directoryIn home) (shell.fileName command) (shell.fileIn home command) ↔
      shell.CanName command := by
  have single : shell.fileIn home command = ⟨(shell.directoryIn home).anchor,
      (shell.directoryIn home).parts ++ [shell.fileName command]⟩ ↔
        shell.namesFor command = [shell.fileName command] := by
    simp [fileIn, directoryIn]
  rw [Path.IsEntry, single, and_comm, namesFor, Path.partsOf_eq_singleton_iff,
    isOneName_fileName_iff]

/-- Commands share a file exactly when the names in them are the same. -/
theorem text_fileIn_eq_iff (known : environment.home = .ok home) {first second : String} :
    (shell.fileIn home first).text = (shell.fileIn home second).text ↔
      shell.namesFor first = shell.namesFor second := by
  have plain (command : String) : ∀ part ∈ (shell.fileIn home command).parts,
      '/' ∉ part.toList ∧ FileSystem.isHere part = false := by
    have found : environment.expandHome (shell.fileFor command) =
        .ok (shell.fileIn home command) := by
      rw [← defaultPath, defaultPath_eq, known]
      rfl
    rw [fileFor.eq_def] at found
    exact Environment.parts_of_expandHome found
  constructor
  · intro same
    have read := congrArg Path.ofString same
    rw [Path.ofString_text_of_parts (plain first),
      Path.ofString_text_of_parts (plain second)] at read
    exact List.append_cancel_left (congrArg Path.parts read)
  · intro same
    rw [fileIn, fileIn, same]

/-- The files of several commands are distinct exactly when the names in the commands are. -/
theorem nodup_files_iff (shell : Shell) (known : environment.home = .ok home)
    (commands : List String) :
    ((commands.map (shell.fileIn home)).map Path.text).Nodup ↔
      (commands.map shell.namesFor).Nodup := by
  rw [List.map_map, List.Nodup, List.Nodup, List.pairwise_map, List.pairwise_map]
  exact List.Pairwise.iff fun _ _ => not_congr (text_fileIn_eq_iff known)

omit [Platform] in
theorem nodup_namesFor {commands : List String} (distinct : commands.Nodup)
    (can : ∀ command ∈ commands, shell.CanName command) : (commands.map shell.namesFor).Nodup := by
  have single : commands.map shell.namesFor =
      commands.map fun command => [shell.fileName command] :=
    List.map_congr_left fun command member => namesFor_of_canName (can command member)
  rw [single]
  apply distinct.map
  intro first second same
  exact shell.fileName_injective (List.singleton_inj.1 same)

omit [Platform] in
/-- Any list of commands is taken for the commands of scripts. -/
theorem accepts_commands (cacheDirectory : String) (commands : List String) :
    ((Schema.standard cacheDirectory).field? "commands").any
      (fun field => field.accepts (Schema.texts commands)) = true := by
  have texts : (commands.map Value.text).all Value.isText = true := by
    rw [List.all_map]
    exact List.all_eq_true.2 fun _ _ => rfl
  simp [Schema.field?, Schema.standard, Field.accepts, Shape.accepts, Schema.texts, texts]

/-- Each command has a file of its own name, and files are shared only by commands read alike. -/
theorem defaultPaths_placed (environment : Environment) (each : shell ≠ .zsh)
    (commands : List String) :
    (∀ cacheDirectory, ((Schema.standard cacheDirectory).field? "commands").any
      (fun field => field.accepts (Schema.texts commands)) = true) ∧
    (∀ fault, environment.home = .error fault → commands ≠ [] →
      shell.defaultPaths environment commands = .error fault) ∧
    ∀ home, environment.home = .ok home →
      ∃ files, shell.defaultPaths environment commands = .ok files ∧
        files = commands.map (shell.fileIn home) ∧
        (∀ command, Path.IsEntry (shell.directoryIn home) (shell.fileName command)
          (shell.fileIn home command) ↔ shell.CanName command) ∧
        ((files.map Path.text).Nodup ↔ (commands.map shell.namesFor).Nodup) ∧
        (commands.Nodup → (∀ command ∈ commands, shell.CanName command) →
          (files.map Path.text).Nodup) := by
  refine ⟨fun cacheDirectory => accepts_commands cacheDirectory commands,
    fun _ unknown => defaultPaths_of_homeless each unknown, fun home known => ?_⟩
  have shared := nodup_files_iff shell known commands
  refine ⟨commands.map (shell.fileIn home), defaultPaths_of_home each known commands, rfl,
    fun _ => isEntry_fileIn_iff, shared, fun distinct can => ?_⟩
  exact shared.2 (nodup_namesFor distinct can)

end Shell

end AnnotatedMake

namespace AnnotatedMake.Shell

/-- Two commands that differ in a dot and a slash share the file of the shorter one. -/
theorem defaultPaths_placed_shared :
    Shell.bash ≠ .zsh ∧ ["make", "./make"].Nodup ∧
    ∃ files, Shell.bash.defaultPaths (OrderedMap.empty.insert "HOME" "/home") ["make", "./make"] =
        .ok files ∧ ¬ (files.map Path.text).Nodup := by
  have each : Shell.bash ≠ .zsh := by decide
  obtain ⟨_, _, placed⟩ := defaultPaths_placed (OrderedMap.empty.insert "HOME" "/home") each
    ["make", "./make"]
  obtain ⟨files, found, _, _, shared, _⟩ := placed ⟨.root, ["home"]⟩ rfl
  have sameNames : ¬ (["make", "./make"].map Shell.bash.namesFor).Nodup := by decide
  exact ⟨each, by decide, files, found, mt shared.1 sameNames⟩

end AnnotatedMake.Shell
