import GatewayDesk.CommandLine.Command

/-!
# Scripts that let shells complete commands
-/

namespace GatewayDesk

namespace CommandLine

/-- The names of the commands below a form. -/
def Form.childNames (form : Form) : String :=
  " ".intercalate (form.children.map Form.name)

/-- The script that lets a shell complete the name of a command. -/
def Shell.script (shell : Shell) (form : Form) : String :=
  let name := form.name
  let names := form.childNames
  match shell with
  | .bash => s!"complete -W '{names}' {name}\n"
  | .elvish =>
    s!"set edit:completion:arg-completer[{name}] = \x7b|@words| put {names} \x7d\n"
  | .fish => s!"complete -c {name} -n __fish_use_subcommand -f -a '{names}'\n"
  | .powershell =>
    let start := s!"Register-ArgumentCompleter -Native -CommandName {name} -ScriptBlock "
    start ++ s!"\x7b param($word) -split '{names}' -like ($word + '*') \x7d\n"
  | .zsh => s!"#compdef {name}\n_arguments '1:command:({names})'\n"

end CommandLine

end GatewayDesk
