import FieldGuard.Console.Arguments

/-! Scripts that complete the subcommands of the program in a shell. -/
namespace FieldGuard

/-- The words that can follow the program's name. -/
def subcommandWords : String :=
  " ".intercalate (Arguments.Level.program.below.map (·.name))

/-- A short script: only subcommands are completed. -/
def Shell.completionScript : Shell → String
  | .bash => "complete -W \"" ++ subcommandWords ++ "\" editcond\n"
  | .zsh => "#compdef editcond\n_arguments \"1: :(" ++ subcommandWords ++ ")\"\n"
  | .fish => "complete -c editcond -f -n __fish_use_subcommand -a \"" ++ subcommandWords ++ "\"\n"

end FieldGuard
