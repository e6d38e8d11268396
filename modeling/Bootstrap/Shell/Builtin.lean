import Bootstrap.Shell.Builtin.Control
import Bootstrap.Shell.Builtin.Name
import Bootstrap.Shell.Builtin.Output
import Bootstrap.Shell.Builtin.Place
import Bootstrap.Shell.Builtin.Signals
import Bootstrap.Shell.Builtin.Variable
import Bootstrap.Shell.Condition

/-!
# Builtin commands

The commands that the shell carries out itself.  Three of them run other commands;
these are only named here.
-/

namespace Bootstrap.Shell

/-- A builtin command. -/
inductive Builtin where
  | plain (run : List Raw → Act Nat)
  /-- Its arguments are a script. -/
  | script
  /-- Its argument names a file that holds a script. -/
  | file
  /-- Its arguments are a program that takes the place of the shell. -/
  | program

namespace Builtin

/-- The builtin commands that run no other commands. -/
def table : List (String × (List Raw → Act Nat)) :=
  [(":", succeed), ("break", leave false), ("continue", leave true), ("exit", exit),
    ("export", exports), ("readonly", protects), ("local", locals), ("return", «return»),
    ("set", set), ("shift", shift), ("times", times), ("trap", trap), ("unset", unset),
    ("alias", aliases), ("[", Condition.test true), ("bg", refuse), ("cd", cd), ("chdir", cd),
    ("command", command), ("echo", echo), ("false", refuse), ("fg", refuse), ("getopts", getopts),
    ("hash", hash), ("jobs", jobs), ("kill", kill), ("printf", printf), ("pwd", pwd),
    ("read", read), ("test", Condition.test false), ("true", succeed), ("type", type),
    ("ulimit", ulimit), ("umask", umask), ("unalias", unalias), ("wait", wait)]

/-- The builtin command with a name, and its kind. -/
def ofName? (name : Raw) : Option (Builtin × Kind) := do
  let kind ← kindOf? name
  if name = raw "eval" then return (.script, kind)
  else if name = raw "." then return (.file, kind)
  else if name = raw "exec" then return (.program, kind)
  else
    let (_, run) ← table.find? fun b => raw b.1 = name
    return (.plain run, kind)

end Builtin

end Bootstrap.Shell
