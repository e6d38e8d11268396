import Bootstrap.Shell.State
import Bootstrap.Text.Formatted

/-!
# Printing

The builtin commands that print their arguments, as they are or in a format.
-/

namespace Bootstrap.Shell.Builtin

/-- Prints arguments with blanks between them.  An escape may say that nothing follows, not even the
end of the line. -/
def echo (arguments : List Raw) : Act Nat := do
  let (ends, arguments) := match arguments with
    | ['-', 'n'] :: rest => (false, rest)
    | rest => (true, rest)
  let text := Raw.spaced arguments
  let printed := Formatted.escapes false (text.length + 1) text []
  Act.print (printed.latest.reverse ++ (if ends && !printed.stopped then ['\n'] else []))
  return 0

/-- How the shell prints formats. -/
def dialect : Formatted.Dialect :=
  { hexadecimal := false
    quotes := false
    zeroByte := true
    complaint := fun
      | .noNumber a => a ++ raw ": expected numeric value"
      | .rest a _ => a ++ raw ": not completely converted"
      | .range a => a ++ raw ": Numerical result out of range"
    invalid := fun text => text ++ raw ": invalid directive"
    unfinished := raw "missing format character" }

/-- Prints arguments in a format. -/
def printf (arguments : List Raw) : Act Nat := do
  let (_, operands) ← Act.letters "" arguments
  match operands with
  | [] => Act.fail (raw "usage: printf format [arg ...]")
  | format :: rest =>
      let use := Formatted.print dialect format rest
      for c in use.complaints do
        Act.warn (dialect.complaint c)
      Act.print use.text
      match use.fault with
      | some message => Act.fail message
      | none => return if use.complaints.isEmpty then 0 else 1

end Bootstrap.Shell.Builtin
