import Bootstrap.Shell.Start
import Bootstrap.Utility.Attribute
import Bootstrap.Utility.Block
import Bootstrap.Utility.Column
import Bootstrap.Utility.Compare
import Bootstrap.Utility.Count
import Bootstrap.Utility.Directory
import Bootstrap.Utility.Editor.Run
import Bootstrap.Utility.Encode
import Bootstrap.Utility.Find.Walk
import Bootstrap.Utility.Link
import Bootstrap.Utility.Listing
import Bootstrap.Utility.Number
import Bootstrap.Utility.Order
import Bootstrap.Utility.Question
import Bootstrap.Utility.Remove
import Bootstrap.Utility.Say
import Bootstrap.Utility.Search
import Bootstrap.Utility.Start
import Bootstrap.Utility.Stream
import Bootstrap.Utility.Transfer
import Bootstrap.Utility.Translate

/-!
# The utilities by name
-/

namespace Bootstrap.Utility

open Machine

/-- Utilities that start no programs.  They get the words behind their name. -/
def plain : List (String × (List Raw → Step Nat)) :=
  [("true", succeed), ("false", refuse), ("echo", echo), ("printf", printf), ("yes", yes),
    ("sleep", sleep), ("pwd", pwd), ("printenv", printenv), ("whoami", whoami), ("id", id),
    ("uname", uname), ("tty", tty), ("nproc", nproc),
    ("cat", cat), ("tee", tee), ("head", head), ("tail", tail), ("tac", tac), ("rev", rev),
    ("wc", wc), ("nl", nl), ("cksum", cksum),
    ("sha256sum", DigestKind.sha256.run), ("sha1sum", DigestKind.sha1.run),
    ("md5sum", DigestKind.md5.run),
    ("sort", sort), ("uniq", uniq), ("comm", comm), ("join", join),
    ("cut", cut), ("paste", paste), ("fold", fold), ("expand", expand), ("tr", tr),
    ("seq", seq), ("expr", expr), ("od", od), ("base64", base64),
    ("mkdir", mkdir), ("rmdir", rmdir), ("mkfifo", mkfifo), ("mktemp", mktemp),
    ("rm", rm), ("unlink", unlink), ("cp", cp), ("mv", mv), ("install", install),
    ("ln", ln), ("link", link), ("readlink", readlink), ("realpath", realpath),
    ("basename", basename), ("dirname", dirname),
    ("touch", touch), ("date", date), ("chmod", chmod), ("truncate", truncate), ("stat", stat),
    ("ls", ls), ("cmp", cmp), ("diff", diff),
    ("grep", grep), ("egrep", egrep), ("fgrep", fgrep), ("sed", sed),
    ("test", Question.answer), ("[", Question.bracketed), ("dd", Block.copy), ("which", which),
    ("sync", succeed)]

/-- Utilities that start programs: they get the launcher, and all words. -/
def starting : List (String × (Launcher → List Raw → Step Nat)) :=
  [("sh", Shell.start), ("dash", Shell.start), ("bash", Shell.start), ("env", env), ("nohup", nohup), ("nice", nice),
    ("setsid", plainly), ("stdbuf", plainly), ("timeout", timeout), ("xargs", xargs),
    ("find", Find.find)]

/-- The names of all utilities. -/
def names : List String := starting.map (·.1) ++ plain.map (·.1)

/-- The status of a utility that cannot write its output. -/
def writeFailure (name : String) : Nat :=
  if ["ls", "sort", "grep", "egrep", "fgrep", "cmp", "diff", "printenv"].contains name then 2
  else if ["expr", "tty"].contains name then 3
  else 1

/-- Runs the utility of a program; `depth` bounds how deep programs may start each other. -/
def launch : (depth : Nat) → Launcher
  | 0, _ => throw .starved
  | depth + 1, program => do
      let name := program.utility
      match plain.lookup name with
      | some work => runPlain (writeFailure name) (work program.words.tail)
      | none =>
          match starting.lookup name with
          | some work => work (launch depth) program.words
          | none => return 127

end Bootstrap.Utility
