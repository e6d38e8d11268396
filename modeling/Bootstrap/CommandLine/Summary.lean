import Bootstrap.Archive.Package
import Bootstrap.CommandLine.Console
import Bootstrap.Pipeline.Report
import Bootstrap.Report.Size

/-!
# Summaries of reports

What a person is shown of a report, line by line.  Digests are abbreviated and
sizes rounded; the whole report is given as data only.
-/

namespace Bootstrap

/-- The label of a self-test. -/
def SelfTestMode.label : SelfTestMode → String
  | .source => "Self-test (source)"
  | .prebuilt => "Self-test (prebuilt)"

namespace CommandLine

/-- A line below a headline. -/
inductive Item where
  | stat (label value : String)
  | info (text : String)
  | elapsed (label : String)
  deriving DecidableEq, Repr

namespace Item

/-- The line on a console. -/
def onConsole (c : Console) : Item → Note
  | stat label value => c.stat label value
  | info text => c.status .info text
  | elapsed label => c.elapsed label

end Item

namespace Summary

/-- An artifact and the digest it had. -/
def artifact (a : ArtifactDigest) : String := a.path.text ++ " (" ++ a.digest.short ++ ")"

/-- A fixpoint. -/
def fixpoint (r : FixpointReport) : List Item :=
  [.stat "Stage 1" (artifact r.first), .stat "Stage 2" (artifact r.second),
    .stat "Stage 3" (artifact r.third),
    .stat "Stage 1 vs 2" (if r.firstMatchesSecond then "identical" else "different (allowed)"),
    .stat "Promoted" r.promoted.text]

/-- A self-test. -/
def selfTest (r : SelfTestReport) : Item :=
  .stat r.mode.label (toString r.passed.length ++ " passed (" ++ ", ".intercalate r.passed ++ ")")

/-- An archive. -/
def archive (r : ArchiveReport) : Item :=
  .stat "Archive" (r.path.text ++ " (" ++ toString r.entries ++ " entries, " ++
    Report.sizeText r.bytes ++ ")")

/-- A bootstrap and its archive, if one was written. -/
def bootstrap (r : BootstrapReport) (packed : Option ArchiveReport) : List Item :=
  [.stat "Toolchain" r.toolchain.text, .stat "Prelude" r.prelude.text] ++
    r.selfTests.map selfTest ++ fixpoint r.fixpoint ++
    r.auxiliaries.map (fun p => .stat "Auxiliary" p.text) ++
    [match packed with
      | some packed => archive packed
      | none => .info "Archive skipped",
    .elapsed "Duration"]

end Summary

end CommandLine

end Bootstrap
