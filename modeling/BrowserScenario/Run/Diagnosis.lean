import BrowserScenario.Files.Artifact
import BrowserScenario.Run.Browser

/-!
# Screenshots of failures

After a failure a picture of the whole page is saved among the results, named for the scenario and
for the time, and attached to the report if there is one. Nothing is saved when the page is closed.
-/

namespace BrowserScenario

open BrowserScenario.Files BrowserScenario.Time

variable {σ : Type}

/-- Where and when runs take place, and what they report to. -/
structure Setting where
  directory : List Char
  results : Option (List Char)
  now : Instant
  report : Option Report

/-- The type of a picture in a report. -/
def pictureType : String := "image/png"

/-- The picture of a failed scenario as an attachment. -/
def failureAttachment (id : String) (content : List UInt8) : Attachment :=
  ⟨String.ofList ("failure-".toList ++ safeName id.toList), content, pictureType⟩

/-- Hands an attachment to the report, if there is one. -/
def attachTo (report : Option Report) (attachment : Attachment) : Run σ Unit :=
  match report with
  | some report => Run.attach report attachment
  | none => pure ()

/-- Saves and reports a picture of the page, unless it is closed; gives the path of the picture. -/
def captureFailure (browser : Browser σ) (setting : Setting) (id : String) :
    Run σ (Option (List Char)) := do
  if ← Run.ask browser.isClosed then
    Run.tell (.notCaptured id)
    return none
  else
    let path := screenshotPath setting.directory id.toList setting.results setting.now
    Run.ensureDirectories (screenshotDirectory setting.directory setting.results)
    let content ← Run.screenshot browser path true
    Run.tell (.captured id path)
    attachTo setting.report (failureAttachment id content)
    return some path

end BrowserScenario
