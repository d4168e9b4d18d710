import BrowserScenario.Run.Browser
import BrowserScenario.Run.Diagnosis

/-!
# Attachments of test reports

A test report knows pictures of one media type by a type of its own; everything else is attached
under the media type that it was given.
-/

namespace BrowserScenario.Suite

/-- How a report classifies an attachment. -/
inductive ReportType
  | picture
  | other (mediaType : String)
deriving DecidableEq, Repr

/-- An attachment in a report. -/
structure Reported where
  name : String
  content : List UInt8
  type : ReportType
deriving DecidableEq, Repr

/-- The classification of a media type. -/
def ReportType.ofMediaType (mediaType : String) : ReportType :=
  if mediaType = pictureType then .picture else .other mediaType

/-- The name of a classification. -/
def ReportType.name : ReportType → String
  | .picture => "PNG"
  | .other mediaType => mediaType

/-- The media type that a report knows for a classification. -/
def ReportType.mediaType? : ReportType → Option String
  | .picture => some pictureType
  | .other _ => none

/-- An attachment of a run in a report. -/
def Reported.ofAttachment (attachment : Attachment) : Reported :=
  ⟨attachment.name, attachment.content, .ofMediaType attachment.mediaType⟩

/-- A report that takes every attachment. -/
def testReport : Report := fun _ => .ok ()

end BrowserScenario.Suite
