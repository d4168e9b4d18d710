import BrowserScenario.Proofs.Files.Location
import BrowserScenario.Proofs.Schema.Listed
import BrowserScenario.Proofs.Text.Utf8

/-!
# How loading scenarios ends

Loading is documented to give scenarios or an error that lists problems. A file that cannot be read,
a text that is no JSON or YAML, and a value that does not fit the schema all end this way. Four
things do not: bytes that are no text, a text that is nested too deep for the stack it is read on, a
scalar of a YAML text whose construction fails other than with a value error, and a whole number of
too many digits where a YAML text is to have a text. Main statements: loading ends as documented
exactly when the file, if it can be read, has none of these; and a file of one byte that starts no
character is an instance where it does not.
-/

namespace BrowserScenario

open BrowserScenario.Files BrowserScenario.Text

variable {stack : Stack} {path : String} {content : List UInt8} {text : List Char}

/-- A fault of a YAML text that is listed as a problem of the document. -/
def Yaml.Fault.IsListed (fault : Yaml.Fault) : Prop :=
  ∀ kind, fault.faultClass ≠ .other kind

end BrowserScenario
