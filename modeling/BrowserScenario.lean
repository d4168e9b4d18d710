import BrowserScenario.Command.Launch
import BrowserScenario.Command.Options
import BrowserScenario.Command.Usage
import BrowserScenario.Data.Basic
import BrowserScenario.Data.Checked
import BrowserScenario.Data.Display
import BrowserScenario.Files.Artifact
import BrowserScenario.Files.Path
import BrowserScenario.Files.Tree
import BrowserScenario.Json.Error
import BrowserScenario.Json.Reader
import BrowserScenario.Log.Entry
import BrowserScenario.Main
import BrowserScenario.Number.Binary64
import BrowserScenario.Number.Reading
import BrowserScenario.Number.Shortest
import BrowserScenario.Page.Browser
import BrowserScenario.Page.Call
import BrowserScenario.Pattern.Basic
import BrowserScenario.Pattern.Character
import BrowserScenario.Pattern.Fault
import BrowserScenario.Pattern.Matcher
import BrowserScenario.Pattern.Reader
import BrowserScenario.Rehearsal.Browser
import BrowserScenario.Rehearsal.Page
import BrowserScenario.Rehearsal.Script
import BrowserScenario.Run.Browser
import BrowserScenario.Run.Call
import BrowserScenario.Run.Diagnosis
import BrowserScenario.Run.Event
import BrowserScenario.Run.Expectation
import BrowserScenario.Run.Failure
import BrowserScenario.Run.Scenario
import BrowserScenario.Run.Step
import BrowserScenario.Scenario.Basic
import BrowserScenario.Scenario.Load
import BrowserScenario.Scenario.Resolve
import BrowserScenario.Scenario.Schema
import BrowserScenario.Scenario.Select
import BrowserScenario.Settings.Assignment
import BrowserScenario.Settings.Basic
import BrowserScenario.Settings.Field
import BrowserScenario.Settings.Load
import BrowserScenario.Suite.Arguments
import BrowserScenario.Suite.Collection
import BrowserScenario.Suite.Context
import BrowserScenario.Suite.Device
import BrowserScenario.Suite.Marker
import BrowserScenario.Suite.Report
import BrowserScenario.Template
import BrowserScenario.Text.Alphanumeric
import BrowserScenario.Text.Blank
import BrowserScenario.Text.Casing
import BrowserScenario.Text.CharacterName
import BrowserScenario.Text.Decimal
import BrowserScenario.Text.Lines
import BrowserScenario.Text.Printable
import BrowserScenario.Text.Quoted
import BrowserScenario.Text.Ranges
import BrowserScenario.Text.Split
import BrowserScenario.Text.Utf8
import BrowserScenario.Time.Calendar
import BrowserScenario.Time.Duration
import BrowserScenario.Time.Moment
import BrowserScenario.Variables.Basic
import BrowserScenario.Variables.EnvFile
import BrowserScenario.Variables.Load
import BrowserScenario.Yaml.Fault
import BrowserScenario.Yaml.Graph
import BrowserScenario.Yaml.Lexer
import BrowserScenario.Yaml.Scalar
import BrowserScenario.Yaml.ScalarText
import BrowserScenario.Yaml.Timestamp
import BrowserScenario.Yaml.Token
import BrowserScenario.Yaml.Value
import BrowserScenario.Proofs.Run.Outcome
import BrowserScenario.Proofs.Run.Plan
import BrowserScenario.Proofs.Run.Conduct
import BrowserScenario.Proofs.Run.Refinement
import BrowserScenario.Proofs.Run.Capture
import BrowserScenario.Proofs.Run.Diagnosis
import BrowserScenario.Proofs.Template.Decomposition
import BrowserScenario.Proofs.Template.Fill
import BrowserScenario.Proofs.Data.Checked
import BrowserScenario.Proofs.Json.Decoded
import BrowserScenario.Proofs.Schema.Field
import BrowserScenario.Proofs.Schema.Member
import BrowserScenario.Proofs.Schema.Record
import BrowserScenario.Proofs.Schema.Document
import BrowserScenario.Proofs.Scenario.Fieldwise
import BrowserScenario.Proofs.Scenario.Stable
import BrowserScenario.Proofs.Run.Executable
import BrowserScenario.Proofs.Page.Served
import BrowserScenario.Proofs.Page.Refinement
import BrowserScenario.Proofs.Text.Utf8
import BrowserScenario.Proofs.Files.Location
import BrowserScenario.Proofs.Scenario.Loading
import BrowserScenario.Proofs.Template.Agreement
import BrowserScenario.Proofs.Run.Relevance
import BrowserScenario.Proofs.Files.Change
import BrowserScenario.Proofs.Files.Picture
import BrowserScenario.Proofs.Run.Session
import BrowserScenario.Proofs.Command.Given
import BrowserScenario.Proofs.Settings.Sources
import BrowserScenario.Proofs.Command.Selection
import BrowserScenario.Proofs.Run.Single
import BrowserScenario.Proofs.Run.Log
import BrowserScenario.Proofs.Run.MissingInput
import BrowserScenario.Proofs.Schema.Composition
import BrowserScenario.Proofs.Data.Member
import BrowserScenario.Proofs.Schema.Retouched
import BrowserScenario.Proofs.Schema.Written
import BrowserScenario.Proofs.Number.Decimal
import BrowserScenario.Proofs.Run.Numeral
import BrowserScenario.Proofs.Scenario.Selected
import BrowserScenario.Proofs.Scenario.Narrowing
import BrowserScenario.Proofs.Text.Trim
import BrowserScenario.Proofs.Variables.Entries
import BrowserScenario.Proofs.Text.Pieces
import BrowserScenario.Proofs.Text.Blocks
import BrowserScenario.Proofs.Text.Lines
import BrowserScenario.Proofs.Variables.Line
import BrowserScenario.Proofs.Variables.Written
import BrowserScenario.Proofs.Time.Calendar
import BrowserScenario.Proofs.Time.FixedWidth
import BrowserScenario.Proofs.Time.Stamp
import BrowserScenario.Proofs.Files.Collision
import BrowserScenario.Proofs.Command.Forwarded
import BrowserScenario.Proofs.Settings.Usable
import BrowserScenario.Proofs.Suite.Release
import BrowserScenario.Proofs.Run.LeadingNumber
import BrowserScenario.Proofs.Pattern.Literal
import BrowserScenario.Proofs.Scenario.Named
import BrowserScenario.Proofs.Files.Clean
import BrowserScenario.Proofs.Suite.Results
