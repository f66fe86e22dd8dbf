import Continuity.Character.Json
import Continuity.Character.Schema
import Continuity.Event.Bus
import Continuity.Event.Schema
import Continuity.Issue.Schema
import Continuity.Link.Json
import Continuity.Main
import Continuity.Markdown.Json
import Continuity.Report.Schema
import Continuity.Proofs.Run.Failure
import Continuity.Proofs.Run.FileOrder
import Continuity.Proofs.Run.Isolation
import Continuity.Proofs.Run.Order
import Continuity.Proofs.Character.Reporting
import Continuity.Proofs.Character.Spelling
import Continuity.Proofs.Link.Growth
import Continuity.Proofs.Report.Account
import Continuity.Proofs.Link.Anchor
import Continuity.Proofs.Link.Way
import Continuity.Proofs.Run.Cancellation
import Continuity.Proofs.Run.Request
import Continuity.Proofs.Character.Candidate
import Continuity.Proofs.Markdown.Placement
import Continuity.Proofs.Text.Slice
import Continuity.Proofs.Character.Paragraph
import Continuity.Proofs.Character.Place
import Continuity.Proofs.Event.Delivery
import Continuity.Proofs.Config.Overrides
import Continuity.Proofs.Document.FrontMatter
import Continuity.Proofs.Character.TextRuns
import Continuity.Proofs.Character.Pronouns
import Continuity.Proofs.Config.Outcome
import Continuity.Proofs.Report.Document
import Continuity.Proofs.Markdown.LinkExtent
import Continuity.Proofs.Character.Notes
import Continuity.Proofs.Character.FrontMatter
import Continuity.Proofs.Data.Overlay
import Continuity.Proofs.Files.Discovery
import Continuity.Proofs.Report.Html
import Continuity.Proofs.Document.History
import Continuity.Proofs.Run.Agenda
