import Folio.Main
import Folio.Style.Choice
import Folio.Viewport.Bench
import Folio.Window.State
import Folio.Proofs.Text.Rewriting
import Folio.Proofs.Math.Token
import Folio.Proofs.Text.Occurrence
import Folio.Proofs.Math.Lossless
import Folio.Proofs.Math.Place
import Folio.Proofs.Math.Substitution
import Folio.Proofs.Heading.Anchor
import Folio.Proofs.Heading.Listed
import Folio.Proofs.Math.Escaping
import Folio.Proofs.Prose.Fragment
import Folio.Proofs.Prose.Kind
import Folio.Proofs.Prose.Freshness
import Folio.Proofs.Document.Tags
import Folio.Proofs.Document.Code
import Folio.Proofs.Viewport.Mirror
import Folio.Proofs.Viewport.Run
import Folio.Proofs.Heading.Written
import Folio.Proofs.Heading.Calls
import Folio.Proofs.Text.Turn
import Folio.Proofs.Math.Around
import Folio.Proofs.Document.Order
import Folio.Proofs.Html.Standing
import Folio.Proofs.Math.Unseen
import Folio.Proofs.Prose.Shape
import Folio.Proofs.Prose.Standing
import Folio.Proofs.Document.Standing
import Folio.Proofs.Viewport.Quiet
import Folio.Proofs.Viewport.Timers
import Folio.Proofs.Window.Course
import Folio.Proofs.Document.Declared
import Folio.Proofs.Window.Upkeep
import Folio.Proofs.Window.Answer
import Folio.Proofs.Window.Section
import Folio.Proofs.Text.Located
import Folio.Proofs.Math.Complete
import Folio.Proofs.Container.Region
import Folio.Proofs.Container.Copied
import Folio.Proofs.Prose.Lines
import Folio.Proofs.Prose.Markup
import Folio.Proofs.Container.Sealed
import Folio.Proofs.Window.Leading
import Folio.Proofs.Window.Resuming
import Folio.Proofs.Document.Contents
import Folio.Proofs.Files.Remembered
import Folio.Proofs.Number.Numeral
import Folio.Proofs.Style.Columns
import Folio.Proofs.Document.Reach
import Folio.Proofs.Text.Lowered
import Folio.Proofs.Math.Cased
import Folio.Proofs.Math.Leftover
import Folio.Proofs.Heading.Slug
import Folio.Proofs.Document.Hidden
import Folio.Proofs.Container.Scan
import Folio.Proofs.Container.Joined
import Folio.Proofs.Container.Covered
import Folio.Proofs.Text.Cut
import Folio.Proofs.Text.Encoded
import Folio.Proofs.Files.Named
import Folio.Proofs.Files.Stored
import Folio.Proofs.Files.Recalled
import Folio.Proofs.Command.Opening
import Folio.Proofs.Command.Reopening
import Folio.Proofs.Container.Unsealed
import Folio.Proofs.Html.Decoded
import Folio.Proofs.Math.Contained
import Folio.Proofs.Prose.Anchored
import Folio.Proofs.Container.Attribute
import Folio.Proofs.Number.Comparison
import Folio.Proofs.Number.Exactness
import Folio.Proofs.Viewport.Reading
import Folio.Proofs.Viewport.Active
import Folio.Proofs.Viewport.Switched
import Folio.Proofs.Viewport.Followed
import Folio.Proofs.Viewport.Zooming
import Folio.Proofs.Window.Report
import Folio.Proofs.Fit.Measured
import Folio.Proofs.Fit.Planned
import Folio.Proofs.Number.Written
import Folio.Proofs.Fit.Factor
import Folio.Proofs.Settings.Setting
import Folio.Proofs.Settings.Change
import Folio.Proofs.Settings.Bounds
import Folio.Proofs.Html.Links
import Folio.Proofs.Math.Linked
import Folio.Proofs.Prose.Links
import Folio.Proofs.Heading.Titles
import Folio.Proofs.Document.Links
import Folio.Proofs.Html.Reference
import Folio.Proofs.Html.Lexeme
import Folio.Proofs.Prose.Seen
import Folio.Proofs.Window.Label
import Folio.Proofs.Text.CaseRun
import Folio.Proofs.Math.CodeExtent
import Folio.Proofs.Text.Low
import Folio.Proofs.Heading.Name
