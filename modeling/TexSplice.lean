import TexSplice.Main
import TexSplice.NamedEdit
import TexSplice.Proofs.Apply.Addition
import TexSplice.Proofs.Apply.Deletion
import TexSplice.Proofs.Apply.Creation
import TexSplice.Proofs.Command.LineEnds
import TexSplice.Proofs.Session.Selection
import TexSplice.Proofs.Splice.Structure
import TexSplice.Proofs.Target.Tiling
import TexSplice.Proofs.Apply.Blank
import TexSplice.Proofs.Layout.Basic
import TexSplice.Proofs.Layout.Lookup
import TexSplice.Proofs.Layout.Edit
import TexSplice.Proofs.Splice.Commute
import TexSplice.Proofs.Splice.Restore
import TexSplice.Proofs.Splice.Exhaust
import TexSplice.Proofs.Session.Asking
import TexSplice.Proofs.Session.History
import TexSplice.Proofs.Client.Complete
import TexSplice.Proofs.Session.Generators
import TexSplice.Proofs.Client.Retries
import TexSplice.Proofs.Apply.Mended
import TexSplice.Proofs.Apply.NewSection
import TexSplice.Proofs.Session.Checked
import TexSplice.Proofs.Outline.Exact
import TexSplice.Proofs.Apply.Trace
import TexSplice.Proofs.Splice.Body
import TexSplice.Proofs.Client.Runs
import TexSplice.Proofs.Pacing.Spacing
import TexSplice.Proofs.Intent.Deleting
import TexSplice.Proofs.Json.Decoded
import TexSplice.Proofs.Store.Entries
import TexSplice.Proofs.Store.Digested
import TexSplice.Proofs.Store.Components
import TexSplice.Proofs.Target.Stale
import TexSplice.Proofs.Target.BlankTitles
import TexSplice.Proofs.Pacing.Counting
import TexSplice.Proofs.Target.Titles
import TexSplice.Proofs.Reply.Fences
import TexSplice.Proofs.Reply.Repeated
import TexSplice.Proofs.Check.Balance
import TexSplice.Proofs.Splice.Accounting
import TexSplice.Proofs.Prompt.Excerpts
import TexSplice.Proofs.Prompt.Shown
import TexSplice.Proofs.Outline.Readings
import TexSplice.Proofs.Intent.FirstTerm
import TexSplice.Proofs.Reply.Content
import TexSplice.Proofs.Json.Quotes
