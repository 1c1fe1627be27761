import StreamSelect.Construction
import StreamSelect.Parser
import StreamSelect.Listing
import StreamSelect.Callbacks
import StreamSelect.Proofs.Document.Simulation
import StreamSelect.Proofs.Attributes
import StreamSelect.Proofs.Constraint.Equality
import StreamSelect.Proofs.Selection.Soundness
import StreamSelect.Proofs.Selection.Reentry
import StreamSelect.Proofs.Selection.NamedParent
import StreamSelect.Proofs.Run.Occurrences
import StreamSelect.Proofs.Run.Nesting
import StreamSelect.Proofs.Automaton.Coherence
import StreamSelect.Proofs.Building.Arena
import StreamSelect.Proofs.Building.Fixpoint
import StreamSelect.Proofs.Session.Script
import StreamSelect.Proofs.Session.Conversation
import StreamSelect.Proofs.Session.Agreement
import StreamSelect.Proofs.Run.Acceptance
import StreamSelect.Proofs.Markup.Nesting
import StreamSelect.Proofs.Markup.Completeness
import StreamSelect.Proofs.Automaton.Likeness
import StreamSelect.Proofs.Building.Memory
import StreamSelect.Proofs.Building.Rerooting
import StreamSelect.Proofs.Building.Inlining
import StreamSelect.Proofs.Run.Course
import StreamSelect.Proofs.Run.Failure
import StreamSelect.Proofs.Run.Elements
import StreamSelect.Proofs.Building.Attachments
import StreamSelect.Proofs.Selection.NamedPath
import StreamSelect.Proofs.Building.NamedScope
import StreamSelect.Proofs.Run.Parallel
import StreamSelect.Proofs.Selection.ExplicitPaths
import StreamSelect.Proofs.Building.SinglePath
import StreamSelect.Proofs.Selection.Descendants
import StreamSelect.Proofs.Selection.Quota
import StreamSelect.Proofs.Selection.PathLimit
import StreamSelect.Proofs.Building.Change
import StreamSelect.Proofs.Building.History
import StreamSelect.Proofs.Building.Redeclaration
import StreamSelect.Proofs.Building.Sharing
import StreamSelect.Proofs.Building.ChildScope
import StreamSelect.Proofs.Document.Starts
import StreamSelect.Proofs.Selection.Cycle
import StreamSelect.Proofs.Selection.SoleHandler
import StreamSelect.Proofs.Selection.ExplicitCycle
import StreamSelect.Proofs.Selection.Children
import StreamSelect.Proofs.Selection.Collection
import StreamSelect.Proofs.Markup.Passage
import StreamSelect.Proofs.Markup.Lines
import StreamSelect.Proofs.Markup.Places
import StreamSelect.Proofs.Markup.Rendering
import StreamSelect.Proofs.Markup.Attributes
import StreamSelect.Proofs.Pattern.WholeValue
import StreamSelect.Proofs.Constraint.Conjunction
import StreamSelect.Proofs.Automaton.Qualifiers
import StreamSelect.Proofs.Building.Requalification
import StreamSelect.Proofs.Automaton.Edit
import StreamSelect.Proofs.Building.Permanence
import StreamSelect.Proofs.Building.Rejection
