import LuauNodes.Artifact
import LuauNodes.Collection.NameSet
import LuauNodes.Collection.OrderedMap
import LuauNodes.CommandLine.Invocation
import LuauNodes.CommandLine.Option
import LuauNodes.CommandLine.Parse
import LuauNodes.CommandLine.Report
import LuauNodes.CommandLine.Run
import LuauNodes.Completion
import LuauNodes.Diagnostic
import LuauNodes.Expression.Balance
import LuauNodes.Expression.Check
import LuauNodes.Expression.Fault
import LuauNodes.Expression.Names
import LuauNodes.Expression.Operand
import LuauNodes.Expression.Parse
import LuauNodes.Expression.Progress
import LuauNodes.Expression.Terminal
import LuauNodes.Expression.Tree
import LuauNodes.Failure
import LuauNodes.Folder
import LuauNodes.Graph.Analysis
import LuauNodes.Graph.Basic
import LuauNodes.Graph.Loading
import LuauNodes.Graph.Membership
import LuauNodes.Graph.Report
import LuauNodes.Graph.Wiring
import LuauNodes.Identifier
import LuauNodes.Json.Basic
import LuauNodes.Json.Reader
import LuauNodes.Json.Writer
import LuauNodes.Log
import LuauNodes.LuauType
import LuauNodes.Main
import LuauNodes.Node.Catalogue
import LuauNodes.Node.Config
import LuauNodes.Node.Kind
import LuauNodes.Node.Mode
import LuauNodes.Node.Palette
import LuauNodes.Node.Shape
import LuauNodes.Node.Sockets
import LuauNodes.Number.Binary64
import LuauNodes.Number.DigitLimit
import LuauNodes.Number.Reading
import LuauNodes.Number.Shortest
import LuauNodes.Problem
import LuauNodes.Proofs.Completion.Fragment
import LuauNodes.Proofs.Completion.Neighbours
import LuauNodes.Proofs.Completion.Suggestions
import LuauNodes.Proofs.Expression.Acceptance
import LuauNodes.Proofs.Expression.Arrival
import LuauNodes.Proofs.Expression.Balancing
import LuauNodes.Proofs.Expression.Brackets
import LuauNodes.Proofs.Expression.Constructs
import LuauNodes.Proofs.Expression.Derivation
import LuauNodes.Proofs.Expression.Grammar
import LuauNodes.Proofs.Expression.Levels
import LuauNodes.Proofs.Expression.Lexemes
import LuauNodes.Proofs.Expression.Listings
import LuauNodes.Proofs.Expression.Meaning
import LuauNodes.Proofs.Expression.Pieces
import LuauNodes.Proofs.Expression.Printability
import LuauNodes.Proofs.Expression.Printing
import LuauNodes.Proofs.Expression.Reading
import LuauNodes.Proofs.Expression.ReadingDerivations
import LuauNodes.Proofs.Expression.Roundtrip
import LuauNodes.Proofs.Expression.Sentences
import LuauNodes.Proofs.Expression.Spans
import LuauNodes.Proofs.Expression.TokenPlaces
import LuauNodes.Proofs.Expression.Tokens
import LuauNodes.Proofs.Expression.Unambiguity
import LuauNodes.Proofs.Expression.UndefinedNames
import LuauNodes.Proofs.Graph.Accounting
import LuauNodes.Proofs.Graph.Analysing
import LuauNodes.Proofs.Graph.AnalysisAgreement
import LuauNodes.Proofs.Graph.BodyReach
import LuauNodes.Proofs.Graph.BodySearch
import LuauNodes.Proofs.Graph.Closing
import LuauNodes.Proofs.Graph.Copying
import LuauNodes.Proofs.Graph.DataFeeds
import LuauNodes.Proofs.Graph.DataOnly
import LuauNodes.Proofs.Graph.Declarations
import LuauNodes.Proofs.Graph.Declaring
import LuauNodes.Proofs.Graph.EdgeChecks
import LuauNodes.Proofs.Graph.FlowMembership
import LuauNodes.Proofs.Graph.Holding
import LuauNodes.Proofs.Graph.Inheritance
import LuauNodes.Proofs.Graph.Joining
import LuauNodes.Proofs.Graph.Membership
import LuauNodes.Proofs.Graph.Mirroring
import LuauNodes.Proofs.Graph.Mounting
import LuauNodes.Proofs.Graph.Nesting
import LuauNodes.Proofs.Graph.Reanalysis
import LuauNodes.Proofs.Graph.Remounting
import LuauNodes.Proofs.Graph.Seating
import LuauNodes.Proofs.Graph.ShownTypes
import LuauNodes.Proofs.Graph.Typing
import LuauNodes.Proofs.Graph.Upstream
import LuauNodes.Proofs.Node.DeclaredNames
import LuauNodes.Proofs.Node.Display
import LuauNodes.Proofs.Node.LoopVariables
import LuauNodes.Proofs.Node.ModeSwitch
import LuauNodes.Proofs.Node.SocketIds
import LuauNodes.Proofs.Node.Status
import LuauNodes.Proofs.Registry.ActiveHistory
import LuauNodes.Proofs.Registry.Admission
import LuauNodes.Proofs.Registry.Announcement
import LuauNodes.Proofs.Registry.BrokenStores
import LuauNodes.Proofs.Registry.Consistency
import LuauNodes.Proofs.Registry.Contents
import LuauNodes.Proofs.Registry.Creation
import LuauNodes.Proofs.Registry.CurrentScope
import LuauNodes.Proofs.Registry.DataSymbols
import LuauNodes.Proofs.Registry.DeclarationOrder
import LuauNodes.Proofs.Registry.Descent
import LuauNodes.Proofs.Registry.Destruction
import LuauNodes.Proofs.Registry.Forest
import LuauNodes.Proofs.Registry.GlobalSymbols
import LuauNodes.Proofs.Registry.Grounding
import LuauNodes.Proofs.Registry.Guests
import LuauNodes.Proofs.Registry.Layout
import LuauNodes.Proofs.Registry.LexicalVisibility
import LuauNodes.Proofs.Registry.Locality
import LuauNodes.Proofs.Registry.Meaning
import LuauNodes.Proofs.Registry.Ownership
import LuauNodes.Proofs.Registry.ParentChain
import LuauNodes.Proofs.Registry.Revision
import LuauNodes.Proofs.Registry.Runs
import LuauNodes.Proofs.Registry.ScopeKinds
import LuauNodes.Proofs.Registry.ScopeSteps
import LuauNodes.Proofs.Registry.Separation
import LuauNodes.Proofs.Registry.Slots
import LuauNodes.Proofs.Registry.SymbolSteps
import LuauNodes.Proofs.Registry.Tidiness
import LuauNodes.Proofs.Registry.Writes
import LuauNodes.Proofs.Workspace.Activities
import LuauNodes.Proofs.Workspace.Adoption
import LuauNodes.Proofs.Workspace.Agreement
import LuauNodes.Proofs.Workspace.Delivery
import LuauNodes.Proofs.Workspace.Effects
import LuauNodes.Proofs.Workspace.FailedEdits
import LuauNodes.Proofs.Workspace.Hearing
import LuauNodes.Proofs.Workspace.Keeping
import LuauNodes.Proofs.Workspace.Lodging
import LuauNodes.Proofs.Workspace.Noninterference
import LuauNodes.Proofs.Workspace.Publication
import LuauNodes.Proofs.Workspace.RequestAgreement
import LuauNodes.Proofs.Workspace.Sharing
import LuauNodes.Proofs.Workspace.Subscriptions
import LuauNodes.Proofs.Workspace.TemporaryScope
import LuauNodes.Record.Checked
import LuauNodes.Record.Reader
import LuauNodes.Registry.Basic
import LuauNodes.Registry.Event
import LuauNodes.Registry.Notice
import LuauNodes.Registry.ScopeTree
import LuauNodes.Registry.SymbolTable
import LuauNodes.Registry.Visibility
import LuauNodes.Scope
import LuauNodes.Session.Basic
import LuauNodes.Session.Delivery
import LuauNodes.Session.Question
import LuauNodes.Session.Request
import LuauNodes.Session.Run
import LuauNodes.Socket.Basic
import LuauNodes.Socket.Connection
import LuauNodes.Socket.Context
import LuauNodes.Symbol
import LuauNodes.Text.AlphanumericTable
import LuauNodes.Text.Blank
import LuauNodes.Text.Digit
import LuauNodes.Text.DigitTable
import LuauNodes.Text.LineBreak
import LuauNodes.Text.LowerCase
import LuauNodes.Text.LowerCaseTable
import LuauNodes.Text.Quoted
import LuauNodes.Text.Range
import LuauNodes.Text.Utf8
import LuauNodes.Text.WordChar
import LuauNodes.Workspace.Basic
import LuauNodes.Workspace.Binding
import LuauNodes.Workspace.Mount
