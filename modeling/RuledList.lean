import RuledList.Component.Ambient
import RuledList.Component.Config
import RuledList.Component.Definition
import RuledList.Component.Surface
import RuledList.Event.Basic
import RuledList.Event.Emitter
import RuledList.Globals.Basic
import RuledList.Globals.Cells
import RuledList.Host.Arena
import RuledList.Host.Basic
import RuledList.Host.InstanceId
import RuledList.Instance.Basic
import RuledList.Instance.Bindings
import RuledList.Instance.Error
import RuledList.Instance.Render
import RuledList.Node.Basic
import RuledList.Node.Expand
import RuledList.Node.Markup
import RuledList.Notice
import RuledList.Number.Basic
import RuledList.Number.Binary64
import RuledList.Number.Shortest
import RuledList.Observation
import RuledList.OrdMap.Basic
import RuledList.Proofs.Component.Sharing
import RuledList.Proofs.Host.Arena
import RuledList.Proofs.Host.Isolation
import RuledList.Proofs.Host.Request
import RuledList.Proofs.Host.Session
import RuledList.Proofs.Instance.Binding
import RuledList.Proofs.Instance.Conservation
import RuledList.Proofs.Instance.FlatMap
import RuledList.Proofs.Instance.Mount
import RuledList.Proofs.Instance.Output
import RuledList.Proofs.Instance.Run
import RuledList.Proofs.Node.Expansion
import RuledList.Proofs.Node.Handles
import RuledList.Proofs.OrdMap.Write
import RuledList.Proofs.Rule.Emission
import RuledList.Property.Codec
import RuledList.Property.Spec
import RuledList.Property.Type
import RuledList.Rule.Basic
import RuledList.Rule.Pass
import RuledList.Rule.Registry
import RuledList.Rule.Resolve
import RuledList.Shown
import RuledList.Template.Action
import RuledList.Template.Basic
import RuledList.Template.Expr
import RuledList.Text.Escaped
import RuledList.Text.Hex
import RuledList.Text.Printable
import RuledList.Text.Quoted
import RuledList.Value.Basic
import RuledList.Value.Reader
import RuledList.Value.Text
import RuledList.View.Attribute
import RuledList.View.Code.Basic
import RuledList.View.Code.View
import RuledList.View.Error
import RuledList.View.Expression.Cursor
import RuledList.View.Expression.Declaration
import RuledList.View.Expression.Goal
import RuledList.View.Expression.Grammar
import RuledList.View.Expression.Item
import RuledList.View.Expression.Operand
import RuledList.View.Expression.Path
import RuledList.View.Expression.Pattern
import RuledList.View.Expression.Statement
import RuledList.View.Node
import RuledList.View.Piece
import RuledList.View.Token.Basic
import RuledList.View.Token.Blank
import RuledList.View.Token.Letter
import RuledList.View.Token.Lexer
import RuledList.View.Token.Literal
import RuledList.View.Token.Spelling
import RuledList.Proofs.Host.Lifecycle
import RuledList.Proofs.View.Nesting
import RuledList.Proofs.View.Spelling
import RuledList.Proofs.View.Grammar
import RuledList.View.Code.Reading
import RuledList.View.Code.Evaluation
import RuledList.Proofs.View.Reading
import RuledList.Proofs.View.Construction
import RuledList.Proofs.Rule.Matching
import RuledList.Proofs.Host.Quiet
import RuledList.Proofs.Rule.Order
import RuledList.Proofs.Instance.Items
import RuledList.Proofs.Host.Atomicity
import RuledList.Proofs.Instance.Shaping
import RuledList.Proofs.Host.Waiting
import RuledList.Proofs.Node.Simulation
import RuledList.Proofs.Component.Embedding
import RuledList.Proofs.Component.Surface
import RuledList.Proofs.Property.Spelling
import RuledList.Proofs.Instance.Updates
import RuledList.Proofs.Instance.Asking
import RuledList.Proofs.Rule.Override
import RuledList.Proofs.Component.Declaration
import RuledList.Proofs.Instance.Setup
import RuledList.Proofs.Node.Identity
import RuledList.Proofs.Instance.Rerender
import RuledList.Proofs.Rule.Checking
import RuledList.Proofs.Rule.Selection
import RuledList.Proofs.View.OpenTags
import RuledList.Proofs.Node.Splicing
import RuledList.Proofs.Node.TagText
import RuledList.Proofs.Node.Decoding
import RuledList.Proofs.Node.Canonical
