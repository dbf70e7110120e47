import ImpFront.Source.Location
import ImpFront.Token.Kind
import ImpFront.Token.Basic
import ImpFront.Text.Blank
import ImpFront.Token.Scanner
import ImpFront.Token.Feed
import ImpFront.Scope.Entry
import ImpFront.Scope.Table
import ImpFront.Text.Printable
import ImpFront.Text.GraphemeExtend
import ImpFront.Text.Quoted
import ImpFront.Number.Binary64
import ImpFront.Number.Rounding
import ImpFront.Number.Read
import ImpFront.Number.Shortest
import ImpFront.Number.Write
import ImpFront.Syntax.Tree
import ImpFront.Syntax.Returns
import ImpFront.Syntax.Printer
import ImpFront.Parse.Error
import ImpFront.Parse.Cursor
import ImpFront.Parse.Context
import ImpFront.Parse.Expr
import ImpFront.Parse.Stmt
import ImpFront.Parse.Program
import ImpFront.Main
import ImpFront.Proofs.Steps.Expr
import ImpFront.Proofs.Steps.Stmt
import ImpFront.Proofs.Steps.Program
import ImpFront.Proofs.Steps.Assembly
import ImpFront.Proofs.TableUpdates
import ImpFront.Proofs.Typing
import ImpFront.Proofs.Derivations
import ImpFront.Proofs.TypeSoundness
import ImpFront.Proofs.NameResolution
import ImpFront.Proofs.ScopeTree
import ImpFront.Proofs.Definitions
import ImpFront.Proofs.EntrySites
import ImpFront.Proofs.DeclarationOrder
import ImpFront.Proofs.Grammar
import ImpFront.Proofs.Grammar.Continuations
import ImpFront.Proofs.Grammar.Expressions
import ImpFront.Proofs.Grammar.Statements
import ImpFront.Proofs.Steps.Failure
import ImpFront.Proofs.ExpressionTrees
import ImpFront.Proofs.Recognition
import ImpFront.Proofs.Lookahead
import ImpFront.Proofs.TableInvariant
import ImpFront.Proofs.TableFrames
import ImpFront.Proofs.Prefix.Cut
import ImpFront.Proofs.Prefix.Expressions
import ImpFront.Proofs.Prefix.Statements
import ImpFront.Proofs.Prefix.Programs
import ImpFront.Proofs.Prefix.Ends
import ImpFront.Proofs.Scanning.Layout
import ImpFront.Proofs.Scanning.Printing
import ImpFront.Proofs.Scanning.Progress
import ImpFront.Proofs.IntegerLiterals
import ImpFront.Proofs.ReturnTypes
import ImpFront.Proofs.Transport.Expressions
import ImpFront.Proofs.Transport.Statements
import ImpFront.Proofs.ForLoops
import ImpFront.Proofs.ScopeBalance
import ImpFront.Proofs.NameErrors
import ImpFront.Proofs.ParameterLayout
