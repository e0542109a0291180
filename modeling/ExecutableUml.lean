import ExecutableUml.Main
import ExecutableUml.Execution.Navigation
import ExecutableUml.Execution.Script
import ExecutableUml.Proofs.Compilation
import ExecutableUml.Proofs.Action.BlockTree
import ExecutableUml.Proofs.Action.Indentation
import ExecutableUml.Proofs.Action.RoundTrip
import ExecutableUml.Proofs.Action.Symbols
import ExecutableUml.Proofs.Document.ResolvedReferences
import ExecutableUml.Proofs.Document.DeterministicMachines
import ExecutableUml.Proofs.Python.ActionTexts
import ExecutableUml.Proofs.Python.LinkKeys
import ExecutableUml.Proofs.Python.EventNames
import ExecutableUml.Proofs.Execution.LinkRelations
import ExecutableUml.Proofs.Execution.Identities
import ExecutableUml.Proofs.Execution.BaseStates
import ExecutableUml.Proofs.Python.BaseRows
import ExecutableUml.Proofs.Execution.MachinePaths
import ExecutableUml.Proofs.Execution.TimerEnds
import ExecutableUml.Proofs.Action.IfChains
import ExecutableUml.Proofs.Document.AssociationNames
import ExecutableUml.Proofs.Document.KnownTypes
import ExecutableUml.Proofs.Files.Places
import ExecutableUml.Proofs.Files.Projects
import ExecutableUml.Proofs.Files.Checks
import ExecutableUml.Proofs.Document.Hierarchy
import ExecutableUml.Proofs.Python.ClassLookups
import ExecutableUml.Proofs.Python.ActionIsolation
import ExecutableUml.Proofs.Action.TokenPartition
import ExecutableUml.Proofs.Action.BlockGrammar
import ExecutableUml.Proofs.Action.Relexing
import ExecutableUml.Proofs.Action.StringLiterals
import ExecutableUml.Proofs.Action.Terminators
import ExecutableUml.Proofs.Action.CallArguments
import ExecutableUml.Proofs.Action.BracketNesting
import ExecutableUml.Proofs.Python.MachineMethods
import ExecutableUml.Proofs.Execution.BaseReactions
import ExecutableUml.Proofs.Execution.Navigation
import ExecutableUml.Proofs.Execution.BulkLinks
import ExecutableUml.Proofs.Python.WellFormedNames
import ExecutableUml.Proofs.Python.QuotedText
import ExecutableUml.Proofs.Python.Docstrings
import ExecutableUml.Proofs.Action.ForcedStates
import ExecutableUml.Proofs.Python.IntegerNumerals
import ExecutableUml.Proofs.Python.AssociationEnds
import ExecutableUml.Proofs.Python.OperationMethods
import ExecutableUml.Proofs.Action.MemberNotes
import ExecutableUml.Proofs.Model.TypeText
import ExecutableUml.Proofs.Document.DeclaredStates
import ExecutableUml.Proofs.Action.Places.Agreement
