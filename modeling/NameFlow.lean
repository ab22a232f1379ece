import NameFlow.Flow.Trace
import NameFlow.Files.Tree
import NameFlow.Main
import NameFlow.Proofs.Command.Blocks
import NameFlow.Proofs.Command.TagText
import NameFlow.Proofs.Files.RootName
import NameFlow.Proofs.Flow.Accumulation
import NameFlow.Proofs.Flow.Arguments
import NameFlow.Proofs.Flow.Assignment
import NameFlow.Proofs.Flow.Balance
import NameFlow.Proofs.Flow.Constraints
import NameFlow.Proofs.Flow.Nesting
import NameFlow.Proofs.Flow.Returns
import NameFlow.Proofs.Python.Position
import NameFlow.Proofs.Updates
import NameFlow.Proofs.Vocabulary.Composition
import NameFlow.Proofs.Vocabulary.Letters
import NameFlow.Proofs.Vocabulary.Pattern
import NameFlow.Proofs.Vocabulary.Reloading
import NameFlow.Proofs.Vocabulary.Shares
import NameFlow.Proofs.Vocabulary.KeyLines
import NameFlow.Proofs.Vocabulary.KeyBlocks
import NameFlow.Proofs.Vocabulary.FrequencyGrammar
import NameFlow.Proofs.Vocabulary.Evaluation
