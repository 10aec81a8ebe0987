import SumProduct.Main
import SumProduct.Proofs.Blanks.Respacing
import SumProduct.Proofs.Blanks.Stripping
import SumProduct.Proofs.Faults.Earliest
import SumProduct.Proofs.Grammar.Contracts
import SumProduct.Proofs.Grammar.Language
import SumProduct.Proofs.Sessions
import SumProduct.Proofs.Forward
import SumProduct.Proofs.StackMachine.Parentheses
import SumProduct.Proofs.Unfinished
import SumProduct.Proofs.StackMachine.Splicing
import SumProduct.Proofs.Substitution
import SumProduct.Proofs.Renumbering
import SumProduct.Proofs.Replay
import SumProduct.Proofs.Naturals
import SumProduct.Proofs.Signs
import SumProduct.Proofs.ReadBack
import SumProduct.Proofs.Cli.OutputLines
import SumProduct.Proofs.Faults.Identity
import SumProduct.Proofs.Faults.Kinds
import SumProduct.Proofs.Leftovers
import SumProduct.Proofs.Literals
import SumProduct.Proofs.Tally
import SumProduct.Proofs.Nesting
