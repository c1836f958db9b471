import PfaScript.Log.Setup
import PfaScript.Main
import PfaScript.Proofs.AttributePath
import PfaScript.Proofs.Braces
import PfaScript.Proofs.Branching
import PfaScript.Proofs.ConstantForm
import PfaScript.Proofs.Coverage
import PfaScript.Proofs.Destination
import PfaScript.Proofs.FirstFault
import PfaScript.Proofs.FunctionName
import PfaScript.Proofs.KeyOrder
import PfaScript.Proofs.LoopHead
import PfaScript.Proofs.NoBreach
import PfaScript.Proofs.Overriding
import PfaScript.Proofs.Stripping
import PfaScript.Proofs.Watching
