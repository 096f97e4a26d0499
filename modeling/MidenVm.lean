import MidenVm.Felt
import MidenVm.Core.Decorators
import MidenVm.Processor.Layout
import MidenVm.Processor.MainTrace
import MidenVm.Processor.AuxTrace
import MidenVm.Processor.Dispatch
import MidenVm.Processor.HasherBus
import MidenVm.Processor.KernelTable
import MidenVm.Assembly.ConstEval
import MidenVm.Assembly.NameResolver
import MidenVm.Assembly.RewriteCheck
import MidenVm.Assembly.Sema
import MidenVm.Assembly.VerifyInvoke
import MidenVm.Assembly.U32Ops
import MidenVm.Assembly.EnvOps
import MidenVm.VirtualBus.Multilinear
import MidenVm.VirtualBus.Univariate
import MidenVm.VirtualBus.SumCheck
import MidenVm.VirtualBus.SumCheckProver
import MidenVm.VirtualBus.SumCheckRound
import MidenVm.VirtualBus.Completeness
