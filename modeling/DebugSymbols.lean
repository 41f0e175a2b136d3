import DebugSymbols.Logging.Setup
import DebugSymbols.ModuleLoader
import DebugSymbols.StackFrame
import DebugSymbols.Proofs.Actions
import DebugSymbols.Proofs.Filling
import DebugSymbols.Proofs.Loading
import DebugSymbols.Proofs.Requests
import DebugSymbols.Proofs.LoadedSymbols
import DebugSymbols.Proofs.TablePoints
import DebugSymbols.Proofs.SearchAgreement
import DebugSymbols.Proofs.StepRanges
import DebugSymbols.Proofs.GuardedHost
import DebugSymbols.Proofs.HostUse
import DebugSymbols.Proofs.ImageRequests
import DebugSymbols.Proofs.Registrations
import DebugSymbols.Proofs.SourcePositions
import DebugSymbols.Proofs.UnpreparedHost
import DebugSymbols.Proofs.LoadOrder
import DebugSymbols.Proofs.LocatedFrames
import DebugSymbols.Proofs.RegistryHistory
import DebugSymbols.Proofs.IntegerLiterals
import DebugSymbols.Proofs.RegistryCalls
import DebugSymbols.Proofs.ShownLines
import DebugSymbols.Proofs.MemberPaths
import DebugSymbols.Proofs.StringLiterals
import DebugSymbols.Proofs.RequestedLines
import DebugSymbols.Proofs.FramePoints
import DebugSymbols.Proofs.UserCode
import DebugSymbols.Proofs.SkippedModules
import DebugSymbols.Proofs.ModuleNames
import DebugSymbols.Proofs.AddressRanges
import DebugSymbols.Proofs.IdentityTexts
import DebugSymbols.Proofs.NearestPoints
import DebugSymbols.Proofs.ProcessPaths
import DebugSymbols.Proofs.PointOrder
