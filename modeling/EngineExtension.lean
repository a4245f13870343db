import EngineExtension.Bare.Entry
import EngineExtension.Config.Reader
import EngineExtension.Config.Writer
import EngineExtension.Proofs.Alternation
import EngineExtension.Proofs.Leftovers
import EngineExtension.Proofs.Release
import EngineExtension.Script
import EngineExtension.Session
import EngineExtension.Proofs.Course
import EngineExtension.Proofs.Session
import EngineExtension.Proofs.Atomicity
import EngineExtension.Proofs.Decision
import EngineExtension.Proofs.HostText
import EngineExtension.Proofs.Report
import EngineExtension.Proofs.Accounting
import EngineExtension.Proofs.Isolation
import EngineExtension.Proofs.FirstLogger
import EngineExtension.Proofs.Teardown
import EngineExtension.Proofs.Forwarding
import EngineExtension.Proofs.EntryPoint
import EngineExtension.Proofs.Grammar
import EngineExtension.Proofs.Lexing
import EngineExtension.Proofs.Truncation
import EngineExtension.Proofs.Skipping
import EngineExtension.Proofs.Decoding
import EngineExtension.Proofs.ConfigText
import EngineExtension.Proofs.Directory
import EngineExtension.Proofs.Unregistering
import EngineExtension.Proofs.Routing
import EngineExtension.Proofs.OwnTargets
import EngineExtension.Proofs.Boundary
import EngineExtension.Proofs.Repetition
import EngineExtension.Proofs.Erasure
import EngineExtension.Proofs.Override
import EngineExtension.Proofs.Strictness
import EngineExtension.Proofs.FilterNames
