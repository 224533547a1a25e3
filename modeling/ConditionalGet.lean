import ConditionalGet.Main
import ConditionalGet.Proofs.Client.Composition
import ConditionalGet.Proofs.Client.Conduct
import ConditionalGet.Proofs.Client.Doubling
import ConditionalGet.Proofs.Client.Fatality
import ConditionalGet.Proofs.Client.Journal
import ConditionalGet.Proofs.Client.NotModified
import ConditionalGet.Proofs.Client.Traffic
import ConditionalGet.Proofs.Client.Unfolding
import ConditionalGet.Proofs.Command.Echo
import ConditionalGet.Proofs.Command.Limits
import ConditionalGet.Proofs.Command.Precedence
import ConditionalGet.Proofs.Command.Secrecy
import ConditionalGet.Proofs.Config.Loading
import ConditionalGet.Proofs.Credential
import ConditionalGet.Proofs.Link.Insertion
import ConditionalGet.Proofs.Link.Rendering
import ConditionalGet.Proofs.Store.Confinement
import ConditionalGet.Proofs.Store.Crash
import ConditionalGet.Proofs.Store.Readback
import ConditionalGet.Proofs.Store.Reading
import ConditionalGet.Proofs.Store.Refinement
import ConditionalGet.Proofs.Store.Rivals
