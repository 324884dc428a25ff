import Notation.Go.Map
import Notation.Go.Filepath
import Notation.Basic
import Notation.Verify.Loop
import Notation.Verify.Spec
import Notation.Verify.Flow
import Notation.Verify.Guarantees
import Notation.Sign.Metadata
import Notation.Sign.Flow
import Notation.Sign.Annotations
import Notation.Jws.PluginSigner
import Notation.Jws.Protocol
import Notation.Registry.Repository
import Notation.Registry.Push
import Notation.Registry.SignatureManifests
import Notation.Registry.Adapter
import Notation.Registry.Memory
import Notation.Verification.TrustStore
import Notation.Dir.Path
