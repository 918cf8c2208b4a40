import EnvBootstrap.Main
import EnvBootstrap.Proofs.Agreement
import EnvBootstrap.Proofs.Bootstrap.Sequence
import EnvBootstrap.Proofs.Conda
import EnvBootstrap.Proofs.Config.Writing
import EnvBootstrap.Proofs.Directories
import EnvBootstrap.Proofs.Entry
import EnvBootstrap.Proofs.Files.Linkless
import EnvBootstrap.Proofs.Log.Steps
import EnvBootstrap.Proofs.Path.Ancestor
import EnvBootstrap.Proofs.Path.Buffer
import EnvBootstrap.Proofs.Path.Climb
import EnvBootstrap.Proofs.Path.Joining
import EnvBootstrap.Proofs.Path.NormalForm
import EnvBootstrap.Proofs.Relocation
import EnvBootstrap.Proofs.Shell.Bytewise
import EnvBootstrap.Proofs.Shell.Csh
import EnvBootstrap.Proofs.Shell.Fish
import EnvBootstrap.Proofs.Shell.Posix
