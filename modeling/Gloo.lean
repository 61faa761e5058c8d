import Gloo.Rendezvous.Store
import Gloo.Rendezvous.HashStore.Basic
import Gloo.Rendezvous.FileStore.Path
import Gloo.Rendezvous.FileStore.Basic
import Gloo.Rendezvous.PrefixStore
import Gloo.Rendezvous.Backend
import Gloo.Rendezvous.Isolation
import Gloo.Rendezvous.ReadModifyWrite
import Gloo.Rendezvous.FileStore.Refinement
import Gloo.Rendezvous.HashStore.Threads
import Gloo.Rendezvous.FileStore.Processes
import Gloo.Rendezvous.Lww
import Gloo.Rendezvous.HashStore.Refinement
import Gloo.Example.Topology
import Gloo.Example.AlexNetCuda
import Gloo.Example.Trainer
import Gloo.Example.Training
import Gloo.Example.AlexNet
import Gloo.Example.Config
import Gloo.Example.Bandwidth
import Gloo.Example.Main
import Gloo.Transport.Tcp.Error
