import VicProvider.PortLayer
import VicProvider.Handles
import VicProvider.IsolationConfig
import VicProvider.IsolationProxy
import VicProvider.HandleLaws
import VicProvider.Session
import VicProvider.Interleaving
import VicProvider.Progress
import VicProvider.ImageStore
import VicProvider.PullQuery
import VicProvider.Environment
import VicProvider.CreateConfig
import VicProvider.GoInt
import VicProvider.Validate
import VicProvider.Cpuset
import VicProvider.PodProxy
import VicProvider.VicConfig
