import ZkDetector.Basic
import ZkDetector.Client
import ZkDetector.Sequence
import ZkDetector.Session
import ZkDetector.Connect
import ZkDetector.ConnectRuns
import ZkDetector.Watch
import ZkDetector.WatchRuns
import ZkDetector.WatchVersions
import ZkDetector.System
import ZkDetector.SystemRuns
