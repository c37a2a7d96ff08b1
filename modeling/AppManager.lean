import AppManager.Text
import AppManager.Watch
import AppManager.Node
import AppManager.Helpers
import AppManager.Handlers
import AppManager.Selection
import AppManager.ProjectInvariant
import AppManager.ApiServers
import AppManager.Commands
import AppManager.Recover
import AppManager.Tasks
import AppManager.Races
import AppManager.Failures
import AppManager.FailureDetector
import AppManager.Http
import AppManager.Moves
import AppManager.Invariants
import AppManager.Outcomes
