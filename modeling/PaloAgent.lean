import PaloAgent.Dispatch.Task
import PaloAgent.Dispatch.NextTaskIndex
import PaloAgent.Dispatch.Dispatcher
import PaloAgent.Dispatch.Accounting
import PaloAgent.Dispatch.WorkerLanes
import PaloAgent.Dispatch.Lifecycle
import PaloAgent.Dispatch.Queues
import PaloAgent.Dispatch.Progress
import PaloAgent.Report.ReportVersion
import PaloAgent.Report.DiskState
import PaloAgent.Files.CppString
import PaloAgent.Files.FileList
import PaloAgent.Files.CloneCopy
import PaloAgent.Files.RestoreRename
import PaloAgent.Files.TransFile
import PaloAgent.Worker.Finish
import PaloAgent.Worker.Clone
import PaloAgent.Worker.Alter
import PaloAgent.Worker.Push
import PaloAgent.Worker.Restore
import PaloAgent.Worker.Upload
