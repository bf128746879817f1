import HandleBridge.Native.Library
import HandleBridge.Simulation.Jobs
import HandleBridge.Simulation.Logger

/-!
# Simulation/Library — the simulated entry points as a native library
-/

namespace HandleBridge.Simulation

/-- The simulated entry points, with a way of adding to files. -/
def entryPoints (append : Appending) : EntryPoints Simulation where
  contextCreate := contextCreate
  contextReturnCode := contextReturnCode
  contextErrorName := contextErrorName
  contextErrorType := contextErrorType
  contextErrorMessage := contextErrorMessage
  contextCategoryNumber := contextCategoryNumber
  contextCategoryText := contextCategoryText
  contextCodeNumber := contextCodeNumber
  contextStructuredCode := contextStructuredCode
  contextDispose := contextDispose
  cancelJobWait := cancelJobWait
  cancelJobIsDone := cancelJobIsDone
  cancelJobDispose := cancelJobDispose
  jobName := jobName
  jobWait := jobWait
  jobIsDone := jobIsDone
  jobTake := jobTake
  jobTakeFor := jobTakeFor
  jobTakeIfReady := jobTakeIfReady
  jobCancel := jobCancel
  jobCancelFor := jobCancelFor
  jobCancelAsync := jobCancelAsync
  jobClose := jobClose
  jobDispose := jobDispose
  loggerInit := loggerInit append

/-- The simulated library on the file system of `Files`. -/
def library : Library Simulation := ⟨.inProcess "simulated", entryPoints Files.append?⟩

end HandleBridge.Simulation
