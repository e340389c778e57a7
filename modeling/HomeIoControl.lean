import HomeIoControl.ConfirmationPolls
import HomeIoControl.ControlLatency
import HomeIoControl.CorpusCrypto
import HomeIoControl.CorpusKeyTransfers
import HomeIoControl.DeviceNames
import HomeIoControl.DeviceRenames
import HomeIoControl.FirmwareUpdateRuns
import HomeIoControl.FlashImages
import HomeIoControl.ForeignHubs
import HomeIoControl.IdleHops
import HomeIoControl.IngestedLogs
import HomeIoControl.KeyAdoptions
import HomeIoControl.KeyMaterialTwins
import HomeIoControl.LinkHealth
import HomeIoControl.ListenWindows
import HomeIoControl.OneWayAddresses
import HomeIoControl.OneWayIsolation
import HomeIoControl.OneWayPresses
import HomeIoControl.OneWaySequenceRuns
import HomeIoControl.OneWayTransmitterRuns
import HomeIoControl.OrphanedDevices
import HomeIoControl.PairingAgreement
import HomeIoControl.PairingEngineRuns
import HomeIoControl.PairingResponderRuns
import HomeIoControl.PassiveFrames
import HomeIoControl.PendingOperationRuns
import HomeIoControl.PollDeferral
import HomeIoControl.ProbeIndices
import HomeIoControl.RePairing
import HomeIoControl.RefusedTransfers
import HomeIoControl.RekeyClosure
import HomeIoControl.RenderedKeyFrames
import HomeIoControl.RequestLedgerRuns
import HomeIoControl.ResultSensors
import HomeIoControl.RollCalls
import HomeIoControl.SoftPhyEarlyReads
import HomeIoControl.SoftPhyReceptions
import HomeIoControl.StalePolls
import HomeIoControl.StatusPollRuns
import HomeIoControl.TuningRuns
import HomeIoControl.TuningSnapshots
import HomeIoControl.WithdrawnPredictions
