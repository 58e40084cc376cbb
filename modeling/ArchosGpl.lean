import ArchosGpl.Wlan.RxQueue.Order
import ArchosGpl.Wlan.RxQueue.Timer
import ArchosGpl.Wlan.TxResult.Delivery
import ArchosGpl.Wlan.EventMbox.Dispatch
import ArchosGpl.Wlan.TimerModule.Expiry
import ArchosGpl.Wlan.RxXfer.Handling
import ArchosGpl.Wlan.TxDataQueue.NetStack
import ArchosGpl.Wlan.ScanResultTable.Keys
import ArchosGpl.Wlan.Scr.Arbitration
import ArchosGpl.Wlan.TxCtrl.Agreement
import ArchosGpl.Wlan.TxMgmtQueue.Mux
import ArchosGpl.F2m.Timing
import ArchosGpl.F2m.MacroblockHeader
import ArchosGpl.F2m.Fetch
import ArchosGpl.F2m.DcRange
import ArchosGpl.F2m.InterEvents
import ArchosGpl.Wlan.SdioBusDrv.Exactness
import ArchosGpl.Wlan.FwEvent.Progress
import ArchosGpl.Wlan.RegulatoryDomain.TxPower
import ArchosGpl.Wlan.PowerSrv.Completion
import ArchosGpl.Wlan.SwitchChannel.Protocol
import ArchosGpl.Wlan.QosMngr.MediumTime
import ArchosGpl.Wlan.QosMngr.Handshake
import ArchosGpl.Wlan.QosMngr.PsRxStreaming
import ArchosGpl.Wlan.GenSM.RunToCompletion
import ArchosGpl.Wlan.PowerMgr.Arbitration
import ArchosGpl.Wlan.TrafficMonitor.DownTimer
import ArchosGpl.Wlan.TrafficMonitor.Alternation
import ArchosGpl.Wlan.TrafficMonitor.Bandwidth
import ArchosGpl.Wlan.CmdMBox.Pairing
import ArchosGpl.Wlan.Rsn.Agreement
import ArchosGpl.Wlan.Rsn.BanSystem
import ArchosGpl.Wlan.ScanSrv.Completion
import ArchosGpl.Wlan.MeasurementSrv.Results
import ArchosGpl.Wlan.MeasurementSrv.Callbacks
import ArchosGpl.Wlan.AdmCtrlWpa.WpaAdmission
import ArchosGpl.Wlan.AdmCtrlWpa2.BestSuite
import ArchosGpl.Wlan.AdmCtrlWpa2.CandMessage
import ArchosGpl.Wlan.AdmCtrlWpa2.IeRoundTrip
import ArchosGpl.Wlan.AdmCtrlWpa2.PmkidMap
import ArchosGpl.Wlan.RxData.Amsdu
import ArchosGpl.Wlan.RxData.FilterCompile
import ArchosGpl.Wlan.ScanResultTable.BssidList
import ArchosGpl.Wlan.TxCtrlBlk.FreeList
import ArchosGpl.Wlan.Sme.Progress
import ArchosGpl.Wlan.ScanCncn.Client
import ArchosGpl.Wlan.RoamingMngr.Candidates
import ArchosGpl.Wlan.RoamingMngr.Ends
import ArchosGpl.Wlan.ScanMngr.Scans
import ArchosGpl.Wlan.ScanMngr.SpsNextEvent
import ArchosGpl.Wlan.ScanMngr.SpsCommand
import ArchosGpl.Wlan.Queue.Refinement
import ArchosGpl.Wlan.MlmeParser.IeBuffer
import ArchosGpl.Wlan.MlmeParser.Copies
import ArchosGpl.Wlan.TxXfer.Aggregation
import ArchosGpl.Wlan.SiteMgr.SiteTable
import ArchosGpl.Wlan.TxDataClsfr.Table
import ArchosGpl.Wlan.TwIf.Partition
import ArchosGpl.Wlan.RequestHandler.Insert
import ArchosGpl.Wlan.TrafficAdmCtrl.TspecIe
import ArchosGpl.Wlan.Sme.SelectOrder
import ArchosGpl.Wlan.ScanCncn.Results
import ArchosGpl.Wlan.ScanResultTable.Aging
import ArchosGpl.Wlan.Sme.ScanCycles
import ArchosGpl.Wlan.ScanResultTable.WscParams
import ArchosGpl.Wlan.RxData.HeaderRoundTrip
import ArchosGpl.Wlan.AssocSm.Attempts
import ArchosGpl.Wlan.ScanCncn.ChannelFilter
