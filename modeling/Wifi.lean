import Wifi.Mac80211.ReorderBufRuns
import Wifi.Iwlwifi.RxmqRuns
import Wifi.Wireless.GenNewIeSpec
import Wifi.Wireless.CmpBss
import Wifi.Mac80211.Mesh.Accounting
import Wifi.Mac80211.Mesh.Freshness
import Wifi.Mac80211.WpaReplay
import Wifi.Net80211.CcmpRoundTrip
import Wifi.Mac80211.PowerSaveBufferRuns
import Wifi.Mac80211.PowerSaveCount
import Wifi.Mac80211.StaInfoLife
import Wifi.Mac80211.AggTxqRuns
import Wifi.Mac80211.OffchannelRuns
import Wifi.Wireless.RegdbReads
import Wifi.Mac80211.OffchannelAdvanceRuns
import Wifi.Mac80211.FragmentRoundTrip
import Wifi.Mac80211.WakeQueuesRuns
import Wifi.Mac80211.Aql
import Wifi.Wireless.RegIntersectSpec
import Wifi.Mac80211.AmsduTxRuns
import Wifi.Mac80211.Mesh.PlinkRuns
import Wifi.Net80211.Mesh.PathError
import Wifi.Net80211.Mesh.Discovery
import Wifi.Net80211.Mesh.PeeringCount
import Wifi.Mac80211.Mesh.PlinkCount
import Wifi.Net80211.Mesh.ElementRuns
import Wifi.Mac80211.DefragReuse
import Wifi.Net80211.Defrag
import Wifi.Net80211.AgeqTiming
import Wifi.Mac80211.BssidProfile
import Wifi.Wireless.DefragMle
import Wifi.Wireless.RadiotapPrior
import Wifi.Wireless.RadiotapBounds
import Wifi.Net80211.DecapAmsdu
import Wifi.Wireless.AmsduLengths
import Wifi.Mac80211.TkipRx
import Wifi.Net80211.AmpduAmsduRuns
import Wifi.Iwlwifi.TxQueueRuns
import Wifi.Mac80211.Chanctx.Reserve
import Wifi.Mac80211.Chanctx.SwitchCtxs
import Wifi.Mac80211.Mesh.GateForward
import Wifi.Mac80211.PsResponseRight
import Wifi.Mac80211.StaAggregates
import Wifi.Mac80211.Michael
import Wifi.Net80211.Tim
import Wifi.Net80211.TkipReplay
import Wifi.Net80211.WepDecrypt
import Wifi.Wireless.DfsWalks
import Wifi.Mac80211.AirtimeSched
import Wifi.Mac80211.BeaconCntdwn
import Wifi.Mac80211.MbssidBeacon
import Wifi.Mac80211.MeshRmc
import Wifi.Mac80211.TimElement
import Wifi.Wireless.MaxBandwidth
import Wifi.Wireless.MlStaProfiles
import Wifi.Net80211.Mesh.PeeringOrder
import Wifi.Net80211.CryptoNewkey
import Wifi.Net80211.PsqAge
import Wifi.Net80211.Mesh.ForwardGates
import Wifi.Net80211.Mesh.ReplyRoutes
import Wifi.Net80211.ParseBeacon
import Wifi.Iwlwifi.HcmdRuns
