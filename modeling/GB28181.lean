import GB28181.Base.Map
import GB28181.Base.Run
import GB28181.Base.Proc
import GB28181.Base.CString
import GB28181.GBUtils.Base64
import GB28181.SipCom.Digest
import GB28181.SipCom.RegisterObject
import GB28181.SipCom.RegMgr
import GB28181.SipCom.RegMgrSpec
import GB28181.SipCom.RegisterAuth
import GB28181.SipCom.RegisterRuns
import GB28181.SipCom.ModifyPassword
import GB28181.SipCom.SipDomain
import GB28181.Base.Token
import GB28181.Lib.SdpParser
import GB28181.Lib.SdpLines
import GB28181.Lib.SdpRoundtrip
import GB28181.Base.Fibre
import GB28181.GBUtils.Utils
import GB28181.Platform.CatalogLayer
import GB28181.Base.Expiry
import GB28181.Platform.SubscribeList
import GB28181.SipCom.SipEvent
import GB28181.Platform.UnifiedMessage
import GB28181.SipCom.CallDialog
import GB28181.Base.SendLoop
import GB28181.Lib.TcpSend
import GB28181.SipCom.IDMap
import GB28181.Platform.CatalogRestore
import GB28181.Base.Walk
import GB28181.Platform.CatalogLock
import GB28181.Platform.CatalogTraversal
import GB28181.Platform.CivilCode
import GB28181.Platform.CivilCodeFile
import GB28181.Platform.PlaceLookup
import GB28181.Platform.RecentAlarm
import GB28181.Platform.AlarmCache
import GB28181.Base.Replace
import GB28181.SipCom.SipMsgMaker
import GB28181.SipCom.SipServiceRelay
import GB28181.SipCom.SipMsgBody
import GB28181.SipCom.SIPService
import GB28181.SipCom.SIPServiceTotal
import GB28181.SipCom.SIPServiceRuns
import GB28181.Base.Cursor
import GB28181.Platform.XMLBodyBuilder
import GB28181.Platform.CatalogQuery
import GB28181.Base.Handover
import GB28181.Platform.AnswerPages
import GB28181.Base.Decimal
import GB28181.Platform.GBIDCreator
import GB28181.Platform.SubDeviceIDs
import GB28181.Platform.GeneratedIDs
import GB28181.Base.InverseMaps
import GB28181.Platform.DataStore
import GB28181.Platform.DeviceIDMaps
import GB28181.Platform.DeviceDeletion
import GB28181.Platform.GuardState
import GB28181.Platform.AlarmSubscribe
import GB28181.Platform.AlarmNotify
import GB28181.Platform.CatalogSubscribe
import GB28181.Platform.InitDeviceInfo
import GB28181.Platform.DeviceUpdates
import GB28181.Platform.CatalogListing
import GB28181.Base.Ownership
import GB28181.Platform.SynQueue
import GB28181.Platform.DatabaseRegister
import GB28181.Platform.DeviceControl
import GB28181.Base.Hex
import GB28181.SipCom.ControlText
import GB28181.Platform.PTZControl
import GB28181.Platform.HandleShared
import GB28181.Platform.EventForwarding
import GB28181.Platform.SharedMessages
import GB28181.RTSPCom.ThreadQueueMap
import GB28181.Base.Trim
import GB28181.RTSPCom.RTSPParser
import GB28181.RTSPCom.RTSPLines
import GB28181.RTSPCom.RTSPRoundtrip
import GB28181.RTSPCom.RTSPSession
import GB28181.RTSPCom.RTSPSegments
import GB28181.RTSPCom.SessionTimer
import GB28181.RTSPCom.SessionRelease
import GB28181.Platform.SubscribeTimer
import GB28181.Platform.Keepalive
import GB28181.Base.Fallible
import GB28181.Platform.SDKDecoder
import GB28181.Platform.DecoderDivision
import GB28181.Platform.DecoderQueries
import GB28181.Base.SqlLexer
import GB28181.Platform.SQLTextMaker
import GB28181.Platform.SQLTokens
import GB28181.Platform.SQLValues
import GB28181.Platform.SQLScope
import GB28181.Base.SqlLists
import GB28181.Platform.SQLGrammar
import GB28181.Platform.SQLTables
import GB28181.Platform.WriteRequests
import GB28181.Base.Memory
import GB28181.Lib.SmartSocket
import GB28181.Lib.AdapterFrames
import GB28181.Lib.CDataStream
import GB28181.Lib.AdapterRequests
import GB28181.Lib.AdapterHandlers
import GB28181.Lib.InviteResponses
import GB28181.Lib.QueryAnswers
import GB28181.Platform.AdaptorReplies
import GB28181.Base.Xml
import GB28181.Base.XmlLines
import GB28181.Base.XmlElements
import GB28181.Platform.CatalogBodies
import GB28181.Base.Placement
import GB28181.Base.Pages
import GB28181.Platform.BodyBuilder
import GB28181.Platform.BodyBuffers
import GB28181.Platform.PageLoops
import GB28181.Platform.PageCalls
import GB28181.Platform.RecordRelease
import GB28181.Platform.PagingLaw
import GB28181.Platform.SubDeviceObjects
import GB28181.RTSPCom.MessageRouting
import GB28181.RTSPCom.Recording
import GB28181.RTSPCom.CallSetupRuns
import GB28181.RTSPCom.MessageKinds
import GB28181.RTSPCom.VideoTrack
import GB28181.RTSPCom.SessionSSRC
import GB28181.Platform.RecordSearchRuns
import GB28181.Base.KeyMoves
import GB28181.Platform.DeviceRename
import GB28181.Base.History
import GB28181.Lib.FreePort
import GB28181.Lib.MapStreamerSipID
import GB28181.Lib.PTZRequests
import GB28181.Lib.WaitList
import GB28181.Platform.SharedPackets
import GB28181.Lib.SdpObject
import GB28181.Lib.ExtractXML
import GB28181.Base.Marks
import GB28181.Lib.CatalogStates
import GB28181.Lib.RecordPages
import GB28181.Lib.StreamRoundtrip
import GB28181.Base.Base64Text
import GB28181.Base.Word32
import GB28181.Base.Store
import GB28181.GBUtils.Base64Encode
import GB28181.GBUtils.Base64Roundtrip
import GB28181.Base.Feistel
import GB28181.Base.Bitset
import GB28181.GBUtils.Des
import GB28181.Base.Chaining
import GB28181.GBUtils.DesCBC
import GB28181.Lib.StringBetween
import GB28181.SipSimulator.SipParser
import GB28181.Platform.ECClient
import GB28181.Lib.PresetQuery
import GB28181.GBUtils.DesNetwork
import GB28181.GBUtils.DesMore
import GB28181.Base.Backoff
import GB28181.Base.BlockHash
import GB28181.Base.Exchange
import GB28181.Base.StateTable
import GB28181.GBUtils.DesMoreCBC
import GB28181.GBUtils.DigestCalc
import GB28181.Osip.Contract
import GB28181.Osip.Deadlines
import GB28181.Osip.Invite
import GB28181.Osip.Lifetime
import GB28181.Osip.NonInvite
import GB28181.Osip.Retransmit
import GB28181.Base.KeyedList
import GB28181.Osip.Matching
import GB28181.Osip.Stack
