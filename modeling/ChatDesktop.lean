import ChatDesktop.Chat.PageFetches
import ChatDesktop.Chat.Isolation
import ChatDesktop.Chat.DisplayedRows
import ChatDesktop.Session.TokenRefresh
import ChatDesktop.Voip.Consent
import ChatDesktop.Xmpp.Reconnection
import ChatDesktop.Storage.Failures
import ChatDesktop.Storage.NamedRoots
import ChatDesktop.Network.CertificateChainValidator
import ChatDesktop.Voice.VoiceMessages
import ChatDesktop.Voice.VoiceSending
import ChatDesktop.Sending.SendOrder
import ChatDesktop.Sending.AttachmentBatches
import ChatDesktop.Sending.CancelCommit
import ChatDesktop.Library.TextFields
import ChatDesktop.Library.XmlElement
import ChatDesktop.Voip.JingleIq
import ChatDesktop.Chat.SkippedUpdate
import ChatDesktop.Chat.CacheSlots
import ChatDesktop.Session.AuthSnapshot
import ChatDesktop.Session.AuthDirectory
import ChatDesktop.Session.AuthEffects
import ChatDesktop.Session.AuthSessions
import ChatDesktop.Session.StoredLogin
import ChatDesktop.Session.LogoutTraces
import ChatDesktop.Storage.DirectoryCursor
import ChatDesktop.Storage.ScanLayout
import ChatDesktop.Network.RetryPolicy
import ChatDesktop.Storage.ScanTables
import ChatDesktop.Network.NetworkClient
import ChatDesktop.Storage.UserRecords
import ChatDesktop.Chat.RefreshRows
import ChatDesktop.Voip.MessageEncoders
import ChatDesktop.Session.LoginRepository
import ChatDesktop.Storage.Batches
import ChatDesktop.Chat.CacheBatches
import ChatDesktop.Voip.WebrtcAccess
import ChatDesktop.Chat.RoundTrip
import ChatDesktop.Chat.SelectionOrder
import ChatDesktop.Library.Hash
import ChatDesktop.Media.DownloadLinks
import ChatDesktop.Sending.BatchOutcomes
import ChatDesktop.Network.DownloadFiles
import ChatDesktop.Chat.ConversationFetches
import ChatDesktop.Voice.RecordingOutcomes
import ChatDesktop.Media.ImageSources
import ChatDesktop.Media.ImageFreshness
import ChatDesktop.Media.MediaCache
import ChatDesktop.Storage.SetPath
import ChatDesktop.Storage.Switches
import ChatDesktop.Chat.CacheStorage
import ChatDesktop.Chat.LastWrites
import ChatDesktop.Chat.ReceivedMessages
import ChatDesktop.Chat.AccountRuns
import ChatDesktop.Session.TokenValidator
import ChatDesktop.Voip.CameraCapture
import ChatDesktop.Voip.CallPermissions
import ChatDesktop.Chat.UploadViews
import ChatDesktop.Xmpp.FileUploads
import ChatDesktop.Media.EncoderRuns
import ChatDesktop.Voip.MediaOrigin
import ChatDesktop.Voip.NegotiationRuns
import ChatDesktop.Voip.CameraRuns
import ChatDesktop.Voip.RemoteVideo
import ChatDesktop.Media.PlaybackRuns
import ChatDesktop.Library.Causes
import ChatDesktop.Library.Stuttering
import ChatDesktop.Voip.CallService
import ChatDesktop.Voip.CameraConsent
import ChatDesktop.Voip.ServiceRefinement
import ChatDesktop.Voip.ServiceRuns
