import Ancora.Lib.Machine
import Ancora.Lib.Conduit
import Ancora.Lib.Stream
import Ancora.Lib.Traced
import Ancora.Lib.CArray
import Ancora.Lib.CText
import Ancora.LocEng.Deferred
import Ancora.LocEng.Events
import Ancora.LocEng.Status
import Ancora.LocEng.Stop
import Ancora.LocEng.Ni
import Ancora.LocApi.Ledger
import Ancora.LocApi.Replies
import Ancora.LocApi.SlotOwner
import Ancora.Rpc.Buffer
import Ancora.Rpc.Deadlock
import Ancora.Xdr.Buffer
import Ancora.Xdr.Codec
import Ancora.Xdr.Types
import Ancora.LocApi.EventRoutines
import Ancora.Xdr.RoundTrip
import Ancora.Xdr.Sizes
import Ancora.Xdr.Storage
import Ancora.Xdr.Cursors
import Ancora.Xdr.Blocks
import Ancora.Xdr.Agreement
import Ancora.LocApi.EventStorage
import Ancora.LocApi.EventPayload
import Ancora.LocApi.IoctlTypes
import Ancora.LocApi.IoctlRoundTrip
import Ancora.LocEng.Pieces
import Ancora.LocEng.WakeLock
import Ancora.LocEng.Xtra
import Ancora.LocEng.XtraUpload
import Ancora.LocEng.Aiding
import Ancora.LocEng.Atl
import Ancora.LocEng.AtlAnswers
import Ancora.LocEng.Mute
import Ancora.LocApi.Glue
import Ancora.LocEng.Lifecycle
import Ancora.Rpc.Message
import Ancora.Rpc.Reply
import Ancora.Rpc.OwnReply
import Ancora.Rpc.Headers
import Ancora.LocApi.GlueTable
import Ancora.Rpc.Poll
import Ancora.Rpc.WakeLock
import Ancora.LocEng.NiThreads
import Ancora.LocEng.NiPassBack
import Ancora.LocEng.Server
import Ancora.LocEng.Copies
import Ancora.Rpc.Clients
import Ancora.Rpc.Registry
import Ancora.Ril.NetworkType
import Ancora.Ril.Answers
import Ancora.Ril.CatCommand
import Ancora.LocEng.Incoming
import Ancora.LocEng.Satellites
import Ancora.LocEng.NiText
import Ancora.LocEng.Config
import Ancora.Camera.Registry
import Ancora.Camera.Device
import Ancora.Camera.MsgTypes
import Ancora.Camera.Frames
import Ancora.LocApi.SlotFlag
import Ancora.LocEng.NiAddress
import Ancora.LocEng.TrimSpace
import Ancora.Lib.JavaString
import Ancora.Ril.Nitz
import Ancora.Ril.Solicited
import Ancora.Jpeg.Save
import Ancora.Lib.Block
import Ancora.Lib.Bsearch
import Ancora.Lib.Sweep
import Ancora.Lib.Qsort
import Ancora.Exif.Utils
import Ancora.Exif.Tag
import Ancora.Exif.Entry
import Ancora.Exif.Content
import Ancora.Exif.Data
import Ancora.Exif.Save
import Ancora.Exif.Load
import Ancora.Exif.Mnote
import Ancora.Exif.MnoteData
import Ancora.Exif.MnoteFormat
import Ancora.Exif.RoundTrip
import Ancora.Exif.Loader
import Ancora.Jpeg.Load
import Ancora.Jpeg.ExifFile
