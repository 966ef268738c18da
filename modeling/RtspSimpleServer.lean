import RtspSimpleServer.Conf
import RtspSimpleServer.Path.Basic
import RtspSimpleServer.Path.Shape
import RtspSimpleServer.Path.Readers
import RtspSimpleServer.Path.OnDemand
import RtspSimpleServer.Path.Close
import RtspSimpleServer.PathManager.Basic
import RtspSimpleServer.PathManager.Resolve
import RtspSimpleServer.PathManager.Binding
import RtspSimpleServer.PathManager.Maps
import RtspSimpleServer.Core.Cleaner
import RtspSimpleServer.Core.Resources
import RtspSimpleServer.Path.Reload
import RtspSimpleServer.PathManager.Reload
import RtspSimpleServer.FormatProcessor.Basic
import RtspSimpleServer.FormatProcessor.H26x
import RtspSimpleServer.FormatProcessor.H264
import RtspSimpleServer.FormatProcessor.H265
import RtspSimpleServer.FormatProcessor.Params
import RtspSimpleServer.FormatProcessor.Depacketize
import RtspSimpleServer.FormatProcessor.Simple
import RtspSimpleServer.FormatProcessor.MPEG4Video
import RtspSimpleServer.FormatProcessor.Size
import RtspSimpleServer.Rtmp.Reader
import RtspSimpleServer.Rtmp.Join
import RtspSimpleServer.Record.FMP4
import RtspSimpleServer.Record.Track
import RtspSimpleServer.Record.H26x
import RtspSimpleServer.Record.MPEGVideo
import RtspSimpleServer.Record.AV1
import RtspSimpleServer.Record.Audio
import RtspSimpleServer.Record.Recorder
import RtspSimpleServer.Core.Metrics
import RtspSimpleServer.Stream.Readers
import RtspSimpleServer.Rtmp.Session
import RtspSimpleServer.Core.SRT
import RtspSimpleServer.Record.Agent
import RtspSimpleServer.Core.Relay
import RtspSimpleServer.Core.Timestamp
import RtspSimpleServer.Core.SRTRead
