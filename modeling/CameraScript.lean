import CameraScript.FileTree
import CameraScript.Main
import CameraScript.Motion.File
import CameraScript.Proofs.File
import CameraScript.Proofs.Playback
import CameraScript.Proofs.Refusal
import CameraScript.Proofs.CameraOnly
import CameraScript.Proofs.Truncation
import CameraScript.Proofs.OptionalSections
import CameraScript.Proofs.Lines
import CameraScript.Proofs.FileOrder
import CameraScript.Proofs.RecordIndependence
import CameraScript.Proofs.UnusedData
import CameraScript.Proofs.Decoding
import CameraScript.Proofs.CommandLine
import CameraScript.Proofs.LimitedSpace
import CameraScript.Proofs.RecordCodec
import CameraScript.Proofs.CommandText
import CameraScript.Proofs.TimelinePrefix
import CameraScript.Proofs.SixDecimals
import CameraScript.Proofs.ScriptText
import CameraScript.Proofs.SectionLog
import CameraScript.Proofs.Transcript
import CameraScript.Proofs.DocumentFields
import CameraScript.Proofs.SectionArithmetic
import CameraScript.Proofs.ScriptPath
