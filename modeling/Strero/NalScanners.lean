import Strero.Rtsp.ServerSend
import Strero.RtmpClient.VideoFrame

/-!
# The bounds of the scanners

Four functions look for NAL units in a frame: those that send it to an RTSP client, to all
RTSP clients and to an RTMP target, and the one that extracts the parameter sets. Each
access of the frame and of the arrays for the units is checked. Here is for each function on
which frames it stays in bounds.
-/

namespace NalScanners

open FrameManager (Frame StreamParams extractStreamParams fsChnNum)
open Rtsp RtmpClient

/-- `send_frame_to_client` needs three bytes and has room for 32 units, and so does
`rtsp_server_send_frame` for each client that it sends the frame to. A search for parameter sets
needs four bytes. So does `rtmp_client_send_video_frame`, and a frame that it sends must not end
in a start code of four bytes. -/
theorem scanners_inBounds_iff (s : Sender) (channel : Fin 4) (viewers : Viewers)
    (live : LiveFrame) (params : Fin 4 → StreamParams) (source : ℕ) (target : VideoTarget)
    (calls : VideoCalls) (frame : Frame) :
    (∀ (net : Network) (clock : RtpClock) (currentTime : UInt64) (random : UInt32),
        (checkedSendFrameToClient net clock s frame channel currentTime random).isSome ↔
          (frame.data ≠ [] → s.client.state = .playing → SplitsInBounds frame.data)) ∧
    (∀ (net : Slot → Network) (hfits : live.data.length < 2 ^ 31) (sendTimes : Slot → UInt64),
        (checkedServerSendFrame net viewers live hfits sendTimes).isSome ↔
          (live.data ≠ [] → ∀ slot, live.goesTo (viewers.2 slot).client →
            SplitsInBounds live.data)) ∧
    (∀ malloc : ℕ → Bool,
        (extractStreamParams params source frame malloc).isSome ↔
          ∀ hsource : source < fsChnNum, (params ⟨source, hsource⟩).available = true ∨
            4 ≤ frame.data.length) ∧
    ((rtmpClientSendVideoFrame target frame calls).isSome ↔
      (frame.data ≠ [] → target.takesFrames calls → 4 ≤ frame.data.length ∧
        (target.goesOn (isKeyframe frame.data) (avcSequenceHeaderFromFrame frame.data).isSome
          calls = true → ¬[0, 0, 0, 1] <:+ frame.data))) := by
  refine ⟨?_, ?_, ?_, rtmpClientSendVideoFrame_isSome_iff target frame calls⟩
  · intro net clock currentTime random
    rw [checkedSendFrameToClient_eq]
    exact sendFrameToClient_isSome_iff net clock s frame.data channel currentTime random
  · intro net hfits sendTimes
    rw [checkedServerSendFrame_eq]
    exact rtspServerSendFrame_isSome_iff net viewers live sendTimes
  · intro malloc
    exact FrameManager.extractStreamParams_isSome_iff params source frame malloc

/-- A frame of 33 slices behind long start codes. -/
def manySlices : Frame :=
  ⟨(List.replicate 33 [0, 0, 0, 1, 0x65]).flatten, by decide +kernel⟩

/-- A frame whose last unit is empty. -/
def emptyUnit : Frame := ⟨[0, 0, 0, 1, 0x41, 0x9A, 0, 0, 0, 1], by decide⟩

/-- A frame of a single byte. -/
def oneByte : Frame := ⟨[0], by decide⟩

/-- A target that frames are sent to, and calls that succeed. -/
def openTarget : VideoTarget := ⟨true, 7, true, 0, 0⟩

/-- All calls succeed. -/
def goodCalls : VideoCalls := ⟨true, true, true, 0, true⟩

/-- The arrays of `send_frame_to_client` overflow, and the other functions read behind the end of
a frame. -/
theorem not_scanners_inBounds :
    checkedSendFrameToClient (fun _ _ => 0) .initial playingSender manySlices 0 0 0 = none ∧
    extractStreamParams (fun _ => ⟨none, none, false⟩) 0 oneByte (fun _ => true) = none ∧
    rtmpClientSendVideoFrame openTarget emptyUnit goodCalls = none := by
  refine ⟨?_, ?_, ?_⟩
  · decide +kernel
  · decide +kernel
  · decide +kernel

end NalScanners
