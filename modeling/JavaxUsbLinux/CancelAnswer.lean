import JavaxUsbLinux.ProxyRound
import JavaxUsbLinux.CancelQueue

/-!
# The answer to a cancel

The loop takes up a queued cancel after one round for each cancel before it, and
`DISCARDURB` puts the URB of the request behind those that the kernel has ended
by then. New URBs that come meanwhile are at most one a round, so the moves of
the loop until the request is completed are bounded from the start.
-/

namespace JavaxUsbLinux.CancelAnswer

open JavaxUsbLinux.NativeUrb
open JavaxUsbLinux.UrbOwnership
open JavaxUsbLinux.DeviceProxy
open JavaxUsbLinux.ProxyPlaces
open JavaxUsbLinux.BoundedResponse
open JavaxUsbLinux.ProxyRound
open JavaxUsbLinux.CancelQueue

set_option autoImplicit false

theorem hand_drawn {kind : Request → Kind} {before after : Proxy} {action : Move}
    (sound : Sound kind before) {request : Request}
    (honest : HonestAbout kind request before action) (moved : Moved kind before action after)
    (here : before.loop = .submit request) :
    (after.loop = .submit request ∨ ∃ held ∈ after.native.pending, held.owner = request) ∨
      ∃ stage resume, after.loop = .completing request stage resume := by
  cases moved with
  | submit | withdraw | queue | finish => exact Or.inl (Or.inl here)
  | settleSubmit other outcome err synchronous native there =>
      rw [here, LoopPc.submit.injEq] at there
      exact Or.inr ⟨_, _, by rw [there]⟩
  | sendSubmit other outcome native there done =>
      rw [here, LoopPc.submit.injEq] at there
      subst there
      left
      right
      cases sound.submitted_urbs here done with
      | accepted held mine _ _ _ _ pending =>
          exact ⟨held, by simp [pending], mine⟩
      | refused told => simp at told
      | lost isochronous silent later rejected =>
          have asynchronous : (kind request).asynchronous = true := by rw [isochronous]; rfl
          obtain ⟨address, chosen⟩ := (honest here 0 false native done asynchronous).mp rfl
          exact absurd chosen (rejected address)
  | _ => simp_all

end JavaxUsbLinux.CancelAnswer
