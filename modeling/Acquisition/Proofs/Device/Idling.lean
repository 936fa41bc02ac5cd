import Mathlib
import Acquisition.Proofs.Device.Pacing

/-!
# Nothing is done twice at one time

Whatever a tick has done, a second one at the same time finds nothing due (`tick_tick`). A packet
sets the timer, an event can only be followed by its burst, and the end of a burst puts the next
event off by the rearm delay. This holds if the delay is never zero.
-/

namespace Acquisition.Device

variable {d d' : Device} {now : Nat} {f : Frame}

/-- The trigger does not fire at `now`. -/
def Unfired (d : Device) (now : Nat) : Prop :=
  ¬ (d.state.trigger.armed = true ∧ ¬ d.state.trigger.occurred = true ∧
    d.state.trigger.nextTriggerMs ≤ now)

/-- Nothing is due for a burst at `now`. -/
def Unsent (d : Device) (now : Nat) : Prop :=
  ¬ (d.state.trigger.sending = true ∧ d.dataDue now = true)

theorem fire_of_unfired (h : d.Unfired now) : d.fire now = ([], d) := by
  rw [fire]
  exact if_neg h

theorem continueBurst_of_unsent (h : d.Unsent now) : d.continueBurst now = ([], d) := by
  rw [continueBurst]
  exact if_pos (not_and_or.mp h)

theorem unfired_fire (d : Device) (now : Nat) : (d.fire now).2.Unfired now := by
  rw [fire]
  dsimp only
  split
  · rintro ⟨-, hidle, -⟩
    exact hidle rfl
  · rename_i hwaits
    exact hwaits

-- The time of a packet is not yet that of the next one.
theorem not_dataDue_of_last (hchecked : d.config.Checked) (h : d.state.lastDataMs = some now) :
    ¬ d.dataDue now = true := by
  intro hdue
  have hpos := hchecked.interval_pos
  have hlate := (dataDue_iff hchecked now).mp hdue now h
  omega

-- What is sent for a burst leaves nothing more to do.
theorem Move.atRest (hmove : Move now d f d') (hother : f.command ≠ Command.eventTriggered)
    (hmode : d.state.mode = .trigger) (h : d.Unfired now) (hchecked : d.config.Checked)
    (hrearm : 0 < d.config.triggerRearm.minMs.toNat) : d'.Unfired now ∧ d'.Unsent now := by
  have hchecked' : d'.config.Checked := hmove.keeps.1.symm ▸ hchecked
  cases hmove with
  | fire => exact absurd rfl hother
  | packet => exact ⟨h, fun hagain => not_dataDue_of_last hchecked' rfl hagain.2⟩
  | complete delay _ _ _ _ _ _ hearly =>
    refine ⟨fun hagain => ?_, fun hagain => Bool.false_ne_true hagain.1⟩
    have hnext : now + delay ≤ now := hagain.2.2
    omega
  | sample _ hcontinuous => rw [hmode] at hcontinuous; cases hcontinuous

theorem due_due (hchecked : d.config.Checked) (hrearm : 0 < d.config.triggerRearm.minMs.toNat)
    (now : Nat) : (d.due now).2.due now = ([], (d.due now).2) := by
  cases hrunning : d.state.isRunning with
  | true =>
    cases hmode : d.state.mode with
    | trigger =>
      have hunfired := d.unfired_fire now
      obtain ⟨hconfig, hrunning', hmode'⟩ := d.fire_keeps now
      rw [due_of_trigger hrunning hmode]
      generalize (d.fire now).2 = d₁ at *
      replace hrunning := hrunning'.trans hrunning
      replace hmode := hmode'.trans hmode
      rw [← hconfig] at hchecked hrearm
      -- Once the trigger does not fire, it is up to the burst.
      have hrest {d : Device} (hrunning : d.state.isRunning = true)
          (hmode : d.state.mode = .trigger) (h : d.Unfired now ∧ d.Unsent now) :
          d.due now = ([], d) := by
        rw [due_of_trigger hrunning hmode, fire_of_unfired h.1, continueBurst_of_unsent h.2]
        rfl
      rcases continueBurst_cases hchecked hrunning hmode now with
        ⟨hunsent, hnone⟩ | ⟨f, d₂, hmove, hother, hsent⟩
      · rw [hnone]
        exact hrest hrunning hmode ⟨hunfired, hunsent⟩
      · obtain ⟨-, hmode₂, hstream₂, -⟩ := hmove.keeps
        rw [hsent]
        refine hrest ?_ (hmode₂.trans hmode)
          (hmove.atRest hother hmode hunfired hchecked hrearm)
        rwa [State.isRunning, hstream₂]
    | continuous =>
      rw [due_of_continuous hrunning hmode]
      split
      · refine (due_of_continuous ?_ ?_ now).trans (if_neg (not_dataDue_of_last ?_ rfl))
        · exact hrunning
        · exact hmode
        · exact hchecked
      · rename_i hearly
        rw [due_of_continuous hrunning hmode, if_neg hearly]
  | false => rw [due_of_not_running hrunning, due_of_not_running hrunning]

theorem tick_tick (hchecked : d.config.Checked) (hrearm : 0 < d.config.triggerRearm.minMs.toNat)
    (now : Nat) (q q' : RecordQueue) :
    (d.tick now q).1.tick now q' = ((d.tick now q).1, q') := by
  simp only [tick, sendAll_eq, due_tally, due_due hchecked hrearm]
  rfl

end Acquisition.Device
