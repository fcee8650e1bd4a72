import DirectLine.Firmware.Supply
import DirectLine.Interaction.Rehearsal

/-!
# The PRCM in a rehearsal

Its answers, and its states when requested settings are taken over at once.
-/

namespace DirectLine.Firmware.Supply

open DirectLine.Interaction Relation Acquisition

def answer (control : PowerControl) : Prcm → Word
  | .pdstat0 => BitVec.allOnes 32
  | .clkloadctl => if control.loadDone then Word.bit 32 Prcm.loadDone else 0
  | setting => control.words setting

def take (control : PowerControl) : Access → PowerControl
  | .write (.prcm .pdstat0) _ => control
  | .write (.prcm .clkloadctl) value =>
      if control.loading || Word.flag value 0 then
        { control with active := control.words, loading := false, loadDone := true }
      else control
  | .write (.prcm setting) value =>
      { control with
        words := Function.update control.words setting value
        loadDone := control.loadDone && !isClock setting }
  | _ => control

theorem exists_taken {control : PowerControl} {access : Access}
    (answered : ∀ setting value, setting ≠ .pdstat0 → access = .read (.prcm setting) value →
      value = answer control setting) :
    ∃ middle, control.access access middle ∧
      ReflTransGen PowerControl.Loads middle (take control access) := by
  cases access with
  | act action => exact ⟨control, rfl, .refl⟩
  | read register value =>
      cases register with
      | prcm setting =>
          cases setting with
          | pdstat0 => exact ⟨control, rfl, .refl⟩
          | clkloadctl =>
              obtain rfl := answered _ value (by nofun) rfl
              refine ⟨control, ⟨rfl, ?_⟩, .refl⟩
              rw [answer]
              cases control.loadDone <;> rfl
          | pdctl0 | gpioclkgr | gptclkgr | uartclkgr | gptclkdiv =>
              obtain rfl := answered _ value (by nofun) rfl
              exact ⟨control, ⟨rfl, rfl⟩, .refl⟩
      | _ => exact ⟨control, rfl, .refl⟩
  | write register value =>
      cases register with
      | prcm setting =>
          cases setting with
          | clkloadctl =>
              refine ⟨_, rfl, ?_⟩
              rw [take]
              cases requested : control.loading || Word.flag value 0 with
              | true => exact .single ⟨rfl, rfl⟩
              | false =>
                  obtain ⟨words, active, loading, loadDone⟩ := control
                  obtain rfl : loading = false := (Bool.or_eq_false_iff.mp requested).1
                  exact .refl
          | _ => exact ⟨_, rfl, .refl⟩
      | _ => exact ⟨control, rfl, .refl⟩

end DirectLine.Firmware.Supply
