import Typescribe.Command.Arguments
import Typescribe.Proofs.Files.Path
import Typescribe.Proofs.Step

/-!
This module contains the paths among the arguments of the command line: each of them is read from
the text of one argument.
-/

namespace Typescribe.Command

namespace Reading

variable {switches : List (String × Switch)} {reading after : Reading}

theorem isRead_path_operand (h : reading.arguments.path.IsRead) (arg : String) :
    (reading.operand arg).arguments.path.IsRead := by
  unfold operand
  split
  · exact h
  · exact ⟨arg, rfl⟩

theorem path_flag (reading : Reading) (switch : Switch) :
    (reading.flag switch).arguments.path = reading.arguments.path := by
  cases switch <;> rfl

theorem path_value {switch : Switch} {value : String}
    (h : reading.value switch value = .ok after) :
    after.arguments.path = reading.arguments.path := by
  unfold Reading.value at h
  simp only at h
  split at h
  · cases h
  · cases h
    cases switch <;> rfl

theorem path_letters {helps : Bool} {letters : List Char}
    (h : reading.letters switches helps letters = .ok after) :
    after.arguments.path = reading.arguments.path := by
  induction letters generalizing reading helps with
  | nil =>
    unfold Reading.letters at h
    split at h
    · cases h
    · cases h
      rfl
  | cons letter rest ih =>
    unfold Reading.letters at h
    split at h
    · cases h
    · split at h
      · split at h
        · cases h
        · cases h
          rfl
      · split at h
        · cases h
        · split at h
          · exact ih h
          · exact (ih h).trans (path_flag reading _)

theorem path_attached {switch : Switch} {isJoined : Bool} {value : String}
    (h : reading.attached switches switch isJoined value = .ok after) :
    after.arguments.path = reading.arguments.path := by
  unfold attached at h
  split at h
  · exact path_value h
  · split at h
    · split at h
      · exact path_letters h
      · exact (path_letters h).trans (path_flag reading switch)
    · cases h

theorem isRead_path_run {marks : List (String × Mark)}
    (start : reading.arguments.path.IsRead)
    (h : reading.run switches marks = .ok after) : after.arguments.path.IsRead := by
  -- Operands are the second and third case; in the others the path stays or the run has failed.
  fun_induction Reading.run switches reading marks with
  | case1 reading =>
    cases h
    exact start
  | case2 reading arg _ rest ih => exact ih (isRead_path_operand start arg) h
  | case3 reading arg rest _ ih => exact ih (isRead_path_operand start arg) h
  | case4 reading _ rest ih => exact ih start h
  | case5 reading _ rest ih => exact ih start h
  | case6 => cases h
  | case7 reading _ switch isJoined value rest ih =>
    obtain ⟨next, read, run⟩ := bind_eq_ok.mp h
    exact ih next (path_attached read ▸ start) run
  | case8 => cases h
  | case9 reading _ switch isJoined _ takes value rest ih =>
    obtain ⟨next, read, run⟩ := bind_eq_ok.mp h
    exact ih next (path_value read ▸ start) run
  | case10 => cases h
  | case11 reading _ switch isJoined rest _ _ ih => exact ih (path_flag reading switch ▸ start) h

end Reading

variable {arguments : Arguments}

theorem isRead_path_of_readSnapshot {hasExtra : Bool} {args : List String}
    (h : readSnapshot hasExtra args = .ok arguments) : arguments.path.IsRead := by
  unfold readSnapshot at h
  simp only at h
  split at h
  · cases h
  · obtain ⟨reading, run, h⟩ := bind_eq_ok.mp h
    split at h
    · cases h
      exact Reading.isRead_path_run ⟨"", rfl⟩ run
    · cases h

theorem isRead_path_of_readGeneral {hasExtra : Bool} {args : List String}
    (h : readGeneral hasExtra args = .ok arguments) : arguments.path.IsRead := by
  induction args generalizing hasExtra with
  | nil => cases h
  | cons arg args ih =>
    unfold readGeneral at h
    split at h
    · split at h
      · exact isRead_path_of_readSnapshot h
      · cases h
    · exact ih h
    · cases h
    · split at h
      · cases h
      · cases h
    · cases h

theorem Arguments.isRead_path_of_ofList {args : List String}
    (h : Arguments.ofList args = .ok arguments) : arguments.path.IsRead :=
  isRead_path_of_readGeneral h

end Typescribe.Command
