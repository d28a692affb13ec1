import Mathlib.Logic.Function.Basic
import PluginSandbox.CommandLine.Commands
import PluginSandbox.Proofs.Consent.SettingsTexts

/-!
# Decisions whose writing stops

A decision is written to the file of the settings in three steps: the file is created, which
empties it, it gets the bytes of the new text, and they are made to last. Each of them may fail. The
settings of the running program then stay as they were, but the file does not: it reads as the
settings from before only if it was not created, as the defaults if it is still empty, and not at all
if it holds some of the bytes.
-/
namespace PluginSandbox.CommandLine

open Host (FileError)
open Plugin Script

/-- The step at which the writing of a file fails. -/
inductive Step where
  /-- The file is not created, and what was there stays. -/
  | creating
  /-- The file is created and gets so many bytes at most. -/
  | writing (bytes : Nat)
  /-- The file has all its bytes, but they may not last. -/
  | syncing

/-- A failure to write a file. -/
structure Stop where
  /-- Where it happens. -/
  step : Step
  /-- What the system tells. -/
  error : FileError

/-- The bytes of the files at their paths. -/
abbrev Disk := String → Option ByteArray

namespace Disk

/-- The text of the file at a path. -/
def read (disk : Disk) (path : String) : Except FileError String :=
  match disk path with
  | none => .error .notFound
  | some bytes =>
    match String.fromUTF8? bytes with
    | some text => .ok text
    | none => .error .notText

/-- The disk on which a file holds some bytes. -/
def put (disk : Disk) (path : String) (bytes : ByteArray) : Disk :=
  Function.update disk path (some bytes)

/-- What writing a text to a file leads to, and the disk afterwards. -/
def write (disk : Disk) (path text : String) : Option Stop → Except FileError Unit × Disk
  | none => (.ok (), disk.put path text.toUTF8)
  | some ⟨.creating, error⟩ => (.error error, disk)
  | some ⟨.writing bytes, error⟩ => (.error error, disk.put path (text.toUTF8.extract 0 bytes))
  | some ⟨.syncing, error⟩ => (.error error, disk.put path text.toUTF8)

/-- The answer to a command, and the disk afterwards. Nothing is typed in. -/
def answer (stop? : Option Stop) (disk : Disk) : (command : Command) → command.Result × Disk
  | .readFile path => (disk.read path, disk)
  | .writeFile path text => disk.write path text stop?
  | .readLine => ("", disk)
  | .print _ | .printError _ => ((), disk)

end Disk

/-- Runs a program on a disk whose writes stop where they are told to. -/
def Program.runOn {α : Type} (stop? : Option Stop) (program : Program α) (disk : Disk) : α × Disk :=
  match program with
  | .done value => (value, disk)
  | .step command next =>
    let (result, disk) := disk.answer stop? command
    (next result).runOn stop? disk

namespace Disk

/-- The settings that the file at a path opens with. -/
def settings (disk : Disk) (path : String) : Except SettingsError Settings :=
  ((openSettings (some path)).runOn none disk).1

/-- What a decision leads to, the state afterwards and the disk afterwards. -/
def decided (disk : Disk) (path : String) (state : State) (policy : CdnPolicy)
    (stop? : Option Stop) : (Except SettingsError Unit × State) × Disk :=
  (persistDecision (some path) policy state).runOn stop? disk

variable {disk : Disk} {path : String} {state : State} {policy : CdnPolicy} {bytes : ByteArray}

theorem settings_eq (disk : Disk) (path : String) :
    disk.settings path = (SettingsFile.ofRead path (disk.read path)).map SettingsFile.settings :=
  rfl

/-- A file with a text opens with the settings that the text stands for. -/
theorem settings_of_text {text : String} (held : disk path = some bytes)
    (readable : String.fromUTF8? bytes = some text) :
    disk.settings path = Settings.parse text := by
  rw [settings_eq, read, held]
  dsimp only
  rw [readable]
  change (do return ⟨path, ← Settings.parse text⟩ : Except SettingsError SettingsFile).map
    SettingsFile.settings = _
  cases Settings.parse text <;> rfl

/-- A file that holds no text does not open. -/
theorem settings_of_unreadable (held : disk path = some bytes)
    (unreadable : String.fromUTF8? bytes = none) :
    disk.settings path = .error (.file FileError.notText.message) := by
  rw [settings_eq, read, held]
  dsimp only
  rw [unreadable]
  rfl

theorem put_self (disk : Disk) (path : String) (bytes : ByteArray) :
    disk.put path bytes path = some bytes := by
  rw [put, Function.update_self]

/-- The bytes of a text are those of no other text. -/
theorem decodes_text (text : String) : String.fromUTF8? text.toUTF8 = some text := by
  rw [String.toUTF8_eq_toByteArray, String.fromUTF8?, dif_pos text.isValidUTF8]
  rfl

/-- The first bytes of a text are a text only if they end where a character does. -/
theorem split_of_extract {text part : String} {count : Nat} (short : count < text.utf8ByteSize)
    (readable : String.fromUTF8? (text.toUTF8.extract 0 count) = some part) :
    part.utf8ByteSize = count ∧ ∃ rest, text = part ++ rest := by
  rw [String.toUTF8_eq_toByteArray, String.fromUTF8?] at readable
  split at readable
  case isFalse => cases readable
  case isTrue valid =>
    have cut : part.toByteArray = text.toByteArray.extract 0 count := by
      rw [← Option.some.inj readable]
      rfl
    have within : (⟨count⟩ : String.Pos.Raw) ≤ text.rawEndPos :=
      String.Pos.Raw.le_iff.mpr (Nat.le_of_lt short)
    obtain ⟨first, rest, splits, ends⟩ := String.Pos.Raw.isValid_iff_exists_append.mp
      (String.Pos.Raw.isValid_iff_isValidUTF8_extract_zero.mpr ⟨within, valid⟩)
    have size : count = first.utf8ByteSize := congrArg String.Pos.Raw.byteIdx ends
    have same : part = first := by
      rw [← String.toByteArray_inj, cut, splits, String.toByteArray_append, size]
      exact ByteArray.extract_append_eq_left rfl
    exact ⟨same ▸ size.symm, rest, same ▸ splits⟩

/-- A file that holds only some of the bytes of settings does not open. -/
theorem settings_of_part {settings : Settings} {count : Nat} (positive : 0 < count)
    (short : count < settings.render.utf8ByteSize)
    (held : disk path = some (settings.render.toUTF8.extract 0 count)) :
    ∃ error, disk.settings path = .error error := by
  cases readable : String.fromUTF8? (settings.render.toUTF8.extract 0 count) with
  | none => exact ⟨_, settings_of_unreadable held readable⟩
  | some part =>
    obtain ⟨size, rest, splits⟩ := split_of_extract short readable
    have begins : part.toList <+: settings.render.toList := by
      rw [splits, String.toList_append]
      exact List.prefix_append _ _
    have filled : part ≠ "" := by
      rintro rfl
      exact absurd size (Nat.ne_of_lt positive)
    have other : part ≠ settings.render := by
      rintro rfl
      exact absurd size (Nat.ne_of_gt short)
    obtain ⟨message, refused⟩ := Settings.parse_part begins filled other
    exact ⟨_, (settings_of_text held readable).trans refused⟩

/-- A file that holds the text of settings opens with them. -/
theorem settings_of_render {settings : Settings}
    (held : disk path = some settings.render.toUTF8) : disk.settings path = .ok settings :=
  (settings_of_text held (decodes_text _)).trans (Settings.parse_render settings)

/-- A decision that was written is in force. -/
theorem decided_of_written {stop? : Option Stop} {after : Disk}
    (written : disk.write path { state.settings with policy }.render stop? = (.ok (), after)) :
    disk.decided path state policy stop? =
      ((.ok (), { state with settings := { state.settings with policy } }), after) := by
  simp only [decided, persistDecision, bind, Program.bind, Program.perform, Program.runOn, answer,
    SettingsFile.textFor, SettingsFile.updated, written, SettingsFile.afterWrite]
  rfl

/-- A decision whose writing stopped changes nothing but the disk. -/
theorem decided_of_stopped {stop? : Option Stop} {error : FileError} {after : Disk}
    (stopped : disk.write path { state.settings with policy }.render stop? = (.error error, after)) :
    disk.decided path state policy stop? = ((.error (.file error.message), state), after) := by
  simp only [decided, persistDecision, bind, Program.bind, Program.perform, Program.runOn, answer,
    SettingsFile.textFor, SettingsFile.updated, stopped, SettingsFile.afterWrite]
  rfl

end Disk

/-- A decision whose writing does not fail is in force in the running program and in the file, with
the same address as before. One whose writing fails is reported and leaves the running program as it
was. The file then opens with the settings from before if it could not be created; with the defaults
if it is still empty; not at all if it holds some of the bytes; and with the new settings if it
holds all of them. -/
theorem decision_after_stop {disk : Disk} {path : String} (state : State) (policy : CdnPolicy)
    (opens : disk.settings path = .ok state.settings) :
    let updated : Settings := { state.settings with policy }
    let decided := disk.decided path state policy
    ((decided none).1 = (.ok (), { state with settings := updated }) ∧
      (decided none).2.settings path = .ok updated) ∧
    ∀ error,
      (∀ step, (decided (some ⟨step, error⟩)).1 = (.error (.file error.message), state)) ∧
      (decided (some ⟨.creating, error⟩)).2.settings path = .ok state.settings ∧
      (decided (some ⟨.writing 0, error⟩)).2.settings path = .ok {} ∧
      (∀ bytes, 0 < bytes → bytes < updated.render.utf8ByteSize →
        ∃ problem, (decided (some ⟨.writing bytes, error⟩)).2.settings path = .error problem) ∧
      (∀ bytes, updated.render.utf8ByteSize ≤ bytes →
        (decided (some ⟨.writing bytes, error⟩)).2.settings path = .ok updated) ∧
      (decided (some ⟨.syncing, error⟩)).2.settings path = .ok updated := by
  intro updated decided
  have done : decided none = ((.ok (), { state with settings := updated }),
      disk.put path updated.render.toUTF8) :=
    Disk.decided_of_written rfl
  have created (error : FileError) : decided (some ⟨.creating, error⟩) =
      ((.error (.file error.message), state), disk) :=
    Disk.decided_of_stopped rfl
  have written (error : FileError) (bytes : Nat) : decided (some ⟨.writing bytes, error⟩) =
      ((.error (.file error.message), state),
        disk.put path (updated.render.toUTF8.extract 0 bytes)) :=
    Disk.decided_of_stopped rfl
  have synced (error : FileError) : decided (some ⟨.syncing, error⟩) =
      ((.error (.file error.message), state), disk.put path updated.render.toUTF8) :=
    Disk.decided_of_stopped rfl
  have reopens : (disk.put path updated.render.toUTF8).settings path = .ok updated :=
    Disk.settings_of_render (Disk.put_self _ _ _)
  refine ⟨by rw [done]; exact ⟨rfl, reopens⟩, fun error => ⟨fun step => ?_, ?_, ?_, ?_, ?_, ?_⟩⟩
  · cases step with
    | creating => rw [created]
    | writing bytes => rw [written]
    | syncing => rw [synced]
  · rw [created]
    exact opens
  · rw [written]
    exact Disk.settings_of_text (Disk.put_self _ _ _) (Disk.decodes_text "")
  · intro bytes positive short
    rw [written]
    exact Disk.settings_of_part positive short (Disk.put_self _ _ _)
  · intro bytes all
    have whole : updated.render.toUTF8.extract 0 bytes = updated.render.toUTF8 := by
      rw [← Nat.max_eq_left all]
      exact ByteArray.extract_zero_max_size
    rw [written, whole]
    exact reopens
  · rw [synced]
    exact reopens

/-- A file that forbids the network does not open any more if it was cut off after thirty bytes. -/
theorem decision_after_stop_forbidden :
    let kept : Settings := { policy := .never }
    let disk : Disk := Disk.put (fun _ => none) "settings.json" kept.render.toUTF8
    disk.settings "settings.json" = .ok kept ∧
      ∃ problem, (disk.decided "settings.json" { settings := kept } .alwaysInsecure
        (some ⟨.writing 30, .system "No space left on device" 28⟩)).2.settings "settings.json" =
          .error problem := by
  intro kept disk
  have opens : disk.settings "settings.json" = .ok kept :=
    Disk.settings_of_render (Disk.put_self _ _ _)
  have long : 30 < ({ kept with policy := .alwaysInsecure } : Settings).render.utf8ByteSize := by
    decide
  obtain ⟨-, stopped⟩ := decision_after_stop { settings := kept } .alwaysInsecure opens
  obtain ⟨-, -, -, part, -, -⟩ := stopped (.system "No space left on device" 28)
  exact ⟨opens, part 30 (by decide) long⟩

/-- A failure to write the decision for the network loses the one against it: the file is empty, and
a program that starts with it asks again. -/
theorem decision_lost :
    let kept : Settings := { policy := .never }
    let disk : Disk := Disk.put (fun _ => none) "settings.json" kept.render.toUTF8
    let decided := disk.decided "settings.json" { settings := kept } .alwaysInsecure
      (some ⟨.writing 0, .system "No space left on device" 28⟩)
    disk.settings "settings.json" = .ok kept ∧
      decided.1.1 = .error (.file "No space left on device (os error 28)") ∧
      decided.1.2.settings = kept ∧
      decided.2.settings "settings.json" = .ok { policy := .awaitingDecision } := by
  intro kept disk decided
  refine ⟨Disk.settings_of_render (Disk.put_self _ _ _), ?_, rfl, ?_⟩
  · rfl
  · exact Disk.settings_of_text (Disk.put_self _ _ _) (Disk.decodes_text "")

end PluginSandbox.CommandLine
