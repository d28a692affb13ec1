import PluginSandbox.Plugin.Settings
import PluginSandbox.Proofs.Json.Records

/-!
# The texts of settings

The text of settings is read as these settings, and every text that it starts with is refused, but
for the empty one, which stands for the defaults.
-/
namespace PluginSandbox.Plugin.Settings

open Json Json.Scan
open Text.Quoted (encodeChars)

/-- The characters of a member, up to what follows its value. -/
def memberChars (key value : String) (more : List Char) : List Char :=
  encodeChars key.toList ++ ':' :: (' ' :: encodeChars value.toList ++ more)

/-- The characters of the text of settings: a line for each of the two members. -/
theorem toList_render (settings : Settings) :
    settings.render.toList = '\x7b' :: (['\n', ' ', ' '] ++
      memberChars "allowCDN" settings.policy.name (',' :: ['\n', ' ', ' '] ++
        memberChars "requirejsCDN" settings.cdnUrl ['\n']) ++ ['\x7d']) := by
  simp [render, toJson, indented, indentedFrom, indentedMembers, bracketed, compact, memberChars,
    Text.Quoted.encode]

theorem byName_lookup (policy : CdnPolicy) : CdnPolicy.byName.lookup policy.name = some policy := by
  cases policy <;> rfl

/-- The text of settings is read into the fields of the settings. -/
theorem reads_render (settings : Settings) :
    Reads [] settings.render.toList [] (record "CompositeSettings" fields)
      [.policy settings.policy, .url settings.cdnUrl] := by
  have line : ∀ c ∈ ['\n', ' ', ' '], isGap c = true := List.all_eq_true.mp rfl
  have blank : ∀ c ∈ [' '], isGap c = true := List.all_eq_true.mp rfl
  have filled : fillIn
      [("requirejsCDN", .url settings.cdnUrl), ("allowCDN", .policy settings.policy)] fields =
      Pure.pure [.policy settings.policy, .url settings.cdnUrl] := rfl
  rw [toList_render]
  refine reads_record "CompositeSettings" line (fun fuel enough => ?_) filled
  obtain ⟨fuel, rfl⟩ : ∃ more, fuel = more + 3 :=
    ⟨fuel - 3, by simp only [List.length_cons, List.length_nil] at enough; omega⟩
  have policyRead : Reads [] ([' '] ++ encodeChars settings.policy.name.toList) []
      (FieldValue.policy <$> choice CdnPolicy.byName) (.policy settings.policy) :=
    (reads_choice blank (byName_lookup settings.policy)).map FieldValue.policy
  have urlRead : Reads [] ([' '] ++ encodeChars settings.cdnUrl.toList) []
      (FieldValue.url <$> text "a string") (.url settings.cdnUrl) :=
    (reads_text blank "a string" settings.cdnUrl).map FieldValue.url
  exact .member rfl rfl (reads_firstMember line) policyRead
    (.member rfl rfl (reads_nextMember line) urlRead (.noMembers (List.all_eq_true.mp rfl)))

/-- The text of settings is read as these settings. -/
theorem parse_render (settings : Settings) : parse settings.render = .ok settings := by
  have visible : settings.render.toList.all Text.isBlank = false := by
    rw [toList_render]
    rfl
  unfold parse
  rw [visible, if_neg Bool.false_ne_true, scanAll_whole (reads_render settings)]
  rfl

/-- A text that the text of settings starts with is refused, but for the empty one. -/
theorem parse_part {settings : Settings} {part : String}
    (begins : part.toList <+: settings.render.toList) (filled : part ≠ "")
    (other : part ≠ settings.render) : ∃ message, parse part = .error (.malformed message) := by
  have visible : part.toList.all Text.isBlank = false := by
    rw [toList_render] at begins
    rcases chars : part.toList with _ | ⟨first, more⟩
    · exact absurd (String.toList_eq_nil_iff.mp chars) filled
    · rw [chars] at begins
      rw [(List.cons_prefix_cons.mp begins).1]
      rfl
  obtain ⟨failure, fails⟩ := scanAll_part (reads_render settings) begins other
  unfold parse
  rw [visible, if_neg Bool.false_ne_true, fails]
  exact ⟨_, rfl⟩

end PluginSandbox.Plugin.Settings
