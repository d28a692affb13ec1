import PluginSandbox.Proofs.Json.Reads

/-!
# Records that are read

The members of an object are read into the fields of a record, each with its own scan; names and
strings are read as they are quoted.
-/
namespace PluginSandbox.Json.Scan

open Text.Quoted (encodeChars)

variable {α β : Type} {known gap text ahead more : List Char} {value : α}

/-- A string is read as it is quoted. -/
theorem reads_text (blank : ∀ c ∈ gap, isGap c = true) (expected content : String) :
    Reads known (gap ++ encodeChars content.toList) [] (Scan.text expected) content :=
  .afterGap blank (by decide) (List.append_nil _) (fun cursor => fails_failAhead _ cursor)
    ((reads_skip '"').bind (reads_stringBody content) List.nil_prefix)

/-- An alternative is read by its name. -/
theorem reads_choice (blank : ∀ c ∈ gap, isGap c = true) {choices : List (String × α)}
    {name : String} (found : choices.lookup name = some value) :
    Reads known (gap ++ encodeChars name.toList) [] (choice choices) value := by
  have named : Reads ['"'] (encodeChars name.toList) [] (Scan.text "variant identifier") name :=
    reads_text (List.forall_mem_nil _) _ _
  have chosen : Reads ['"'] (encodeChars name.toList ++ []) [] (alternative choices) value := by
    refine .located (named.bind ?_ List.nil_prefix)
    rw [found]
    exact .pure [] value
  rw [List.append_nil] at chosen
  exact .afterGap blank (by decide) (List.append_nil _) (fun cursor => fails_failAhead _ cursor)
    chosen

section Members

/-- The first member starts with a quote. -/
theorem reads_firstMember (blank : ∀ c ∈ gap, isGap c = true) :
    Reads known gap ['"'] (hasMember true) true := by
  have reads : Reads known (gap ++ []) ['"'] (hasMember true) true :=
    .afterGap blank (by decide) rfl (fun cursor => fails_failAhead _ cursor) (.pure ['"'] true)
  rwa [List.append_nil] at reads

/-- Another member starts after a comma. -/
theorem reads_nextMember (blank : ∀ c ∈ gap, isGap c = true) :
    Reads known (',' :: gap) ['"'] (hasMember false) true := by
  refine .afterGap (List.forall_mem_nil _) (by decide) rfl (fun cursor => fails_failAhead _ cursor)
    ((reads_skip ',').bind ?_ List.nil_prefix)
  rw [← List.append_nil gap]
  exact .afterGap blank (by decide) rfl (fun cursor => fails_failAhead _ cursor) (.pure ['"'] true)

/-- There are no more members before the end of the object. -/
theorem reads_noMember (blank : ∀ c ∈ gap, isGap c = true) :
    Reads known gap ['\x7d'] (hasMember false) false := by
  have reads : Reads known (gap ++ []) ['\x7d'] (hasMember false) false :=
    .afterGap blank (by decide) rfl (fun cursor => fails_failAhead _ cursor)
      (.pure ['\x7d'] false)
  rwa [List.append_nil] at reads

theorem reads_colon : Reads known [':'] [] colon () :=
  .afterGap (List.forall_mem_nil _) (by decide) (List.append_nil _)
    (fun cursor => fails_failAhead _ cursor) (reads_skip ':')

theorem reads_endObject : Reads known ['\x7d'] [] endObject () :=
  .afterGap (List.forall_mem_nil _) (by decide) (List.append_nil _)
    (fun cursor => fails_failAhead _ cursor) (reads_skip '\x7d')

variable {fields : List (Field α)} {field : Field α} {key : String}
  {read result : List (String × α)} {first : Bool} {fuel : Nat}

/-- What follows the name of a member: its value, and the members after it. -/
def afterName (fields : List (Field α)) (fuel : Nat) (read : List (String × α)) (key : String) :
    Scan (List (String × α)) :=
  match fields.find? (·.name == key) with
  | some field =>
    if (read.lookup key).isSome then refuse s!"duplicate field `{key}`"
    else do
      colon
      let value ← field.read
      recordMembers fields fuel false ((key, value) :: read)
  | none => do
    colon
    skipValue ((← Scan.remaining) + 1) []
    recordMembers fields fuel false read

theorem recordMembers_succ (fields : List (Field α)) (fuel : Nat) (first : Bool)
    (read : List (String × α)) :
    recordMembers fields (fuel + 1) first read = (do
      if ← hasMember first then
        skip
        afterName fields fuel read (← stringBody)
      else return read) :=
  rfl

/-- A member is read into the field of its name. -/
theorem Reads.member (found : fields.find? (·.name == key) = some field)
    (new : (read.lookup key).isSome = false) (starts : Reads known gap ['"'] (hasMember first) true)
    (content : Reads [] text [] field.read value)
    (rest : Reads [] more ahead (recordMembers fields fuel false ((key, value) :: read)) result) :
    Reads known (gap ++ (encodeChars key.toList ++ ':' :: (text ++ more))) ahead
      (recordMembers fields (fuel + 1) first read) result := by
  have after : Reads [] (':' :: (text ++ more)) ahead (afterName fields fuel read key) result := by
    unfold afterName
    rw [found]
    dsimp only
    rw [new, if_neg Bool.false_ne_true]
    exact reads_colon.bind (content.bind rest List.nil_prefix) List.nil_prefix
  have named : Reads [] (key.toList.flatMap Text.Quoted.encodeChar ++ ['"'] ++
      ':' :: (text ++ more)) ahead (stringBody >>= afterName fields fuel read) result :=
    (reads_stringBody key).bind after List.nil_prefix
  have quoted : Reads ['"'] (encodeChars key.toList ++ ':' :: (text ++ more)) ahead (do
      skip
      afterName fields fuel read (← stringBody)) result :=
    (reads_skip '"').bind named List.nil_prefix
  rw [recordMembers_succ]
  exact starts.bind quoted ⟨_, rfl⟩

/-- The members end before the end of the object. -/
theorem Reads.noMembers (blank : ∀ c ∈ gap, isGap c = true) :
    Reads known gap ['\x7d'] (recordMembers fields (fuel + 1) false read) read := by
  have reads : Reads known (gap ++ []) ['\x7d'] (recordMembers fields (fuel + 1) false read) read :=
    (reads_noMember blank).bind (.pure ['\x7d'] read) ⟨[], rfl⟩
  rwa [List.append_nil] at reads

/-- A text that ends before the first member is refused. -/
theorem recordMembers_end (blank : ∀ c ∈ gap, isGap c = true) (offset : Nat) :
    Fails (recordMembers fields (fuel + 1) true read) ⟨gap, offset⟩ := by
  have starts : Reads [] gap ['"'] (hasMember true) true := reads_firstMember blank
  refine Fails.bind (starts.part gap offset List.nil_prefix (List.prefix_append _ _) ?_) _
  exact fun same => List.cons_ne_nil _ _ (List.self_eq_append_right.mp same)

/-- A record is read from the members of an object. -/
theorem reads_record {members : List Char} {values : List α} (typeName : String)
    (blank : ∀ c ∈ gap, isGap c = true)
    (reads : ∀ fuel, gap.length + 1 < fuel →
      Reads [] (gap ++ members) ['\x7d'] (recordMembers fields fuel true []) read)
    (filled : fillIn read fields = Pure.pure values) :
    Reads known ('\x7b' :: (gap ++ members ++ ['\x7d'])) [] (record typeName fields) values := by
  have filling : Reads ['\x7d'] [] ['\x7d'] (fillIn read fields) values := by
    rw [filled]
    exact .pure ['\x7d'] values
  have body : Reads [] (gap ++ members) ['\x7d'] (Scan.remaining >>= fun count =>
      recordMembers fields (count + 1) true [] >>= fun read => fillIn read fields) values := by
    refine .remaining (gap.length + 1) ?_ (fun count enough => ?_)
      fun count part offset short begins => ?_
    · simp only [List.length_append, List.length_singleton]
      omega
    · have both : Reads [] (gap ++ members ++ []) ['\x7d']
          (recordMembers fields (count + 1) true [] >>= fun read => fillIn read fields) values :=
        (reads (count + 1) (Nat.lt_succ_of_le enough)).bind filling (List.prefix_refl _)
      rwa [List.append_nil] at both
    · rw [List.append_assoc] at begins
      have within : part <+: gap :=
        List.prefix_of_prefix_length_le begins (List.prefix_append _ _) (Nat.le_of_lt_succ short)
      exact (recordMembers_end (fun c member => blank c (within.subset member)) offset).bind _
  have closed : Reads [] (gap ++ members ++ ['\x7d']) [] (closedBy (do
      fillIn (← recordMembers fields ((← Scan.remaining) + 1) true []) fields) endObject) values :=
    body.closedBy reads_endObject (List.prefix_refl _)
  exact .located (.afterGap (List.forall_mem_nil _) (by decide) rfl
    (fun cursor => fails_failAhead _ cursor) ((reads_skip '\x7b').bind closed List.nil_prefix))

end Members

end Scan

section Whole

open Scan (Fails Reads)

variable {α : Type} {scan : Scan α} {value : α} {text : String}

/-- A text that a scan reads is read as a whole. -/
theorem scanAll_whole (reads : Reads [] text.toList [] scan value) :
    scanAll scan text = .ok value := by
  obtain ⟨after, runs⟩ := reads.whole [] 0
  rw [List.nil_append, List.append_nil] at runs
  unfold scanAll
  dsimp only
  rw [Scan.run_bind_of_ok runs]
  rfl

/-- A text that breaks off before is refused. -/
theorem scanAll_part (reads : Reads [] text.toList [] scan value) {part : String}
    (begins : part.toList <+: text.toList) (other : part ≠ text) :
    ∃ failure, scanAll scan part = .error failure := by
  have short : part.toList ≠ text.toList ++ [] := by
    rw [List.append_nil]
    exact fun same => other (String.toList_injective same)
  obtain ⟨failure, after, runs⟩ := (reads.part part.toList 0 List.nil_prefix
    (by rwa [List.append_nil]) short).bind _
  exact ⟨failure, congrArg Prod.fst runs⟩

end Whole

end PluginSandbox.Json
