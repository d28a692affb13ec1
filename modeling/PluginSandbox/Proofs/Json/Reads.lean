import Mathlib.Data.List.Infix
import Mathlib.Data.List.TakeWhile
import PluginSandbox.Json.Record

/-!
# What a scan reads

A scan that reads a text gives a value for it, whatever follows, and fails at the end of every text
that breaks off before. A scan may look at what comes next without taking it, and it may rely on
what was looked at before.
-/
namespace PluginSandbox.Json.Scan

variable {α β : Type}

section Runs

variable {scan : Scan α} {cursor after : Cursor} {value : α}

theorem run_bind (first : Scan α) (next : α → Scan β) (cursor : Cursor) :
    (first >>= next).run cursor =
      match first.run cursor with
      | (.ok value, after) => (next value).run after
      | (.error failure, after) => (.error failure, after) := by
  rcases ran : first.run cursor with ⟨outcome, after⟩
  have runs : first cursor = (outcome, after) := ran
  simp only [ExceptT.run, ExceptT.mk, bind, ExceptT.bind, StateT.bind, runs]
  cases outcome <;> rfl

theorem run_tryCatch (scan : Scan α) (handle : Failure → Scan α) (cursor : Cursor) :
    (tryCatch scan handle : Scan α).run cursor =
      match scan.run cursor with
      | (.ok value, after) => (.ok value, after)
      | (.error failure, after) => (handle failure).run after := by
  rcases ran : scan.run cursor with ⟨outcome, after⟩
  have runs : scan cursor = (outcome, after) := ran
  simp only [tryCatch, tryCatchThe, MonadExceptOf.tryCatch, ExceptT.tryCatch, ExceptT.run,
    ExceptT.mk, bind, StateT.bind, runs]
  cases outcome <;> rfl

theorem run_closedBy (body : Scan α) (closing : Scan Unit) (cursor : Cursor) :
    (closedBy body closing).run cursor =
      match body.run cursor with
      | (.ok value, after) =>
        match closing.run after with
        | (.ok _, last) => (.ok value, last)
        | (.error failure, last) => (.error failure, last)
      | (.error failure, after) => (.error failure, (closing.run after).2) := by
  rcases ran : body.run cursor with ⟨outcome, after⟩
  rcases ended : closing.run after with ⟨closed, last⟩
  change closedBy body closing cursor = _
  unfold closedBy
  cases outcome <;> cases closed <;> simp only [ran, ended]

theorem run_bind_of_ok (runs : scan.run cursor = (.ok value, after)) (next : α → Scan β) :
    (scan >>= next).run cursor = (next value).run after := by
  rw [run_bind, runs]

theorem run_get (cursor : Cursor) : (get : Scan Cursor).run cursor = (.ok cursor, cursor) := rfl

/-- Whether a scan ends in a failure. -/
def Fails (scan : Scan α) (cursor : Cursor) : Prop :=
  ∃ failure after, scan.run cursor = (.error failure, after)

theorem fails_failHere (cause : Cause) (cursor : Cursor) : Fails (failHere cause : Scan α) cursor :=
  ⟨_, _, rfl⟩

theorem fails_failAhead (cause : Cause) (cursor : Cursor) :
    Fails (failAhead cause : Scan α) cursor :=
  ⟨_, _, rfl⟩

theorem Fails.bind (fails : Fails scan cursor) (next : α → Scan β) :
    Fails (scan >>= next) cursor := by
  obtain ⟨failure, after, runs⟩ := fails
  exact ⟨failure, after, by rw [run_bind, runs]⟩

theorem Fails.bind_of_ok {next : α → Scan β} (runs : scan.run cursor = (.ok value, after))
    (fails : Fails (next value) after) : Fails (scan >>= next) cursor := by
  obtain ⟨failure, last, ends⟩ := fails
  exact ⟨failure, last, by rw [run_bind_of_ok runs, ends]⟩

end Runs

/-- Whether a scan takes a text, looks at what is ahead of it and gives a value. -/
structure Reads (known text ahead : List Char) (scan : Scan α) (value : α) : Prop where
  /-- The value is given whatever follows. -/
  whole : ∀ rest offset, ∃ after,
    scan.run ⟨text ++ (ahead ++ rest), offset⟩ = (.ok value, ⟨ahead ++ rest, after⟩)
  /-- A text that has what is known already, and breaks off later, is refused. -/
  part : ∀ part offset, known <+: part → part <+: text ++ ahead → part ≠ text ++ ahead →
    Fails scan ⟨part, offset⟩

section Combining

variable {known text ahead text' ahead' : List Char} {scan : Scan α} {value : α} {result : β}

/-- A scan that takes nothing relies on what is ahead. -/
theorem Reads.pure (ahead : List Char) (value : α) :
    Reads ahead [] ahead (Pure.pure value : Scan α) value :=
  ⟨fun _ _ => ⟨_, rfl⟩, fun _ _ present begins other =>
    absurd (begins.eq_of_length_le present.length_le) other⟩

/-- What a text that breaks off inside of two pieces has of them: not all of the first one, or all
of it and not all of the second one. -/
theorem part_cases {part : List Char} (begins : part <+: text ++ text')
    (other : part ≠ text ++ text') :
    (part <+: text ∧ part ≠ text) ∨
      ∃ more, part = text ++ more ∧ more <+: text' ∧ more ≠ text' := by
  rcases List.prefix_or_prefix_of_prefix begins (List.prefix_append text text') with
    within | ⟨more, rfl⟩
  · by_cases same : part = text
    · subst same
      refine .inr ⟨[], (List.append_nil _).symm, List.nil_prefix, ?_⟩
      rintro rfl
      exact other (List.append_nil _).symm
    · exact .inl ⟨within, same⟩
  · refine .inr ⟨more, rfl, (List.prefix_append_right_inj text).mp begins, ?_⟩
    rintro rfl
    exact other rfl

/-- Two scans read one text after the other, and the second one may rely on what the first one has
looked at. -/
theorem Reads.combine {later : Scan β} {both : Scan β}
    (first : Reads known text ahead scan value) (second : Reads ahead text' ahead' later result)
    (looked : ahead <+: text' ++ ahead')
    (goesOn : ∀ cursor after, scan.run cursor = (.ok value, after) →
      both.run cursor = later.run after)
    (stops : ∀ cursor, Fails scan cursor → Fails both cursor) :
    Reads known (text ++ text') ahead' both result := by
  obtain ⟨unseen, split⟩ := looked
  refine ⟨fun rest offset => ?_, fun part offset present begins other => ?_⟩
  · obtain ⟨after, runs⟩ := first.whole (unseen ++ rest) offset
    obtain ⟨last, ends⟩ := second.whole rest after
    have same : text' ++ (ahead' ++ rest) = ahead ++ (unseen ++ rest) := by
      rw [← List.append_assoc, ← split, List.append_assoc]
    rw [← same] at runs
    exact ⟨last, by rw [List.append_assoc, goesOn _ _ runs, ends]⟩
  · rw [List.append_assoc, ← split, ← List.append_assoc] at begins other
    rcases part_cases begins other with ⟨within, short⟩ | ⟨more, rfl, within, short⟩
    · exact stops _ (first.part part offset present within short)
    · obtain ⟨after, runs⟩ := first.whole more offset
      rw [← List.append_assoc] at runs
      obtain ⟨failure, last, ends⟩ := second.part (ahead ++ more) after (List.prefix_append _ _)
        (split ▸ (List.prefix_append_right_inj ahead).mpr within)
        (split ▸ fun same => short (List.append_cancel_left same))
      exact ⟨failure, last, by rw [goesOn _ _ runs, ends]⟩

/-- A scan that goes on after another one reads its text after that of the first one. -/
theorem Reads.bind {next : α → Scan β} (first : Reads known text ahead scan value)
    (second : Reads ahead text' ahead' (next value) result) (looked : ahead <+: text' ++ ahead') :
    Reads known (text ++ text') ahead' (scan >>= next) result :=
  first.combine second looked (fun _ _ runs => run_bind_of_ok runs next)
    fun _ fails => fails.bind next

theorem Reads.map (reads : Reads known text ahead scan value) (f : α → β) :
    Reads known text ahead (f <$> scan) (f value) := by
  have mapped : Reads known (text ++ []) ahead (scan >>= fun value => Pure.pure (f value))
      (f value) :=
    reads.bind (.pure ahead (f value)) (by rw [List.nil_append])
  rw [List.append_nil] at mapped
  exact mapped

/-- What closes a scan is read after it. -/
theorem Reads.closedBy {closing : Scan Unit} (first : Reads known text ahead scan value)
    (second : Reads ahead text' ahead' closing ()) (looked : ahead <+: text' ++ ahead') :
    Reads known (text ++ text') ahead' (closedBy scan closing) value := by
  have closes : Reads ahead (text' ++ []) ahead' (closing >>= fun _ => Pure.pure value) value :=
    second.bind (.pure ahead' value) (by rw [List.nil_append])
  rw [List.append_nil] at closes
  refine first.combine closes looked (fun cursor after runs => ?_) fun cursor fails => ?_
  · rw [run_closedBy, runs, run_bind]
    dsimp only
    rcases closing.run after with ⟨closed, last⟩
    cases closed <;> rfl
  · obtain ⟨failure, after, runs⟩ := fails
    exact ⟨failure, _, by rw [run_closedBy, runs]⟩

theorem Reads.located (reads : Reads known text ahead scan value) :
    Reads known text ahead (located scan) value := by
  refine ⟨fun rest offset => ?_, fun part offset present begins other => ?_⟩
  · obtain ⟨after, runs⟩ := reads.whole rest offset
    exact ⟨after, by rw [Scan.located, run_tryCatch, runs]⟩
  · obtain ⟨failure, after, runs⟩ := reads.part part offset present begins other
    unfold Fails
    rw [Scan.located, run_tryCatch, runs]
    dsimp only
    cases failure.offset <;> exact ⟨_, _, rfl⟩

/-- A scan that is told how much is left may be told any number that the text allows. -/
theorem Reads.remaining {scan : Nat → Scan α} (least : Nat) (long : least ≤ (text ++ ahead).length)
    (reads : ∀ count, least ≤ count → Reads known text ahead (scan count) value)
    (short : ∀ count part offset, part.length < least → part <+: text ++ ahead →
      Fails (scan count) ⟨part, offset⟩) :
    Reads known text ahead (Scan.remaining >>= scan) value := by
  have asks (cursor : Cursor) : (Scan.remaining : Scan Nat).run cursor =
      (.ok cursor.rest.length, cursor) := rfl
  refine ⟨fun rest offset => ?_, fun part offset present begins other => ?_⟩
  · have enough : least ≤ (text ++ (ahead ++ rest)).length := by
      rw [← List.append_assoc, List.length_append]
      omega
    obtain ⟨after, runs⟩ := (reads _ enough).whole rest offset
    exact ⟨after, by rw [run_bind_of_ok (asks _), runs]⟩
  · by_cases enough : least ≤ part.length
    · exact .bind_of_ok (asks _) ((reads _ enough).part part offset present begins other)
    · exact .bind_of_ok (asks _) (short _ part offset (by omega) begins)

theorem reads_skip (c : Char) : Reads [c] [c] [] skip () :=
  ⟨fun _ _ => ⟨_, rfl⟩, fun _ _ present begins other =>
    absurd (begins.eq_of_length_le present.length_le) other⟩

/-- Whether a character may stand between tokens. -/
def isGap (c : Char) : Bool := c == ' ' || c == '\n' || c == '\t' || c == '\r'

theorem run_nextToken (chars : List Char) (offset : Nat) :
    ∃ after, nextToken.run ⟨chars, offset⟩ =
      (.ok (chars.dropWhile isGap).head?, ⟨chars.dropWhile isGap, after⟩) :=
  ⟨_, rfl⟩

theorem nextToken_gap {gap : List Char} (blank : ∀ c ∈ gap, isGap c = true) (offset : Nat) :
    ∃ after, nextToken.run ⟨gap, offset⟩ = (.ok none, ⟨[], after⟩) := by
  have passed : gap.dropWhile isGap = [] := List.dropWhile_eq_nil_iff.mpr blank
  have runs := run_nextToken gap offset
  rwa [passed] at runs

theorem nextToken_visible {gap : List Char} (blank : ∀ c ∈ gap, isGap c = true) {c : Char}
    (visible : isGap c = false) (rest : List Char) (offset : Nat) :
    ∃ after, nextToken.run ⟨gap ++ c :: rest, offset⟩ = (.ok (some c), ⟨c :: rest, after⟩) := by
  have passed : (gap ++ c :: rest).dropWhile isGap = c :: rest := by
    rw [List.dropWhile_append_of_pos blank, List.dropWhile_cons_of_neg (by simp [visible])]
  have runs := run_nextToken (gap ++ c :: rest) offset
  rwa [passed] at runs

/-- The blanks before a token are passed over, and a text that ends there is refused. -/
theorem Reads.afterGap {next : Option Char → Scan α} {gap : List Char} {c : Char}
    {following : List Char} (blank : ∀ c ∈ gap, isGap c = true) (visible : isGap c = false)
    (starts : text ++ ahead = c :: following) (missing : ∀ cursor, Fails (next none) cursor)
    (reads : Reads [c] text ahead (next (some c)) value) :
    Reads known (gap ++ text) ahead (nextToken >>= next) value := by
  refine ⟨fun rest offset => ?_, fun part offset present begins other => ?_⟩
  · have same : gap ++ text ++ (ahead ++ rest) = gap ++ c :: (following ++ rest) := by
      rw [List.append_assoc, ← List.append_assoc text, starts]
      rfl
    obtain ⟨middle, sees⟩ := nextToken_visible blank visible (following ++ rest) offset
    obtain ⟨after, runs⟩ := reads.whole rest middle
    rw [← List.append_assoc, starts] at runs
    exact ⟨after, by rw [same, run_bind_of_ok sees]; exact runs⟩
  · rw [List.append_assoc] at begins other
    rcases part_cases begins other with ⟨within, _⟩ | ⟨more, rfl, within, short⟩
    · obtain ⟨after, sees⟩ := nextToken_gap (fun c member => blank c (within.subset member)) offset
      exact .bind_of_ok sees (missing _)
    · cases more with
      | nil =>
        rw [List.append_nil]
        obtain ⟨after, sees⟩ := nextToken_gap blank offset
        exact .bind_of_ok sees (missing _)
      | cons first more =>
        have head : first = c := by
          rw [starts] at within
          exact (List.cons_prefix_cons.mp within).1
        subst head
        obtain ⟨after, sees⟩ := nextToken_visible blank visible more offset
        exact .bind_of_ok sees (reads.part _ _ (List.prefix_append [first] more) within short)

/-- What comes next is looked at, and a text that ends there is refused. -/
theorem Reads.afterPeek {next : Option Char → Scan α} {c : Char} {following : List Char}
    (starts : text ++ ahead = c :: following) (missing : ∀ cursor, Fails (next none) cursor)
    (reads : Reads [c] text ahead (next (some c)) value) :
    Reads known text ahead (peek >>= next) value := by
  have sees (more : List Char) (offset : Nat) :
      peek.run ⟨c :: more, offset⟩ = (.ok (some c), ⟨c :: more, offset⟩) := rfl
  refine ⟨fun rest offset => ?_, fun part offset present begins other => ?_⟩
  · obtain ⟨after, runs⟩ := reads.whole rest offset
    rw [← List.append_assoc, starts] at runs ⊢
    exact ⟨after, by rw [List.cons_append, run_bind_of_ok (sees _ _)]; exact runs⟩
  · cases part with
    | nil => exact .bind_of_ok (rfl : peek.run ⟨[], offset⟩ = (.ok none, ⟨[], offset⟩)) (missing _)
    | cons first more =>
      have head : first = c := by
        rw [starts] at begins
        exact (List.cons_prefix_cons.mp begins).1
      subst head
      exact .bind_of_ok (sees _ _) (reads.part _ _ (List.prefix_append [first] more) begins other)

end Combining

section Strings

open Text (fixedHexDigits)
open Text.Quoted (encodeChar)

/-- How a character is written in a string. -/
theorem encodeChar_cases (c : Char) :
    (∃ letter, encodeChar c = ['\\', letter] ∧ letter ≠ 'u' ∧
      escapeLetters.lookup letter = some c) ∨
    (c.toNat < 32 ∧ encodeChar c = '\\' :: 'u' :: fixedHexDigits 4 c.toNat) ∨
    (encodeChar c = [c] ∧ c ≠ '"' ∧ c ≠ '\\' ∧ ¬c.toNat < 32) := by
  unfold encodeChar
  split
  · exact .inl ⟨'"', rfl, by decide, rfl⟩
  · exact .inl ⟨'\\', rfl, by decide, rfl⟩
  · exact .inl ⟨'n', rfl, by decide, rfl⟩
  · exact .inl ⟨'r', rfl, by decide, rfl⟩
  · exact .inl ⟨'t', rfl, by decide, rfl⟩
  · exact .inl ⟨'b', rfl, by decide, rfl⟩
  · exact .inl ⟨'f', rfl, by decide, rfl⟩
  · rename_i quote backslash _ _ _ _ _
    split
    case isTrue control => exact .inr (.inl ⟨control, rfl⟩)
    case isFalse visible => exact .inr (.inr ⟨rfl, quote, backslash, visible⟩)

/-- The number of a control character is read from its four digits. -/
theorem reads_hexEscape {n : Nat} (control : n < 32) :
    Reads [] (fixedHexDigits 4 n) [] hexEscape n := by
  have all : ∀ m < 32, (fixedHexDigits 4 m).length = 4 ∧
      (fixedHexDigits 4 m).foldl (fun n c => n + c.utf8Size) 0 = 4 ∧
      Text.numeral? 16 (fixedHexDigits 4 m) = some m ∧
      ∀ k < 4, ((fixedHexDigits 4 m).take k).foldl (fun n c => n + c.utf8Size) 0 < 4 := by
    decide
  obtain ⟨length, size, number, short⟩ := all n control
  refine ⟨fun rest offset => ?_, fun part offset _ begins other => ?_⟩
  · have taken : (fixedHexDigits 4 n ++ ([] ++ rest)).take 4 = fixedHexDigits 4 n :=
      List.take_left' length
    have dropped : (fixedHexDigits 4 n ++ ([] ++ rest)).drop 4 = [] ++ rest :=
      List.drop_left' length
    refine ⟨offset + 4, ?_⟩
    unfold hexEscape
    rw [run_bind_of_ok (run_get _)]
    dsimp only
    rw [taken, dropped, size, number]
    rfl
  · rw [List.append_nil] at begins other
    have cut : part = (fixedHexDigits 4 n).take part.length := List.prefix_iff_eq_take.mp begins
    have shorter : part.length < 4 := by
      rw [← length]
      exact Nat.lt_of_le_of_ne begins.length_le fun same => other (begins.eq_of_length same)
    have taken : part.take 4 = part := List.take_of_length_le (Nat.le_of_lt shorter)
    have small := short _ shorter
    rw [← cut] at small
    unfold Fails hexEscape
    rw [run_bind_of_ok (run_get _)]
    dsimp only
    rw [taken, if_pos small]
    exact ⟨_, _, rfl⟩

/-- What follows a backslash is read as the character that it stands for. -/
theorem reads_escape {c : Char} {written : List Char} (escaped : encodeChar c = '\\' :: written) :
    Reads [] written [] escape c := by
  have missing (cursor : Cursor) : Fails (failHere .endInString : Scan Char) cursor :=
    fails_failHere _ _
  rcases encodeChar_cases c with
    ⟨letter, same, other, found⟩ | ⟨control, same⟩ | ⟨same, _, slash, _⟩
  · cases same.symm.trans escaped
    refine .afterPeek rfl missing ?_
    have reads : Reads [letter] ([letter] ++ []) [] (do skip; return c) c :=
      (reads_skip letter).bind (.pure [] c) List.nil_prefix
    split
    · rename_i never
      cases never
    · rename_i unicode
      exact absurd (Option.some.inj unicode) other
    · rename_i first _ same
      cases same
      rw [found]
      exact reads
  · cases same.symm.trans escaped
    refine .afterPeek rfl missing ?_
    have small : (0xDC00 ≤ c.toNat && c.toNat ≤ 0xDFFF) = false := by simp; omega
    have low : (0xD800 ≤ c.toNat && c.toNat ≤ 0xDBFF) = false := by simp; omega
    have ends : Reads [] [] [] (if 0xDC00 ≤ c.toNat && c.toNat ≤ 0xDFFF then
        failHere .loneSurrogate
      else if 0xD800 ≤ c.toNat && c.toNat ≤ 0xDBFF then lowSurrogate c.toNat
      else Pure.pure (Char.ofNat c.toNat) : Scan Char) c := by
      rw [small, low, if_neg Bool.false_ne_true, if_neg Bool.false_ne_true, Char.ofNat_toNat]
      exact .pure [] c
    have digits : Reads [] (fixedHexDigits 4 c.toNat ++ []) [] (do
        let code ← hexEscape
        if 0xDC00 ≤ code && code ≤ 0xDFFF then failHere .loneSurrogate
        else if 0xD800 ≤ code && code ≤ 0xDBFF then lowSurrogate code
        else return Char.ofNat code) c :=
      (reads_hexEscape control).bind ends List.nil_prefix
    rw [List.append_nil] at digits
    exact (reads_skip 'u').bind digits List.nil_prefix
  · cases (List.cons.inj (same.symm.trans escaped)).1
    exact absurd rfl slash

/-- What a string goes on with after a character. -/
theorem run_stringFrom (fuel : Nat) (read : List Char) (c : Char) (rest : List Char)
    (offset : Nat) :
    (stringFrom (fuel + 1) read).run ⟨c :: rest, offset⟩ =
      (if c = '"' then Pure.pure (String.ofList read.reverse)
        else if c = '\\' then escape >>= fun c => stringFrom fuel (c :: read)
        else if c.toNat < 32 then failHere .controlCharacter
        else stringFrom fuel (c :: read) : Scan String).run ⟨rest, offset + c.utf8Size⟩ := by
  have takes : next.run ⟨c :: rest, offset⟩ = (.ok (some c), ⟨rest, offset + c.utf8Size⟩) := rfl
  rw [stringFrom, run_bind_of_ok takes]
  by_cases quote : c = '"'
  · subst quote
    rfl
  · by_cases slash : c = '\\'
    · subst slash
      rfl
    · rw [if_neg quote, if_neg slash]
      split
      · rename_i never
        cases never
      · rename_i same
        exact absurd (Option.some.inj same) quote
      · rename_i same
        exact absurd (Option.some.inj same) slash
      · rename_i same
        cases same
        rfl

theorem stringFrom_end (fuel : Nat) (read : List Char) (offset : Nat) :
    Fails (stringFrom fuel read) ⟨[], offset⟩ := by
  cases fuel <;> exact ⟨_, _, rfl⟩

/-- One character of a string is read as it is written. -/
theorem stringFrom_char (fuel : Nat) (read : List Char) (c : Char) :
    (∀ rest offset, ∃ after, (stringFrom (fuel + 1) read).run ⟨encodeChar c ++ rest, offset⟩ =
      (stringFrom fuel (c :: read)).run ⟨rest, after⟩) ∧
    ∀ part offset, part <+: encodeChar c → part ≠ encodeChar c →
      Fails (stringFrom (fuel + 1) read) ⟨part, offset⟩ := by
  by_cases escaped : ∃ written, encodeChar c = '\\' :: written
  · obtain ⟨written, same⟩ := escaped
    have reads := reads_escape same
    rw [same]
    refine ⟨fun rest offset => ?_, fun part offset begins other => ?_⟩
    · obtain ⟨after, runs⟩ := reads.whole rest (offset + '\\'.utf8Size)
      refine ⟨after, ?_⟩
      rw [List.cons_append, run_stringFrom, if_neg (by decide), if_pos rfl]
      exact run_bind_of_ok runs _
    · cases part with
      | nil => exact stringFrom_end _ _ _
      | cons first more =>
        obtain ⟨rfl, within⟩ := List.cons_prefix_cons.mp begins
        have short : more ≠ written := fun same => other (congrArg _ same)
        unfold Fails
        rw [run_stringFrom, if_neg (by decide), if_pos rfl]
        exact (reads.part more _ List.nil_prefix (by simpa using within)
          (by simpa using short)).bind _
  · rcases encodeChar_cases c with ⟨letter, same, _⟩ | ⟨_, same⟩ | ⟨same, quote, slash, visible⟩
    · exact absurd ⟨_, same⟩ escaped
    · exact absurd ⟨_, same⟩ escaped
    · rw [same]
      refine ⟨fun rest offset => ⟨offset + c.utf8Size, ?_⟩, fun part offset begins other => ?_⟩
      · rw [List.cons_append, run_stringFrom, if_neg quote, if_neg slash, if_neg visible]
        rfl
      · cases part with
        | nil => exact stringFrom_end _ _ _
        | cons first more =>
          obtain ⟨rfl, within⟩ := List.cons_prefix_cons.mp begins
          exact absurd (congrArg _ (List.prefix_nil.mp within)) other

/-- The characters of a string are read as they are written, up to its closing quote. -/
theorem stringFrom_chars (chars : List Char) : ∀ fuel read,
    (chars.length < fuel → ∀ rest offset, ∃ after,
      (stringFrom fuel read).run ⟨chars.flatMap encodeChar ++ '"' :: rest, offset⟩ =
        (.ok (String.ofList (read.reverse ++ chars)), ⟨rest, after⟩)) ∧
    ∀ part offset, part <+: chars.flatMap encodeChar ++ ['"'] →
      part ≠ chars.flatMap encodeChar ++ ['"'] → Fails (stringFrom fuel read) ⟨part, offset⟩ := by
  induction chars with
  | nil =>
    intro fuel read
    refine ⟨fun enough rest offset => ?_, fun part offset begins other => ?_⟩
    · obtain ⟨fuel, rfl⟩ := Nat.exists_eq_succ_of_ne_zero (Nat.ne_of_gt enough)
      refine ⟨offset + '"'.utf8Size, ?_⟩
      rw [List.append_nil]
      exact run_stringFrom fuel read '"' rest offset
    · cases part with
      | nil => exact stringFrom_end _ _ _
      | cons first more =>
        obtain ⟨rfl, within⟩ := List.cons_prefix_cons.mp begins
        exact absurd (congrArg _ (List.prefix_nil.mp within)) other
  | cons c chars ih =>
    intro fuel read
    rw [List.flatMap_cons, List.append_assoc]
    cases fuel with
    | zero =>
      exact ⟨fun enough => absurd enough (Nat.not_lt_zero _), fun part offset _ _ => ⟨_, _, rfl⟩⟩
    | succ fuel =>
      obtain ⟨whole, part⟩ := stringFrom_char fuel read c
      obtain ⟨goesOn, stops⟩ := ih fuel (c :: read)
      refine ⟨fun enough rest offset => ?_, fun cut offset begins other => ?_⟩
      · obtain ⟨middle, first⟩ := whole (chars.flatMap encodeChar ++ '"' :: rest) offset
        obtain ⟨after, last⟩ := goesOn (Nat.lt_of_succ_lt_succ enough) rest middle
        refine ⟨after, ?_⟩
        rw [List.append_assoc, first, last, List.reverse_cons, List.append_assoc]
        rfl
      · rcases part_cases begins other with ⟨within, short⟩ | ⟨more, rfl, within, short⟩
        · exact part cut offset within short
        · obtain ⟨middle, first⟩ := whole more offset
          obtain ⟨failure, after, fails⟩ := stops more middle within short
          exact ⟨failure, after, first.trans fails⟩

/-- A string is read as it is written, after its opening quote. -/
theorem reads_stringBody (text : String) :
    Reads [] (text.toList.flatMap encodeChar ++ ['"']) [] stringBody text := by
  refine ⟨fun rest offset => ?_, fun part offset _ begins other => ?_⟩
  · have each (chars : List Char) : chars.length ≤ (chars.flatMap encodeChar).length := by
      induction chars with
      | nil => exact Nat.zero_le _
      | cons c chars ih =>
        have some : 0 < (encodeChar c).length := by
          rcases encodeChar_cases c with ⟨_, same, _⟩ | ⟨_, same⟩ | ⟨same, _⟩ <;> simp [same]
        rw [List.flatMap_cons, List.length_append, List.length_cons]
        omega
    have enough := each text.toList
    have shape : text.toList.flatMap encodeChar ++ ['"'] ++ ([] ++ rest) =
        text.toList.flatMap encodeChar ++ '"' :: rest := by simp
    obtain ⟨after, runs⟩ := (stringFrom_chars text.toList
      ((text.toList.flatMap encodeChar ++ '"' :: rest).length + 1) []).1
      (by rw [List.length_append]; omega) rest offset
    rw [List.reverse_nil, List.nil_append, String.ofList_toList] at runs
    refine ⟨after, ?_⟩
    rw [shape, stringBody, run_bind_of_ok (run_get _)]
    exact runs
  · rw [List.append_nil] at begins other
    exact .bind_of_ok (run_get _) ((stringFrom_chars text.toList _ []).2 part offset begins other)

end Strings

end PluginSandbox.Json.Scan
