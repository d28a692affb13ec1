import Mathlib.Data.List.Induction
import PluginSandbox.Path

/-!
# The algebra of paths

A path says where it starts, at the root or at a directory that is not named, and leads through its
segments from there. Its normal form leads to the same place by the fewest segments. Paths that lead
to the same place can stand for each other in front of other paths and behind them, so it does not
matter in which order paths are joined.
-/
namespace PluginSandbox.Path

section Segments

/-- A path has segments. -/
theorem segments_ne_nil (path : List Char) : segments path ≠ [] := by
  fun_cases segments path <;> simp_all

/-- The segments on both sides of a slash are those of the path. -/
theorem segments_append (before after : List Char) :
    segments (before ++ '/' :: after) = segments before ++ segments after := by
  induction before with
  | nil => rfl
  | cons c rest ih =>
    by_cases slash : c = '/'
    · subst slash
      exact congrArg ([] :: ·) ih
    · obtain ⟨segment, others, split⟩ := List.exists_cons_of_ne_nil (segments_ne_nil rest)
      simp only [List.cons_append, segments, ih, split]

/-- What holds no slash is a single segment. -/
theorem segments_of_slashless {path : List Char} (slashless : '/' ∉ path) :
    segments path = [path] := by
  induction path with
  | nil => rfl
  | cons c rest ih =>
    simp only [List.mem_cons, not_or] at slashless
    rw [segments, ih slashless.2]
    exact fun slash => slashless.1 slash.symm

/-- Segments hold no slash. -/
theorem slashless_of_mem_segments {path segment : List Char} (member : segment ∈ segments path) :
    '/' ∉ segment := by
  induction path generalizing segment with
  | nil => simp_all [segments]
  | cons c rest ih =>
    by_cases slash : c = '/'
    · subst slash
      rcases List.mem_cons.mp member with rfl | later
      · exact List.not_mem_nil
      · exact ih later
    · obtain ⟨first, others, split⟩ := List.exists_cons_of_ne_nil (segments_ne_nil rest)
      simp only [segments, split, List.mem_cons] at member ih
      rcases member with rfl | later
      · simpa [Ne.symm slash] using ih (.inl rfl)
      · exact ih (.inr later)

/-- Joined segments are those of the path. -/
theorem segments_joinSegments {pieces : List (List Char)} (some : pieces ≠ [])
    (slashless : ∀ piece ∈ pieces, '/' ∉ piece) : segments (joinSegments pieces) = pieces := by
  induction pieces using joinSegments.induct with
  | case1 => exact absurd rfl some
  | case2 piece => exact segments_of_slashless (slashless piece List.mem_cons_self)
  | case3 piece rest more ih =>
    have first : '/' ∉ piece := slashless piece List.mem_cons_self
    rw [joinSegments.eq_3 _ _ more, segments_append, segments_of_slashless first,
      ih more fun other member => slashless other (List.mem_cons_of_mem _ member)]
    rfl

end Segments

section Roots

theorem isAbsolute_cons (c : Char) (rest : List Char) : isAbsolute (c :: rest) = (c == '/') := by
  by_cases slash : c = '/'
  · subst slash
    rfl
  · simp [isAbsolute, slash]

/-- A path starts where its first characters do. -/
theorem isAbsolute_append {path : List Char} (named : path ≠ []) (rest : List Char) :
    isAbsolute (path ++ rest) = isAbsolute path := by
  obtain ⟨c, others, rfl⟩ := List.exists_cons_of_ne_nil named
  rw [List.cons_append, isAbsolute_cons, isAbsolute_cons]

/-- A path without slashes is relative. -/
theorem isAbsolute_of_slashless {path : List Char} (slashless : '/' ∉ path) :
    isAbsolute path = false := by
  cases path with
  | nil => rfl
  | cons c rest =>
    rw [isAbsolute_cons]
    exact beq_false_of_ne fun slash => slashless (slash ▸ List.mem_cons_self)

end Roots

/-- Paths with the same root and the same stack have one normal form. -/
theorem normalizeChars_congr {path other : List Char}
    (absolute : isAbsolute path = isAbsolute other) (stack : stackOf path = stackOf other) :
    normalizeChars path = normalizeChars other := by
  rw [normalizeChars, normalizeChars, absolute, stack]

/-- Whether a segment names something: it is not empty, and leads neither nowhere nor up. -/
structure IsName (segment : List Char) : Prop where
  /-- It is not empty. -/
  some : segment ≠ []
  /-- It is not the directory itself. -/
  notHere : segment ≠ ['.']
  /-- It is not the directory above. -/
  notUp : segment ≠ ['.', '.']

/-- Steps to the directory above. -/
def ups (count : Nat) : List (List Char) := List.replicate count ['.', '.']

/-- Whether segments lead up first and then through names, and only through names from the root. -/
def AreNormal (absolute : Bool) (pieces : List (List Char)) : Prop :=
  ∃ count names, pieces = ups count ++ names ∧ (∀ name ∈ names, IsName name) ∧
    (absolute = true → count = 0)

section Stacks

variable {absolute : Bool} {stack pieces names : List (List Char)}

/-- A segment that leads nowhere leaves the stack as it is. -/
theorem push_nowhere {segment : List Char} (nowhere : segment = [] ∨ segment = ['.']) :
    push absolute stack segment = stack := by
  unfold push
  rw [if_pos nowhere]

/-- A name is put on the stack. -/
theorem push_name {name : List Char} (isName : IsName name) :
    push absolute stack name = name :: stack := by
  obtain ⟨some, notHere, notUp⟩ := isName
  unfold push
  rw [if_neg (by simp [some, notHere]), if_neg notUp]

/-- A step up takes a name off the stack. -/
theorem push_up_name {name : List Char} (isName : IsName name) :
    push absolute (name :: stack) ['.', '.'] = stack := by
  unfold push
  rw [if_neg (by decide), if_pos rfl]
  exact if_pos isName.notUp

/-- A step up is put on top of others, unless they start at the root. -/
theorem push_up_ups (count : Nat) :
    push false (ups count) ['.', '.'] = ups (count + 1) := by
  cases count <;> rfl

/-- What a segment is to a path. -/
theorem nowhere_or_up_or_name (segment : List Char) :
    (segment = [] ∨ segment = ['.']) ∨ segment = ['.', '.'] ∨ IsName segment := by
  by_cases nowhere : segment = [] ∨ segment = ['.']
  · exact .inl nowhere
  · rw [not_or] at nowhere
    by_cases up : segment = ['.', '.']
    · exact .inr (.inl up)
    · exact .inr (.inr ⟨nowhere.1, nowhere.2, up⟩)

theorem reverse_ups (count : Nat) : (ups count).reverse = ups count := List.reverse_replicate

/-- Names are put on the stack one after the other. -/
theorem foldl_push_names (isName : ∀ name ∈ names, IsName name) :
    names.foldl (push absolute) stack = names.reverse ++ stack := by
  induction names generalizing stack with
  | nil => rfl
  | cons name rest ih =>
    rw [List.foldl_cons, push_name (isName name List.mem_cons_self),
      ih fun other member => isName other (List.mem_cons_of_mem name member), List.reverse_cons,
      List.append_assoc, List.singleton_append]

/-- Steps up stay in front of a relative path. -/
theorem foldl_push_ups (count : Nat) : (ups count).foldl (push false) [] = ups count := by
  induction count with
  | zero => rfl
  | succ n ih =>
    have last : ups (n + 1) = ups n ++ [['.', '.']] := List.replicate_succ'
    rw [last, List.foldl_append, ih, ← last]
    exact push_up_ups n

/-- Normal segments are on the stack as they are. -/
theorem AreNormal.foldl_push (normal : AreNormal absolute pieces) :
    pieces.foldl (push absolute) [] = pieces.reverse := by
  obtain ⟨count, names, rfl, isName, root⟩ := normal
  rw [List.foldl_append, foldl_push_names isName, List.reverse_append, reverse_ups]
  cases absolute with
  | false => rw [foldl_push_ups]
  | true =>
    rw [root rfl]
    rfl

/-- A step up keeps the stack of a normal path normal. -/
theorem AreNormal.push_up (normal : AreNormal absolute stack.reverse) :
    AreNormal absolute (push absolute stack ['.', '.']).reverse := by
  obtain ⟨count, names, split, isName, root⟩ := normal
  rcases names.eq_nil_or_concat with rfl | ⟨earlier, last, rfl⟩
  · -- Only steps up precede this one.
    rw [List.append_nil, List.reverse_eq_iff, reverse_ups] at split
    subst split
    cases absolute with
    | false =>
      refine ⟨count + 1, [], ?_, List.forall_mem_nil _, nofun⟩
      rw [push_up_ups, reverse_ups, List.append_nil]
    | true =>
      rw [root rfl]
      exact ⟨0, [], rfl, List.forall_mem_nil _, fun _ => rfl⟩
  · -- The last name vanishes.
    have top : stack = last :: (ups count ++ earlier).reverse := by
      rw [List.concat_eq_append, ← List.append_assoc] at split
      rw [← List.reverse_reverse stack, split, List.reverse_append]
      rfl
    rw [top, push_up_name (isName last (by simp)), List.reverse_reverse]
    exact ⟨count, earlier, rfl, fun name member => isName name (by simp [member]), root⟩

/-- A further segment keeps the stack of a normal path normal. -/
theorem AreNormal.push (normal : AreNormal absolute stack.reverse) (segment : List Char) :
    AreNormal absolute (push absolute stack segment).reverse := by
  rcases nowhere_or_up_or_name segment with nowhere | rfl | name
  · rwa [push_nowhere nowhere]
  · exact normal.push_up
  · obtain ⟨count, names, split, isName, root⟩ := normal
    rw [push_name name, List.reverse_cons, split, List.append_assoc]
    refine ⟨count, _, rfl, fun other member => ?_, root⟩
    rcases List.mem_append.mp member with old | new
    · exact isName other old
    · rwa [List.mem_singleton.mp new]

/-- Working segments into a stack gives a normal path. -/
theorem areNormal_foldl (absolute : Bool) (pieces : List (List Char)) :
    AreNormal absolute (pieces.foldl (push absolute) []).reverse := by
  induction pieces using List.reverseRecOn with
  | nil => exact ⟨0, [], rfl, List.forall_mem_nil _, fun _ => rfl⟩
  | append_singleton earlier last ih =>
    rw [List.foldl_append]
    exact ih.push last

/-- The top of a normal stack is a step up or a name. -/
theorem AreNormal.top {last : List Char} (normal : AreNormal absolute (last :: stack).reverse) :
    last = ['.', '.'] ∨ IsName last := by
  obtain ⟨count, names, split, isName, _⟩ := normal
  have member : last ∈ ups count ++ names := by simp [← split]
  rcases List.mem_append.mp member with up | name
  · exact .inl (List.eq_of_mem_replicate up)
  · exact .inr (isName last name)

/-- Behind any path, segments lead to where their normal form leads. -/
theorem foldl_push_normal (absolute : Bool) (stack pieces : List (List Char)) :
    (pieces.foldl (push false) []).reverse.foldl (push absolute) stack =
      pieces.foldl (push absolute) stack := by
  -- The induction is on the segments from the end, since the last one acts on the whole stack.
  induction pieces using List.reverseRecOn with
  | nil => rfl
  | append_singleton earlier last ih =>
    simp only [List.foldl_append, List.foldl_cons, List.foldl_nil]
    rw [← ih]
    have normal := areNormal_foldl false earlier
    generalize earlier.foldl (push false) [] = reached at normal
    rcases nowhere_or_up_or_name last with nowhere | rfl | name
    · rw [push_nowhere nowhere, push_nowhere nowhere]
    · cases reached with
      | nil => rfl
      | cons top below =>
        rcases normal.top with rfl | name
        · -- The step up is kept, so it is made behind the others.
          have kept : push false (['.', '.'] :: below) ['.', '.'] =
            ['.', '.'] :: ['.', '.'] :: below := rfl
          rw [kept, List.reverse_cons, List.foldl_append]
          rfl
        · rw [push_up_name name, List.reverse_cons, List.foldl_append, List.foldl_cons,
            List.foldl_nil, push_name name, push_up_name name]
    · rw [push_name name, List.reverse_cons, List.foldl_append]
      rfl

end Stacks

/-- The segments of a path behind its root. -/
def parts : List Char → List (List Char)
  | '/' :: rest => if rest = [] then [] else segments rest
  | path => segments path

/-- Whether a path is in normal form: a single dot, or steps up and names without superfluous
slashes. -/
def IsNormalForm (path : List Char) : Prop :=
  path = ['.'] ∨ AreNormal (isAbsolute path) (parts path)

section NormalForms

variable (path : List Char)

theorem areNormal_stackOf : AreNormal (isAbsolute path) (stackOf path).reverse :=
  areNormal_foldl _ _

/-- What is on the stack was a segment. -/
theorem mem_of_mem_foldl_push {absolute : Bool} {pieces : List (List Char)} {segment : List Char} :
    ∀ {stack : List (List Char)}, segment ∈ pieces.foldl (push absolute) stack →
      segment ∈ stack ∨ segment ∈ pieces := by
  induction pieces with
  | nil => exact fun member => .inl member
  | cons first rest ih =>
    intro stack member
    have pushed : segment ∈ push absolute stack first → segment ∈ stack ∨ segment = first := by
      rcases nowhere_or_up_or_name first with nowhere | rfl | name
      · rw [push_nowhere nowhere]
        exact .inl
      · unfold push
        grind
      · rw [push_name name, List.mem_cons, or_comm]
        exact id
    rcases ih member with before | later
    · rcases pushed before with old | rfl
      · exact .inl old
      · exact .inr List.mem_cons_self
    · exact .inr (List.mem_cons_of_mem first later)

theorem slashless_stackOf : ∀ segment ∈ (stackOf path).reverse, '/' ∉ segment := by
  intro segment member
  rcases mem_of_mem_foldl_push (List.mem_reverse.mp member) with never | split
  · cases never
  · exact slashless_of_mem_segments split

/-- No normal segment is empty. -/
theorem AreNormal.ne_nil {absolute : Bool} {pieces : List (List Char)}
    (normal : AreNormal absolute pieces) : ∀ piece ∈ pieces, piece ≠ [] := by
  obtain ⟨count, names, rfl, isName, _⟩ := normal
  intro piece member
  rcases List.mem_append.mp member with up | name
  · rw [List.eq_of_mem_replicate up]
    exact List.cons_ne_nil _ _
  · exact (isName piece name).some

/-- Joined segments start with the first one. -/
theorem joinSegments_cons (first : List Char) (rest : List (List Char)) :
    ∃ more, joinSegments (first :: rest) = first ++ more := by
  cases rest with
  | nil => exact ⟨[], (List.append_nil first).symm⟩
  | cons second others => exact ⟨_, rfl⟩

/-- Segments that name something make a path that starts at no root. -/
theorem joinSegments_relative {pieces : List (List Char)} (some : pieces ≠ [])
    (named : ∀ piece ∈ pieces, piece ≠ []) (slashless : ∀ piece ∈ pieces, '/' ∉ piece) :
    joinSegments pieces ≠ [] ∧ isAbsolute (joinSegments pieces) = false := by
  obtain ⟨first, rest, rfl⟩ := List.exists_cons_of_ne_nil some
  obtain ⟨more, joined⟩ := joinSegments_cons first rest
  have nonempty := named first List.mem_cons_self
  rw [joined]
  refine ⟨List.append_ne_nil_of_left_ne_nil nonempty more, ?_⟩
  rw [isAbsolute_append nonempty]
  exact isAbsolute_of_slashless (slashless first List.mem_cons_self)

/-- A normal form is a slash in front of the segments on the stack, a single dot if there are none,
or these segments alone. -/
theorem normalizeChars_cases :
    (isAbsolute path = true ∧ normalizeChars path = '/' :: joinSegments (stackOf path).reverse) ∨
    (isAbsolute path = false ∧ stackOf path = [] ∧ normalizeChars path = ['.']) ∨
    (isAbsolute path = false ∧ (stackOf path).reverse ≠ [] ∧
      normalizeChars path = joinSegments (stackOf path).reverse ∧
      isAbsolute (normalizeChars path) = false) := by
  unfold normalizeChars
  dsimp only
  cases absolute : isAbsolute path with
  | true => exact .inl ⟨rfl, rfl⟩
  | false =>
    right
    by_cases empty : stackOf path = []
    · left
      rw [empty]
      exact ⟨rfl, rfl, rfl⟩
    · right
      have some : (stackOf path).reverse ≠ [] := by simpa using empty
      obtain ⟨nonempty, relative⟩ := joinSegments_relative some (areNormal_stackOf path).ne_nil
        (slashless_stackOf path)
      have named : (joinSegments (stackOf path).reverse).isEmpty = false :=
        List.isEmpty_eq_false_iff.mpr nonempty
      rw [named]
      exact ⟨rfl, some, rfl, relative⟩

/-- A normal form starts where the path does. -/
theorem isAbsolute_normalizeChars : isAbsolute (normalizeChars path) = isAbsolute path := by
  rcases normalizeChars_cases path with ⟨absolute, same⟩ | ⟨relative, _, same⟩ |
    ⟨relative, _, _, starts⟩
  · rw [same, absolute]
    rfl
  · rw [same, relative]
    rfl
  · rw [starts, relative]

/-- The segments of a normal form act on a stack like those of the path from its start. -/
theorem foldl_normalizeChars (absolute : Bool) (stack : List (List Char)) :
    (segments (normalizeChars path)).foldl (push absolute) stack =
      (stackOf path).reverse.foldl (push absolute) stack := by
  have joined (some : (stackOf path).reverse ≠ []) :
      segments (joinSegments (stackOf path).reverse) = (stackOf path).reverse :=
    segments_joinSegments some (slashless_stackOf path)
  rcases normalizeChars_cases path with ⟨_, same⟩ | ⟨_, empty, same⟩ | ⟨_, some, same, _⟩
  · rw [same, segments, List.foldl_cons, push_nowhere (.inl rfl)]
    by_cases some : (stackOf path).reverse = []
    · rw [some]
      rfl
    · rw [joined some]
  · rw [same, empty]
    rfl
  · rw [same, joined some]

/-- A normal form leads to where the path leads. -/
theorem stackOf_normalizeChars : stackOf (normalizeChars path) = stackOf path := by
  rw [stackOf, isAbsolute_normalizeChars, foldl_normalizeChars, (areNormal_stackOf path).foldl_push,
    List.reverse_reverse]

/-- A normal form is its own normal form. -/
theorem normalizeChars_normalizeChars : normalizeChars (normalizeChars path) = normalizeChars path :=
  normalizeChars_congr (isAbsolute_normalizeChars path) (stackOf_normalizeChars path)

/-- A normal form has the segments that are on the stack, except for the single dot. -/
theorem parts_normalizeChars (leads : isAbsolute path = true ∨ stackOf path ≠ []) :
    parts (normalizeChars path) = (stackOf path).reverse := by
  have named := (areNormal_stackOf path).ne_nil
  have slashless := slashless_stackOf path
  rcases normalizeChars_cases path with ⟨_, same⟩ | ⟨relative, empty, _⟩ | ⟨_, some, same, starts⟩
  · rw [same, parts]
    by_cases some : (stackOf path).reverse = []
    · rw [some]
      rfl
    · rw [if_neg (joinSegments_relative some named slashless).1,
        segments_joinSegments some slashless]
  · rcases leads with absolute | other
    · rw [relative] at absolute
      cases absolute
    · exact absurd empty other
  · have pieces := segments_joinSegments some slashless
    rw [← same] at pieces
    rw [parts, pieces]
    rintro rest root
    rw [root] at starts
    cases starts

theorem isNormalForm_normalizeChars : IsNormalForm (normalizeChars path) := by
  by_cases leads : isAbsolute path = true ∨ stackOf path ≠ []
  · right
    rw [isAbsolute_normalizeChars, parts_normalizeChars path leads]
    exact areNormal_stackOf path
  · rw [not_or, not_not] at leads
    left
    rcases normalizeChars_cases path with ⟨absolute, _⟩ | ⟨_, _, same⟩ | ⟨_, some, _⟩
    · exact absurd absolute leads.1
    · exact same
    · exact absurd (List.reverse_eq_nil_iff.mpr leads.2) some

/-- A normal form is a single dot if the path is relative and leads nowhere. -/
theorem normalizeChars_eq_here_iff :
    normalizeChars path = ['.'] ↔ isAbsolute path = false ∧ stackOf path = [] := by
  rcases normalizeChars_cases path with ⟨absolute, same⟩ | ⟨relative, empty, same⟩ |
    ⟨relative, some, same, _⟩
  · simp [absolute, same]
  · simp [relative, empty, same]
  · have empty : ¬stackOf path = [] := by simpa using some
    simp only [relative, empty, and_false, iff_false]
    intro here
    -- The single dot would be a segment of its own.
    have pieces := segments_joinSegments some (slashless_stackOf path)
    rw [← same, here] at pieces
    have normal : AreNormal (isAbsolute path) [['.']].reverse := by
      have normal := areNormal_stackOf path
      rwa [← pieces] at normal
    rcases normal.top with up | name
    · simp at up
    · exact name.notHere rfl

end NormalForms

section Joins

variable (base inner path : List Char)

/-- A relative path starts without a stack, and its steps up stay. -/
theorem stackOf_relative (relative : isAbsolute path = false) :
    stackOf path = (segments path).foldl (push false) [] := by
  rw [stackOf, relative]

/-- A joined path is in normal form. -/
theorem normalizeChars_joinChars : normalizeChars (joinChars base inner) = joinChars base inner := by
  rw [joinChars]
  split <;> exact normalizeChars_normalizeChars _

/-- A joined path starts at the root if one of its parts does. -/
theorem isAbsolute_joinChars :
    isAbsolute (joinChars base inner) = (isAbsolute base || isAbsolute inner) := by
  rw [joinChars]
  cases base with
  | nil => exact isAbsolute_normalizeChars inner
  | cons c rest =>
    cases absolute : isAbsolute inner with
    | true =>
      rw [List.isEmpty_cons, Bool.false_or, if_pos rfl, isAbsolute_normalizeChars, absolute,
        Bool.or_true]
    | false =>
      rw [List.isEmpty_cons, Bool.false_or, if_neg Bool.false_ne_true, isAbsolute_normalizeChars,
        isAbsolute_append (List.cons_ne_nil c rest), Bool.or_false]

variable {base inner path}

/-- Behind any path, a path that starts at the root leads to where it leads alone. -/
theorem stackOf_joinChars_absolute (absolute : isAbsolute inner = true) :
    stackOf (joinChars base inner) = stackOf inner := by
  rw [joinChars, absolute, Bool.or_true, if_pos rfl, stackOf_normalizeChars]

/-- A relative path goes on from where the path before it leads. -/
theorem stackOf_joinChars_relative (relative : isAbsolute inner = false) :
    stackOf (joinChars base inner) =
      (segments inner).foldl (push (isAbsolute base)) (stackOf base) := by
  rw [joinChars, relative, Bool.or_false]
  cases base with
  | nil =>
    rw [List.isEmpty_nil, if_pos rfl, stackOf_normalizeChars, stackOf, relative]
    rfl
  | cons c rest =>
    rw [List.isEmpty_cons, if_neg Bool.false_ne_true, stackOf_normalizeChars, stackOf,
      isAbsolute_append (List.cons_ne_nil c rest), segments_append, List.foldl_append]
    rfl

/-- Joined paths are the same if they lead to the same place. -/
theorem joinChars_congr {base' inner' : List Char}
    (root : isAbsolute (joinChars base inner) = isAbsolute (joinChars base' inner'))
    (stack : stackOf (joinChars base inner) = stackOf (joinChars base' inner')) :
    joinChars base inner = joinChars base' inner' := by
  rw [← normalizeChars_joinChars base, ← normalizeChars_joinChars base',
    normalizeChars_congr root stack]

/-- It does not matter in which order paths are joined. -/
theorem joinChars_joinChars :
    joinChars (joinChars base inner) path = joinChars base (joinChars inner path) := by
  refine joinChars_congr ?_ ?_
  · simp only [isAbsolute_joinChars, Bool.or_assoc]
  · cases last : isAbsolute path with
    | true =>
      have whole : isAbsolute (joinChars inner path) = true := by
        rw [isAbsolute_joinChars, last, Bool.or_true]
      rw [stackOf_joinChars_absolute last, stackOf_joinChars_absolute whole,
        stackOf_joinChars_absolute last]
    | false =>
      have later : isAbsolute (joinChars inner path) = isAbsolute inner := by
        rw [isAbsolute_joinChars, last, Bool.or_false]
      rw [stackOf_joinChars_relative last, isAbsolute_joinChars]
      cases middle : isAbsolute inner with
      | true =>
        rw [stackOf_joinChars_absolute (later.trans middle), stackOf_joinChars_relative last,
          stackOf_joinChars_absolute middle, middle, Bool.or_true]
      | false =>
        -- Behind the base, the segments of the two parts act like those of their normal form.
        rw [stackOf_joinChars_relative (later.trans middle), stackOf_joinChars_relative middle,
          Bool.or_false, ← List.foldl_append, ← foldl_push_normal, List.foldl_append,
          ← stackOf_relative inner middle, ← normalizeChars_joinChars, foldl_normalizeChars,
          stackOf_joinChars_relative last, middle]

end Joins

section Directories

variable (path : List Char)

/-- The name of a file holds no slash. -/
theorem slashless_fileName : '/' ∉ fileName path := by
  rw [fileName, List.mem_reverse]
  intro member
  simpa using List.all_eq_true.mp List.all_takeWhile _ member

/-- The name of a file is the whole path, or stands behind the directory and a slash. -/
theorem dirnameChars_cases :
    (dirnameChars path = [] ∧ fileName path = path) ∨
    (dirnameChars path = ['/'] ∧ path = '/' :: fileName path) ∨
    (dirnameChars path ≠ [] ∧ path = dirnameChars path ++ '/' :: fileName path) := by
  have split : (path.reverse.dropWhile (· ≠ '/')).reverse ++ fileName path = path := by
    rw [fileName, ← List.reverse_append, List.takeWhile_append_dropWhile, List.reverse_reverse]
  unfold dirnameChars
  cases rest : path.reverse.dropWhile (· ≠ '/') with
  | nil =>
    rw [rest] at split
    exact .inl ⟨rfl, split⟩
  | cons c before =>
    have slash : c = '/' := by
      have head := List.head?_dropWhile_not (· ≠ '/') path.reverse
      rw [rest] at head
      simpa using head
    subst slash
    rw [rest, List.reverse_cons, List.append_assoc, List.singleton_append] at split
    cases before with
    | nil => exact .inr (.inl ⟨rfl, split.symm⟩)
    | cons d more => exact .inr (.inr ⟨by simp, split.symm⟩)

/-- A directory starts where the path does. -/
theorem isAbsolute_dirnameChars : isAbsolute (dirnameChars path) = isAbsolute path := by
  rcases dirnameChars_cases path with ⟨none, whole⟩ | ⟨root, split⟩ | ⟨named, split⟩
  · have slashless := slashless_fileName path
    rw [whole] at slashless
    rw [none, isAbsolute_of_slashless slashless]
    rfl
  · rw [root, split]
    rfl
  · exact ((congrArg isAbsolute split).trans (isAbsolute_append named _)).symm

/-- The name of a file is the last segment behind those of its directory. -/
theorem foldl_dirnameChars (absolute : Bool) (stack : List (List Char)) :
    (segments path).foldl (push absolute) stack =
      push absolute ((segments (dirnameChars path)).foldl (push absolute) stack)
        (fileName path) := by
  have last := segments_of_slashless (slashless_fileName path)
  rcases dirnameChars_cases path with ⟨none, whole⟩ | ⟨root, split⟩ | ⟨_, split⟩
  · rw [whole] at last
    rw [none, whole, last]
    rfl
  · rw [root]
    conv_lhs => rw [split, segments, last]
    rfl
  · conv_lhs => rw [split, segments_append, last, List.foldl_append]
    rfl

/-- The name of a file reaches back over what holds no slash. -/
theorem fileName_append_slashless (before : List Char) {file : List Char}
    (slashless : '/' ∉ file) : fileName (before ++ file) = fileName before ++ file := by
  have all : ∀ c ∈ file.reverse, (decide (c ≠ '/')) = true := by
    intro c member
    exact decide_eq_true fun slash => slashless (slash ▸ List.mem_reverse.mp member)
  rw [fileName, List.reverse_append, List.takeWhile_append_of_pos all, List.reverse_append,
    List.reverse_reverse]
  rfl

/-- What holds no slash is the name of a file. -/
theorem fileName_of_slashless {file : List Char} (slashless : '/' ∉ file) :
    fileName file = file :=
  fileName_append_slashless [] slashless

/-- The name of a file stands behind the last slash. -/
theorem fileName_append (before : List Char) {file : List Char} (slashless : '/' ∉ file) :
    fileName (before ++ '/' :: file) = file := by
  have last : fileName (before ++ ['/']) = [] := by simp [fileName]
  rw [List.append_cons, fileName_append_slashless _ slashless, last, List.nil_append]

/-- The last of joined segments stands behind a slash if there are others. -/
theorem joinSegments_concat (earlier : List (List Char)) (last : List Char) :
    joinSegments (earlier ++ [last]) = last ∨
      ∃ before, joinSegments (earlier ++ [last]) = before ++ '/' :: last := by
  induction earlier using joinSegments.induct with
  | case1 => exact .inl rfl
  | case2 piece => exact .inr ⟨piece, rfl⟩
  | case3 piece rest more ih =>
    right
    have joined : joinSegments (piece :: rest ++ [last]) =
        piece ++ '/' :: joinSegments (rest ++ [last]) :=
      joinSegments.eq_3 _ _ (by simp)
    rw [joined]
    rcases ih with same | ⟨before, same⟩
    · exact ⟨piece, by rw [same]⟩
    · exact ⟨piece ++ '/' :: before, by rw [same, List.append_assoc, List.cons_append]⟩

/-- A normal form names the file that its last segment names. -/
theorem fileName_normalizeChars {path name : List Char} {below : List (List Char)}
    (stack : stackOf path = name :: below) : fileName (normalizeChars path) = name := by
  have slashless : '/' ∉ name := by
    apply slashless_stackOf path
    rw [stack]
    simp
  have ends : joinSegments (stackOf path).reverse = name ∨
      ∃ before, joinSegments (stackOf path).reverse = before ++ '/' :: name := by
    rw [stack, List.reverse_cons]
    exact joinSegments_concat below.reverse name
  rcases normalizeChars_cases path with ⟨_, same⟩ | ⟨_, empty, _⟩ | ⟨_, _, same, _⟩
  · rw [same]
    rcases ends with alone | ⟨before, behind⟩
    · rw [alone]
      exact fileName_append [] slashless
    · rw [behind]
      exact fileName_append ('/' :: before) slashless
  · rw [empty] at stack
    cases stack
  · rw [same]
    rcases ends with alone | ⟨before, behind⟩
    · rw [alone, fileName_of_slashless slashless]
    · rw [behind, fileName_append before slashless]

/-- Behind a base, a path that names a file leads to the name in its directory. -/
theorem stackOf_joinChars_dirnameChars (base : List Char) (named : IsName (fileName path)) :
    stackOf (joinChars base path) = fileName path :: stackOf (joinChars base (dirnameChars path)) := by
  have root := isAbsolute_dirnameChars path
  cases absolute : isAbsolute path with
  | true =>
    rw [absolute] at root
    rw [stackOf_joinChars_absolute absolute, stackOf_joinChars_absolute root, stackOf,
      foldl_dirnameChars, push_name named, stackOf, absolute, root]
  | false =>
    rw [absolute] at root
    rw [stackOf_joinChars_relative absolute, stackOf_joinChars_relative root, foldl_dirnameChars,
      push_name named]

/-- The directory of a file behind a base is the directory of its path behind the base. -/
theorem joinChars_dirnameChars (base inner : List Char) (named : IsName (fileName path)) :
    joinChars (dirnameChars (joinChars base path)) inner =
      joinChars base (joinChars (dirnameChars path) inner) := by
  have stack := stackOf_joinChars_dirnameChars path base named
  have file : fileName (joinChars base path) = fileName path := by
    rw [← normalizeChars_joinChars, fileName_normalizeChars stack]
  have above : stackOf (dirnameChars (joinChars base path)) =
      stackOf (joinChars base (dirnameChars path)) := by
    have split := foldl_dirnameChars (joinChars base path) (isAbsolute (joinChars base path)) []
    rw [file, push_name named, ← stackOf, stack] at split
    rw [stackOf, isAbsolute_dirnameChars]
    exact (List.cons.inj split).2.symm
  have root : isAbsolute (dirnameChars (joinChars base path)) =
      isAbsolute (joinChars base (dirnameChars path)) := by
    rw [isAbsolute_dirnameChars, isAbsolute_joinChars, isAbsolute_joinChars,
      isAbsolute_dirnameChars]
  rw [← joinChars_joinChars]
  refine joinChars_congr ?_ ?_
  · rw [isAbsolute_joinChars, isAbsolute_joinChars, root]
  · cases absolute : isAbsolute inner with
    | true => rw [stackOf_joinChars_absolute absolute, stackOf_joinChars_absolute absolute]
    | false =>
      rw [stackOf_joinChars_relative absolute, stackOf_joinChars_relative absolute, root, above]

end Directories

/-- Paths are brought to normal form and joined as their parts lead.

A normal form starts at the root if the path does. It is a single dot, for a relative path that
leads nowhere, or it leads up first, which it never does from the root, and then through names, with
no empty or single-dot segment. It is its own normal form. Paths can be joined in any order, so a
document that is reached through another one has the path that the two imports have together, if the
first of them names a document. -/
theorem paths_join_as_they_lead :
    (∀ path : String,
      isAbsolute (normalize path).toList = isAbsolute path.toList ∧
      IsNormalForm (normalize path).toList ∧
      (normalize path = "." ↔ isAbsolute path.toList = false ∧ stackOf path.toList = []) ∧
      normalize (normalize path) = normalize path) ∧
    (∀ a b c : String, join (join a b) c = join a (join b c)) ∧
    (∀ base module inner : String, IsName (fileName module.toList) →
      resolveRelative (resolveRelative base module) inner =
        resolveRelative base (resolveRelative module inner)) := by
  refine ⟨fun path => ⟨?_, ?_, ?_, ?_⟩, fun a b c => ?_, fun base module inner named => ?_⟩
  · rw [normalize, String.toList_ofList, isAbsolute_normalizeChars]
  · rw [normalize, String.toList_ofList]
    exact isNormalForm_normalizeChars path.toList
  · have characters : normalize path = "." ↔ normalizeChars path.toList = ['.'] := by
      rw [normalize, ← String.toList_inj, String.toList_ofList]
      rfl
    rw [characters]
    exact normalizeChars_eq_here_iff path.toList
  · simp only [normalize, String.toList_ofList, normalizeChars_normalizeChars]
  · simp only [join, String.toList_ofList, joinChars_joinChars]
  · simp only [resolveRelative, join, dirname, String.toList_ofList]
    rw [joinChars_dirnameChars _ _ _ named]

/-- The import of an import is that of the two paths together. -/
theorem paths_join_as_they_lead_twice :
    IsName (fileName "../lib/b.js".toList) ∧
    resolveRelative (resolveRelative "/work/sub/plugin.ts" "../lib/b.js") "./c" =
      resolveRelative "/work/sub/plugin.ts" (resolveRelative "../lib/b.js" "./c") ∧
    resolveRelative "../lib/b.js" "./c" = "../lib/c" := by
  have named : IsName (fileName "../lib/b.js".toList) := ⟨by decide, by decide, by decide⟩
  exact ⟨named, paths_join_as_they_lead.2.2 _ _ _ named, by decide +kernel⟩

end PluginSandbox.Path
