import VectorClient.Proofs.Number.Power
import VectorClient.Proofs.Steps
import VectorClient.Proofs.Text.Blank
import VectorClient.Proofs.Text.Integer
import VectorClient.Version

/-!
# Which versions are read

A text is read as a version iff the numbers in it, without blanks, `v`s and what follows a hyphen or
a plus sign, are at least two that fit 32 bits, and a third that fits too if there is one. Any other
text is refused for the first number that is missing or broken. The text of a version is read as
that version, however it is surrounded.
-/

namespace VectorClient.Version

open Number

/-! ### What is read -/

inductive IsSuffix : List Char → Prop
  | nothing : IsSuffix []
  | release (rest : List Char) : IsSuffix ('-' :: rest)
  | build (rest : List Char) : IsSuffix ('+' :: rest)

/-- The core of a text is what lies between the `v`s at the front and the first hyphen or plus sign,
when the text is trimmed. -/
inductive HasCore : List Char → List Char → Prop
  | intro {text core suffix : List Char} {marks : Nat}
      (trims : Text.Trims text (List.replicate marks 'v' ++ (core ++ suffix)))
      (unmarked : (core ++ suffix).head? ≠ some 'v') (uncut : ∀ c ∈ core, c ≠ '-' ∧ c ≠ '+')
      (isSuffix : IsSuffix suffix) : HasCore text core

/-- A part of a version is a number of at most 32 bits. -/
def IsPart (digits : List Char) : Prop := ∃ n ≤ pow2 32 - 1, Text.Numeral digits n

inductive Spells : List (List Char) → Version → Prop
  | short {x : Version} {major minor : List Char} (major_eq : Text.Numeral major x.major.toNat)
      (minor_eq : Text.Numeral minor x.minor.toNat) (patch_eq : x.patch = 0) :
      Spells [major, minor] x
  | full {x : Version} {major minor patch : List Char} {free : List (List Char)}
      (major_eq : Text.Numeral major x.major.toNat) (minor_eq : Text.Numeral minor x.minor.toNat)
      (patch_eq : Text.Numeral patch x.patch.toNat) : Spells (major :: minor :: patch :: free) x

/-- The fault of pieces that spell no version: the first part that is missing or broken. -/
inductive Broken (raw : String) : List (List Char) → ConfigFault → Prop
  | major {major : List Char} {rest : List (List Char)} (broken : ¬ IsPart major) :
      Broken raw (major :: rest) (.badVersionPart "major" raw)
  | noMinor {major : List Char} (isPart : IsPart major) :
      Broken raw [major] (.missingVersionPart raw "minor")
  | minor {major minor : List Char} {rest : List (List Char)} (isPart : IsPart major)
      (broken : ¬ IsPart minor) :
      Broken raw (major :: minor :: rest) (.badVersionPart "minor" raw)
  | patch {major minor patch : List Char} {free : List (List Char)} (major_isPart : IsPart major)
      (minor_isPart : IsPart minor) (broken : ¬ IsPart patch) :
      Broken raw (major :: minor :: patch :: free) (.badVersionPart "patch" raw)

/-! ### The core of a text -/

theorem isSuffix_dropWhile (cs : List Char) :
    IsSuffix (cs.dropWhile fun c => c ≠ '-' && c ≠ '+') := by
  cases rest : cs.dropWhile fun c => c ≠ '-' && c ≠ '+' with
  | nil => exact .nothing
  | cons c others =>
    have first : c ∈ (cs.dropWhile fun c => c ≠ '-' && c ≠ '+').head? := by
      rw [rest]
      rfl
    have stop := of_mem_head?_dropWhile first
    by_cases hyphen : c = '-'
    · exact hyphen ▸ .release others
    · have plus : c = '+' := by simpa [hyphen] using stop
      exact plus ▸ .build others

theorem hasCore_core (cs : List Char) : HasCore cs (core cs) := by
  generalize trimmed : Text.trimChars cs = inner
  have trims := Text.trimChars_eq_iff.mp trimmed
  have marks : inner.takeWhile (· = 'v') =
      List.replicate (inner.takeWhile (· = 'v')).length 'v' := by
    refine List.eq_replicate_of_mem fun c listed => ?_
    have mark := List.mem_takeWhile_imp listed
    exact of_decide_eq_true mark
  have front : inner.takeWhile (· = 'v') ++ inner.dropWhile (· = 'v') = inner :=
    List.takeWhile_append_dropWhile
  have cut : core cs ++ (inner.dropWhile (· = 'v')).dropWhile (fun c => c ≠ '-' && c ≠ '+') =
      inner.dropWhile (· = 'v') := by
    rw [core, trimmed]
    exact List.takeWhile_append_dropWhile
  rw [← front, marks, ← cut] at trims
  refine .intro trims ?_ ?_ (isSuffix_dropWhile _)
  · rw [cut]
    intro first
    have stop := of_mem_head?_dropWhile first
    exact of_decide_eq_false stop rfl
  · intro c listed
    rw [core] at listed
    simpa using List.mem_takeWhile_imp listed

theorem core_of_hasCore {cs numbers : List Char} (hasCore : HasCore cs numbers) :
    core cs = numbers := by
  obtain ⟨trims, unmarked, uncut, isSuffix⟩ := hasCore
  rename_i suffix marks
  have marks_run : ∀ c ∈ List.replicate marks 'v', decide (c = 'v') = true := by
    intro c listed
    exact decide_eq_true (List.mem_replicate.mp listed).2
  have marks_stop : ∀ c ∈ (numbers ++ suffix).head?, decide (c = 'v') = false := by
    intro c first
    refine decide_eq_false fun mark => unmarked ?_
    rw [← mark]
    exact first
  have numbers_run : ∀ c ∈ numbers, (decide (c ≠ '-') && decide (c ≠ '+')) = true := by
    intro c listed
    simpa using uncut c listed
  rw [core, Text.trimChars_eq_iff.mpr trims, dropWhile_append_of_stop marks_run marks_stop]
  refine takeWhile_append_of_stop numbers_run ?_
  intro c first
  cases isSuffix with
  | nothing => cases first
  | release | build =>
    cases first
    decide

theorem core_eq_iff {cs numbers : List Char} : core cs = numbers ↔ HasCore cs numbers := by
  constructor
  · rintro rfl
    exact hasCore_core cs
  · exact core_of_hasCore

/-! ### Pieces -/

theorem splitDots_eq (cs : List Char) : splitDots cs = cs.splitOn '.' := by
  induction cs with
  | nil => rfl
  | cons c rest ih =>
    rw [splitDots, ih, List.splitOn_cons_eq_if_modifyHead]
    by_cases dot : c = '.'
    · rw [if_pos dot, if_pos (beq_iff_eq.mpr dot)]
    · rw [if_neg dot, if_neg (beq_iff_eq.not.mpr dot)]
      cases pieces : rest.splitOn '.' with
      | nil => exact absurd pieces (List.splitOn_ne_nil '.' rest)
      | cons piece others => rfl

theorem mem_of_mem_splitOn {cs piece : List Char} (listed : piece ∈ cs.splitOn '.') :
    ∀ c ∈ piece, c ∈ cs := by
  intro c member
  obtain ⟨i, place⟩ := List.mem_iff_getElem?.mp listed
  have joined : ['.'].intercalate (cs.splitOn '.') = cs := List.intercalate_splitOn '.'
  have between : (List.intersperse ['.'] (cs.splitOn '.'))[2 * i]? = some piece :=
    List.getElem?_intersperse_two_mul.trans place
  rw [← joined]
  exact List.mem_flatten.mpr ⟨piece, List.mem_of_getElem? between, member⟩

theorem isPart_iff {digits : List Char} :
    IsPart digits ↔ ∃ n : UInt32, Text.Numeral digits n.toNat := by
  constructor
  · rintro ⟨n, small, numeral⟩
    have room : n < UInt32.size := Nat.lt_of_le_pred (by decide) small
    exact ⟨UInt32.ofNat n, (UInt32.toNat_ofNat_of_lt' room).symm ▸ numeral⟩
  · rintro ⟨n, numeral⟩
    exact ⟨n.toNat, Nat.le_pred_of_lt n.toNat_lt, numeral⟩

variable {raw part : String} {digits : List Char} {n : UInt32} {e : Error} {x : Version}

theorem readPart?_eq_some (unsigned : '+' ∉ digits) :
    readPart? digits = some n ↔ Text.Numeral digits n.toNat := by
  unfold readPart?
  cases read : Text.readUnsigned (UInt32.size - 1) digits with
  | ok k =>
    obtain ⟨numeral, small⟩ := (Text.readUnsigned_ok_of_unsigned unsigned).mp read
    have room : k < UInt32.size := Nat.lt_of_le_pred (by decide) small
    have exact_k : (UInt32.ofNat k).toNat = k := UInt32.toNat_ofNat_of_lt' room
    dsimp only
    rw [Option.some.injEq]
    constructor
    · rintro rfl
      rwa [exact_k]
    · intro other
      rw [← UInt32.toNat_inj, exact_k, ← numeral.value, ← other.value]
  | error fault =>
    refine iff_of_false nofun fun numeral => ?_
    have room : n.toNat ≤ UInt32.size - 1 := Nat.le_pred_of_lt n.toNat_lt
    rw [(Text.readUnsigned_ok_of_unsigned unsigned).mpr ⟨numeral, room⟩] at read
    cases read

theorem readPart_ok (unsigned : '+' ∉ digits) :
    readPart raw part (some digits) = .ok n ↔ Text.Numeral digits n.toNat := by
  rw [← readPart?_eq_some unsigned, readPart]
  cases readPart? digits with
  | none => exact iff_of_false nofun nofun
  | some k => rw [Except.ok.injEq, Option.some.injEq]

theorem readPart_error (unsigned : '+' ∉ digits) :
    readPart raw part (some digits) = .error e ↔
      ¬ IsPart digits ∧ e = .config (.badVersionPart part raw) := by
  rw [isPart_iff, readPart]
  simp only [← readPart?_eq_some unsigned]
  cases readPart? digits with
  | none =>
    rw [Except.error.injEq, eq_comm]
    exact (and_iff_right nofun).symm
  | some k => exact iff_of_false nofun fun ⟨absent, _⟩ => absent ⟨k, rfl⟩

/-! ### Versions -/

variable {pieces : List (List Char)} {fault : ConfigFault}

def readPieces (raw : String) (pieces : List (List Char)) : Except Error Version := do
  let major ← readPart raw "major" pieces[0]?
  let minor ← readPart raw "minor" pieces[1]?
  let patch ← readPart raw "patch" (pieces[2]?.orElse fun _ => some ['0'])
  return ⟨major, minor, patch⟩

theorem read_eq : read raw = readPieces raw ((core raw.toList).splitOn '.') := by
  rw [← splitDots_eq]
  rfl

theorem unsigned_of_core (cs : List Char) : ∀ piece ∈ (core cs).splitOn '.', '+' ∉ piece := by
  intro piece listed plus
  obtain ⟨_, _, uncut, _⟩ := hasCore_core cs
  exact (uncut '+' (mem_of_mem_splitOn listed '+' plus)).2 rfl

theorem numeral_zero_iff : Text.Numeral ['0'] n.toNat ↔ n = 0 := by
  constructor
  · intro numeral
    exact UInt32.toNat_inj.mp numeral.value.symm
  · rintro rfl
    exact Text.numeral_toString 0

theorem readPieces_ok (unsigned : ∀ piece ∈ pieces, '+' ∉ piece) :
    readPieces raw pieces = .ok x ↔ Spells pieces x := by
  simp only [readPieces, bind_ok]
  match pieces with
  | [] =>
    constructor
    · rintro ⟨_, absent, _⟩
      cases absent
    · nofun
  | [major] =>
    constructor
    · rintro ⟨_, _, _, absent, _⟩
      cases absent
    · nofun
  | [major, minor] =>
    simp only [List.forall_mem_cons] at unsigned
    obtain ⟨major_unsigned, minor_unsigned, _⟩ := unsigned
    have zero : '+' ∉ ['0'] := by decide
    simp only [List.getElem?_cons_zero, List.getElem?_cons_succ, List.getElem?_nil,
      Option.orElse_none, readPart_ok major_unsigned, readPart_ok minor_unsigned, readPart_ok zero,
      numeral_zero_iff]
    constructor
    · rintro ⟨_, major_eq, _, minor_eq, _, patch_eq, done⟩
      obtain rfl := pure_ok done
      exact .short major_eq minor_eq patch_eq
    · rintro ⟨major_eq, minor_eq, patch_eq⟩
      exact ⟨x.major, major_eq, x.minor, minor_eq, x.patch, patch_eq, rfl⟩
  | major :: minor :: patch :: free =>
    simp only [List.forall_mem_cons] at unsigned
    obtain ⟨major_unsigned, minor_unsigned, patch_unsigned, _⟩ := unsigned
    simp only [List.getElem?_cons_zero, List.getElem?_cons_succ, Option.orElse_some,
      readPart_ok major_unsigned, readPart_ok minor_unsigned, readPart_ok patch_unsigned]
    constructor
    · rintro ⟨_, major_eq, _, minor_eq, _, patch_eq, done⟩
      obtain rfl := pure_ok done
      exact .full major_eq minor_eq patch_eq
    · rintro (_ | ⟨major_eq, minor_eq, patch_eq⟩)
      exact ⟨x.major, major_eq, x.minor, minor_eq, x.patch, patch_eq, rfl⟩

theorem readPart_accepts (unsigned : '+' ∉ digits) (isPart : IsPart digits) :
    ∃ n, readPart raw part (some digits) = .ok n := by
  simp only [readPart_ok unsigned]
  exact isPart_iff.mp isPart

theorem readPieces_of_broken (unsigned : ∀ piece ∈ pieces, '+' ∉ piece)
    (broken : Broken raw pieces fault) : readPieces raw pieces = .error (.config fault) := by
  cases broken with
  | major broken =>
    have major_unsigned := unsigned _ List.mem_cons_self
    exact bind_error.mpr (.inl ((readPart_error major_unsigned).mpr ⟨broken, rfl⟩))
  | noMinor isPart =>
    obtain ⟨n, major_read⟩ := readPart_accepts (unsigned _ List.mem_cons_self) isPart
    exact bind_error.mpr (.inr ⟨n, major_read, rfl⟩)
  | minor isPart broken =>
    simp only [List.forall_mem_cons] at unsigned
    obtain ⟨major_unsigned, minor_unsigned, _⟩ := unsigned
    obtain ⟨n, major_read⟩ := readPart_accepts major_unsigned isPart
    refine bind_error.mpr (.inr ⟨n, major_read, bind_error.mpr (.inl ?_)⟩)
    exact (readPart_error minor_unsigned).mpr ⟨broken, rfl⟩
  | patch major_isPart minor_isPart broken =>
    simp only [List.forall_mem_cons] at unsigned
    obtain ⟨major_unsigned, minor_unsigned, patch_unsigned, _⟩ := unsigned
    obtain ⟨n, major_read⟩ := readPart_accepts major_unsigned major_isPart
    obtain ⟨m, minor_read⟩ := readPart_accepts minor_unsigned minor_isPart
    refine bind_error.mpr (.inr ⟨n, major_read, bind_error.mpr (.inr ⟨m, minor_read, ?_⟩)⟩)
    exact bind_error.mpr (.inl ((readPart_error patch_unsigned).mpr ⟨broken, rfl⟩))

theorem exists_spells_iff :
    (∃ x, Spells pieces x) ↔ 2 ≤ pieces.length ∧ ∀ piece ∈ pieces.take 3, IsPart piece := by
  constructor
  · rintro ⟨x, spells⟩
    cases spells with
    | short major_eq minor_eq _ =>
      have major_isPart := isPart_iff.mpr ⟨_, major_eq⟩
      have minor_isPart := isPart_iff.mpr ⟨_, minor_eq⟩
      simp [major_isPart, minor_isPart]
    | full major_eq minor_eq patch_eq =>
      have major_isPart := isPart_iff.mpr ⟨_, major_eq⟩
      have minor_isPart := isPart_iff.mpr ⟨_, minor_eq⟩
      have patch_isPart := isPart_iff.mpr ⟨_, patch_eq⟩
      simp [major_isPart, minor_isPart, patch_isPart]
  · rintro ⟨enough, parts⟩
    match pieces with
    | [major, minor] =>
      simp only [List.take, List.forall_mem_cons, isPart_iff] at parts
      obtain ⟨⟨a, major_eq⟩, ⟨b, minor_eq⟩, _⟩ := parts
      exact ⟨⟨a, b, 0⟩, .short major_eq minor_eq rfl⟩
    | major :: minor :: patch :: free =>
      simp only [List.take, List.forall_mem_cons, isPart_iff] at parts
      obtain ⟨⟨a, major_eq⟩, ⟨b, minor_eq⟩, ⟨c, patch_eq⟩, _⟩ := parts
      exact ⟨⟨a, b, c⟩, .full major_eq minor_eq patch_eq⟩

theorem spells_or_broken (raw : String) (present : pieces ≠ []) :
    (∃ x, Spells pieces x) ∨ ∃ fault, Broken raw pieces fault := by
  rw [exists_spells_iff]
  obtain ⟨major, rest, rfl⟩ := List.exists_cons_of_ne_nil present
  by_cases major_isPart : IsPart major
  · match rest with
    | [] => exact .inr ⟨_, .noMinor major_isPart⟩
    | minor :: rest =>
      by_cases minor_isPart : IsPart minor
      · match rest with
        | [] =>
          left
          simp [major_isPart, minor_isPart]
        | patch :: free =>
          by_cases patch_isPart : IsPart patch
          · left
            simp [major_isPart, minor_isPart, patch_isPart]
          · exact .inr ⟨_, .patch major_isPart minor_isPart patch_isPart⟩
      · exact .inr ⟨_, .minor major_isPart minor_isPart⟩
  · exact .inr ⟨_, .major major_isPart⟩

theorem read_ok : read raw = .ok x ↔ Spells ((core raw.toList).splitOn '.') x := by
  rw [read_eq, readPieces_ok (unsigned_of_core raw.toList)]

theorem read_error : read raw = .error e ↔
    ∃ fault, Broken raw ((core raw.toList).splitOn '.') fault ∧ e = .config fault := by
  have unsigned := unsigned_of_core raw.toList
  constructor
  · intro failed
    rcases spells_or_broken raw (List.splitOn_ne_nil '.' (core raw.toList)) with
      ⟨x, spells⟩ | ⟨fault, broken⟩
    · rw [read_ok.mpr spells] at failed
      cases failed
    · rw [read_eq, readPieces_of_broken unsigned broken] at failed
      exact ⟨fault, broken, (Except.error.inj failed).symm⟩
  · rintro ⟨fault, broken, rfl⟩
    rw [read_eq, readPieces_of_broken unsigned broken]

/-! ### Surrounded versions -/

theorem text_toList (x : Version) : x.text.toList =
    (toString x.major.toNat).toList ++ '.' :: ((toString x.minor.toNat).toList ++
      '.' :: (toString x.patch.toNat).toList) := by
  simp only [text, String.toList_append, List.append_assoc]
  rfl

theorem spells_text (x : Version) : Spells (x.text.toList.splitOn '.') x := by
  have major_eq := Text.numeral_toString x.major.toNat
  have minor_eq := Text.numeral_toString x.minor.toNat
  have patch_eq := Text.numeral_toString x.patch.toNat
  have dot : '.'.isDigit = false := by decide
  rw [text_toList, List.splitOn_append_cons_self_of_not_mem (major_eq.not_mem dot),
    List.splitOn_append_cons_self_of_not_mem (minor_eq.not_mem dot),
    List.splitOn_eq_singleton (patch_eq.not_mem dot)]
  exact .full major_eq minor_eq patch_eq

theorem plain_of_mem_text (x : Version) : ∀ c ∈ x.text.toList, c.isDigit = true ∨ c = '.' := by
  intro c listed
  simp only [text_toList, List.mem_append, List.mem_cons] at listed
  rcases listed with major | rfl | minor | rfl | patch
  · exact .inl ((Text.numeral_toString _).decimal c major)
  · exact .inr rfl
  · exact .inl ((Text.numeral_toString _).decimal c minor)
  · exact .inr rfl
  · exact .inl ((Text.numeral_toString _).decimal c patch)

variable {before numbers suffix after : List Char}

theorem IsSuffix.first (isSuffix : IsSuffix suffix) : ∀ c ∈ suffix.head?, c = '-' ∨ c = '+' := by
  intro c first
  cases isSuffix with
  | nothing => cases first
  | release => exact .inl (Option.some.inj first).symm
  | build => exact .inr (Option.some.inj first).symm

theorem IsSuffix.trimmed (isSuffix : IsSuffix suffix) :
    IsSuffix (suffix.rdropWhile Text.isWhiteSpace) := by
  cases isSuffix with
  | nothing => exact .nothing
  | release rest =>
    rw [rdropWhile_cons_of_neg (by decide)]
    exact .release _
  | build rest =>
    rw [rdropWhile_cons_of_neg (by decide)]
    exact .build _

theorem hasCore_of_surrounded {marks : Nat} (plain : ∀ c ∈ numbers, c.isDigit = true ∨ c = '.')
    (blank_before : ∀ c ∈ before, Text.isWhiteSpace c = true) (isSuffix : IsSuffix suffix)
    (blank_after : ∀ c ∈ after, Text.isWhiteSpace c = true) :
    HasCore (before ++ (List.replicate marks 'v' ++ (numbers ++ (suffix ++ after)))) numbers := by
  have solid : ∀ c ∈ List.replicate marks 'v' ++ numbers, Text.isWhiteSpace c = false := by
    intro c listed
    rcases List.mem_append.mp listed with mark | number
    · rw [(List.mem_replicate.mp mark).2]
      decide
    · rcases plain c number with digit | rfl
      · exact Text.isWhiteSpace_of_isDigit digit
      · decide
  have sign : ∀ c ∈ suffix.head?, Text.isWhiteSpace c = false := by
    intro c first
    rcases isSuffix.first c first with rfl | rfl <;> decide
  have trims := Text.trims_of_solid blank_before solid sign blank_after
  rw [List.append_assoc, List.append_assoc] at trims
  refine .intro trims ?_ ?_ isSuffix.trimmed
  · intro mark
    rcases of_mem_head?_append mark with inside | later
    · exact absurd (plain 'v' inside) (by decide)
    · exact absurd (isSuffix.trimmed.first 'v' later) (by decide)
  · intro c listed
    rcases plain c listed with digit | rfl
    · constructor
      · rintro rfl
        cases digit
      · rintro rfl
        cases digit
    · decide

theorem read_surrounded (x : Version) (marks : Nat) {before suffix after : String}
    (blank_before : Text.isBlank before = true) (isSuffix : IsSuffix suffix.toList)
    (blank_after : Text.isBlank after = true) :
    read (before ++ String.ofList (List.replicate marks 'v') ++ x.text ++ suffix ++ after) =
      .ok x := by
  rw [read_ok]
  simp only [String.toList_append, String.toList_ofList, List.append_assoc]
  rw [core_of_hasCore (hasCore_of_surrounded (plain_of_mem_text x) (Text.isBlank_iff.mp blank_before)
    isSuffix (Text.isBlank_iff.mp blank_after))]
  exact spells_text x

/-- A text is read as a version iff its core holds at least two numbers of 32 bits, and a third one
if there are more pieces, and the version holds these numbers. Any other text is refused for its
first part that is missing or broken. What surrounds the text of a version does not count. -/
theorem read_exact :
    (∀ raw x, read raw = .ok x ↔
      ∃ numbers, HasCore raw.toList numbers ∧ Spells (numbers.splitOn '.') x) ∧
    (∀ raw, (∃ x, read raw = .ok x) ↔ ∃ numbers, HasCore raw.toList numbers ∧
      2 ≤ (numbers.splitOn '.').length ∧ ∀ piece ∈ (numbers.splitOn '.').take 3, IsPart piece) ∧
    (∀ raw e, read raw = .error e ↔ ∃ numbers, HasCore raw.toList numbers ∧
      ∃ fault, Broken raw (numbers.splitOn '.') fault ∧ e = .config fault) ∧
    ∀ (x : Version) (marks : Nat) (before suffix after : String), Text.isBlank before = true →
      IsSuffix suffix.toList → Text.isBlank after = true →
      read (before ++ String.ofList (List.replicate marks 'v') ++ x.text ++ suffix ++ after) =
        .ok x := by
  refine ⟨fun raw x => ?_, fun raw => ?_, fun raw e => ?_, ?_⟩
  · simp only [← core_eq_iff, exists_eq_left', read_ok]
  · simp only [← core_eq_iff, exists_eq_left', read_ok, exists_spells_iff]
  · simp only [← core_eq_iff, exists_eq_left', read_error]
  · intro x marks before suffix after blank_before isSuffix blank_after
    exact read_surrounded x marks blank_before isSuffix blank_after

/-- A release candidate behind two `v`s, with an ideographic space in front and blanks that end its
suffix; a version without a patch; a minor version that is one too large; and a patch that is empty
behind its dot. -/
theorem read_exact_surrounded :
    read "\u3000vv1.25.0-rc.1 \n" = .ok ⟨1, 25, 0⟩ ∧
    read "1.26" = .ok ⟨1, 26, 0⟩ ∧
    read "1.4294967296" = .error (.config (.badVersionPart "minor" "1.4294967296")) ∧
    read "1.26." = .error (.config (.badVersionPart "patch" "1.26.")) := by
  obtain ⟨accepted, _, refused, surrounded⟩ := read_exact
  have one : Text.Numeral ['1'] 1 := Text.numeral_toString 1
  have twentySix : Text.Numeral ['2', '6'] 26 := Text.numeral_toString 26
  have one_isPart : IsPart ['1'] := ⟨1, by decide, one⟩
  have twentySix_isPart : IsPart ['2', '6'] := ⟨26, by decide, twentySix⟩
  refine ⟨?_, ?_, ?_, ?_⟩
  · exact surrounded ⟨1, 25, 0⟩ 2 "\u3000" "-rc.1 " "\n" (by decide) (.release _) (by decide)
  · refine (accepted "1.26" ⟨1, 26, 0⟩).mpr ⟨_, hasCore_core _, ?_⟩
    exact .short one twentySix rfl
  · have large : ¬ IsPart ['4', '2', '9', '4', '9', '6', '7', '2', '9', '6'] := by
      rintro ⟨_, small, numeral⟩
      rw [← numeral.value] at small
      exact absurd small (by decide)
    exact (refused "1.4294967296" _).mpr ⟨_, hasCore_core _, _, .minor one_isPart large, rfl⟩
  · have empty : ¬ IsPart [] := fun ⟨_, _, numeral⟩ => numeral.present rfl
    exact (refused "1.26." _).mpr
      ⟨_, hasCore_core _, _, .patch one_isPart twentySix_isPart empty, rfl⟩

end VectorClient.Version
