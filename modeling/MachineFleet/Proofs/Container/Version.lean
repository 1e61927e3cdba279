import MachineFleet.Container.Version
import MachineFleet.Proofs.Json.Integers
import MachineFleet.Proofs.Outcome
import MachineFleet.Proofs.Text.Lines

/-!
Versions as they are written. The grammar says of which parts a version is made, and the reader
takes exactly the texts of that grammar, each as the version of its parts.
-/

namespace MachineFleet.Version

/-- A number in decimal digits without leading zeros, of at most 64 bits. -/
def IsNumber (cs : List Char) (n : Nat) : Prop := cs = Nat.toDigits 10 n ∧ n ≤ maxNumber

/-- Letters, digits and hyphens, at least one of them. In a pre-release a segment that is a number
has no leading zero. -/
structure IsSegment (part : Part) (s : List Char) : Prop where
  filled : s ≠ []
  named : ∀ c ∈ s, isDigit c = true ∨ isNameChar c = true
  plain : part = .pre → (∀ c ∈ s, isDigit c = true) → s.head? = some '0' → s = ['0']

/-- Segments with dots between them. -/
def IsIdentifier (part : Part) (cs : List Char) : Prop :=
  ∃ segments, segments ≠ [] ∧ (∀ s ∈ segments, IsSegment part s) ∧ cs = ['.'].intercalate segments

/-- A sign and an identifier behind it, or nothing. -/
inductive IsTagged (sign : Char) (part : Part) : List Char → String → Prop
  | absent : IsTagged sign part [] ""
  | present {own : List Char} (identifier : IsIdentifier part own) :
      IsTagged sign part (sign :: own) (String.ofList own)

/-- A dot and a number behind it, or nothing, which counts as zero. -/
inductive IsPatch : List Char → Nat → Prop
  | omitted : IsPatch [] 0
  | given {ds : List Char} {n : Nat} (number : IsNumber ds n) : IsPatch ('.' :: ds) n

/-- The parts of a written version. The last three have their marks with them, where they are not
left out. -/
structure Parts where
  major : List Char
  minor : List Char
  patch : List Char
  pre : List Char
  build : List Char

def Parts.text (p : Parts) : List Char :=
  p.major ++ '.' :: (p.minor ++ (p.patch ++ (p.pre ++ p.build)))

structure Parts.Spell (p : Parts) (v : Version) : Prop where
  major : IsNumber p.major v.major
  minor : IsNumber p.minor v.minor
  patch : IsPatch p.patch v.patch
  pre : IsTagged '-' .pre p.pre v.pre
  build : IsTagged '+' .build p.build v.build

variable {part : Part} {cs rest : List Char} {n value : Nat}

/-- What comes behind a text of characters of one kind: nothing, or a character of another kind. -/
def Clear (kind : Char → Bool) (rest : List Char) : Prop :=
  ∀ c, rest.head? = some c → kind c = false

section Clear

variable {kind : Char → Bool} {a : List Char}

theorem clear_nil : Clear kind [] := nofun

theorem clear_cons {c : Char} (other : kind c = false) (rest : List Char) :
    Clear kind (c :: rest) :=
  fun _ head => Option.some.inj head ▸ other

theorem clear_dropWhile (kind : Char → Bool) (cs : List Char) : Clear kind (cs.dropWhile kind) := by
  intro c head
  have other := List.head?_dropWhile_not kind cs
  rw [head] at other
  exact other

theorem takeWhile_of_clear (all : ∀ c ∈ a, kind c = true) (clear : Clear kind rest) :
    (a ++ rest).takeWhile kind = a := by
  rw [List.takeWhile_append_of_pos all]
  cases rest with
  | nil => exact List.append_nil a
  | cons c rest => rw [List.takeWhile_cons_of_neg (by simp [clear c rfl]), List.append_nil]

theorem dropWhile_of_clear (all : ∀ c ∈ a, kind c = true) (clear : Clear kind rest) :
    (a ++ rest).dropWhile kind = rest := by
  rw [List.dropWhile_append_of_pos all]
  cases rest with
  | nil => rfl
  | cons c rest => rw [List.dropWhile_cons_of_neg (by simp [clear c rfl])]

end Clear

theorem isDigit_iff {c : Char} : isDigit c = true ↔ c.isDigit = true := by
  simp [isDigit, Char.isDigit, Char.le_def]

theorem toNat_of_isDigit {c : Char} (digit : isDigit c = true) : 48 ≤ c.toNat ∧ c.toNat ≤ 57 := by
  simpa [isDigit, Char.le_def, UInt32.le_iff_toNat_le] using digit

theorem toDigits_digit {c : Char} (digit : isDigit c = true) :
    Nat.toDigits 10 (c.toNat - 48) = [c] := by
  obtain ⟨low, high⟩ := toNat_of_isDigit digit
  have same : (Nat.digitChar (c.toNat - 48)).toNat = c.toNat := by
    rw [Nat.toNat_digitChar_of_lt_ten (by omega)]
    omega
  rw [Nat.toDigits_of_lt_base (by omega), Char.toNat_inj.mp same]

theorem toDigits_snoc {c : Char} (positive : 0 < value) (digit : isDigit c = true) :
    Nat.toDigits 10 value ++ [c] = Nat.toDigits 10 (value * 10 + (c.toNat - 48)) := by
  have small := toNat_of_isDigit digit
  rw [← toDigits_digit digit, Nat.mul_comm]
  exact Nat.toDigits_append_toDigits (by decide) positive (by omega)

theorem not_toDigits_zero {c : Char} (ds : List Char) : Nat.toDigits 10 n ≠ '0' :: c :: ds := by
  intro same
  rcases Nat.eq_zero_or_pos n with rfl | positive
  · simp at same
  · exact Json.Numeral.head?_toDigits positive (by rw [same]; rfl)

theorem le_of_toDigits_append {ds : List Char}
    (same : Nat.toDigits 10 value ++ ds = Nat.toDigits 10 n) : value ≤ n := by
  have whole := congrArg (Nat.ofDigitChars 10 · 0) same
  rw [Nat.ofDigitChars_append, Nat.ofDigitChars_ten_toDigits,
    Nat.ofDigitChars_ten_toDigits] at whole
  exact whole ▸ Json.Numeral.le_ofDigitChars ds value

theorem isDigit_of_isNumber (number : IsNumber cs n) : ∀ c ∈ cs, isDigit c = true := by
  intro c member
  rw [number.1] at member
  exact isDigit_iff.mpr (Json.isDigit_toDigits n c member)

theorem digits_started (read : digits part value true cs = .ok (n, rest))
    (fits : value ≤ maxNumber) : ∃ ds, cs = ds ++ rest ∧
      Nat.toDigits 10 value ++ ds = Nat.toDigits 10 n ∧ n ≤ maxNumber ∧ Clear isDigit rest := by
  induction cs generalizing value with
  | nil =>
    cases read
    exact ⟨[], rfl, List.append_nil _, fits, nofun⟩
  | cons c cs ih =>
    unfold digits at read
    cases digit : isDigit c with
    | false =>
      rw [digit] at read
      cases read
      exact ⟨[], rfl, List.append_nil _, fits, fun _ head => Option.some.inj head ▸ digit⟩
    | true =>
      rw [digit, if_pos rfl] at read
      split at read
      · cases read
      rename_i nonzero
      dsimp only at read
      split at read
      · cases read
      rename_i small
      obtain ⟨ds, rfl, whole, fits, clear⟩ := ih read (Nat.le_of_not_lt small)
      have positive : 0 < value := Nat.pos_of_ne_zero (by simpa using nonzero)
      rw [← toDigits_snoc positive digit, List.append_assoc] at whole
      exact ⟨c :: ds, rfl, whole, fits, clear⟩

theorem digits_of_toDigits {ds : List Char}
    (whole : Nat.toDigits 10 value ++ ds = Nat.toDigits 10 n) (fits : n ≤ maxNumber)
    (clear : Clear isDigit rest) : digits part value true (ds ++ rest) = .ok (n, rest) := by
  induction ds generalizing value with
  | nil =>
    rw [List.append_nil] at whole
    rw [List.nil_append, Json.toDigits_inj whole]
    cases rest with
    | nil => rfl
    | cons c rest =>
      have other : isDigit c = false := clear c rfl
      rw [digits, other]
      rfl
  | cons c ds ih =>
    have digit : isDigit c = true :=
      isDigit_iff.mpr (Json.isDigit_toDigits n c (whole ▸ by simp))
    have positive : 0 < value := by
      refine Nat.pos_of_ne_zero fun zero => not_toDigits_zero ds (n := n) (c := c) ?_
      rw [← whole, zero]
      rfl
    rw [List.append_cons, toDigits_snoc positive digit] at whole
    have small := Nat.le_trans (le_of_toDigits_append whole) fits
    rw [List.cons_append, digits, if_pos digit, if_neg (by simp; omega)]
    dsimp only
    rw [if_neg (Nat.not_lt.mpr small)]
    exact ih whole

theorem number_cons (part : Part) {c : Char} (digit : isDigit c = true) (cs : List Char) :
    number part (c :: cs) = digits part (c.toNat - 48) true cs ∧ c.toNat - 48 ≤ maxNumber := by
  have small := toNat_of_isDigit digit
  have fits : c.toNat - 48 ≤ maxNumber := Nat.le_trans (by omega : _ ≤ 9) (by decide)
  refine ⟨?_, fits⟩
  rw [number, digits, if_pos digit, if_neg (by simp)]
  dsimp only
  rw [Nat.zero_mul, Nat.zero_add, if_neg (Nat.not_lt.mpr fits)]

/-- A number is read up to a character that is no digit. -/
theorem number_eq_ok_iff : number part cs = .ok (n, rest) ↔
    ∃ ds, cs = ds ++ rest ∧ IsNumber ds n ∧ Clear isDigit rest := by
  constructor
  · intro read
    cases cs with
    | nil => cases read
    | cons c cs =>
      cases digit : isDigit c with
      | false =>
        rw [number, digits, digit] at read
        cases read
      | true =>
        obtain ⟨first, fits⟩ := number_cons part digit cs
        rw [first] at read
        obtain ⟨ds, rfl, whole, fits, clear⟩ := digits_started read fits
        rw [toDigits_digit digit] at whole
        exact ⟨c :: ds, rfl, ⟨whole, fits⟩, clear⟩
  · rintro ⟨ds, rfl, spelled, clear⟩
    cases ds with
    | nil => exact absurd spelled.1.symm Nat.toDigits_ne_nil
    | cons c ds =>
      have digit := isDigit_of_isNumber spelled c List.mem_cons_self
      have whole := spelled.1
      rw [← List.singleton_append, ← toDigits_digit digit] at whole
      exact (number_cons part digit (ds ++ rest)).1.trans (digits_of_toDigits whole spelled.2 clear)

theorem dot_eq_ok_iff : dot part cs = .ok rest ↔ cs = '.' :: rest := by
  cases cs with
  | nil => simp [dot]
  | cons c cs =>
    by_cases same : c = '.' <;> simp [dot, same]

def isNamed (c : Char) : Bool := isDigit c || isNameChar c || c == '.'

theorem isNamed_of_ne {c : Char} (other : c ≠ '.') :
    isNamed c = true ↔ isDigit c = true ∨ isNameChar c = true := by
  simp [isNamed, other]

theorem checkSegment_eq_ok_iff {s : List Char}
    (named : ∀ c ∈ s, isDigit c = true ∨ isNameChar c = true) :
    checkSegment part s = .ok () ↔ IsSegment part s := by
  unfold checkSegment
  constructor
  · intro checked
    split at checked
    · cases checked
    rename_i filled
    split at checked
    · cases checked
    rename_i plain
    refine ⟨by simpa using filled, named, fun pre digits zero => ?_⟩
    have short : ¬ 1 < s.length := fun long =>
      plain ⟨pre, List.all_eq_true.mpr digits, zero, long⟩
    obtain ⟨c, rest, rfl⟩ := List.exists_cons_of_ne_nil (by simpa using filled : s ≠ [])
    cases rest with
    | nil => exact congrArg (fun c => [c]) (Option.some.inj zero)
    | cons d rest => exact absurd (by simp) short
  · intro segment
    rw [if_neg (by simpa using segment.filled), if_neg]
    rintro ⟨pre, digits, zero, long⟩
    rw [segment.plain pre (List.all_eq_true.mp digits) zero] at long
    exact absurd long (by decide)

theorem checkSegments_eq_ok_iff {ss : List (List Char)} :
    checkSegments part ss = .ok () ↔ ∀ s ∈ ss, checkSegment part s = .ok () := by
  induction ss with
  | nil => simp [checkSegments]
  | cons s rest ih =>
    rw [checkSegments, List.forall_mem_cons, ← ih]
    cases checkSegment part s <;> simp [bind, Except.bind]

/-- An identifier is told by its characters and by what stands between its dots. -/
theorem isIdentifier_iff {own : List Char} : IsIdentifier part own ↔
    (∀ c ∈ own, isNamed c = true) ∧ checkSegments part (Text.splitOn '.' own) = .ok () := by
  rw [checkSegments_eq_ok_iff]
  constructor
  · rintro ⟨segments, some, each, rfl⟩
    have free : ∀ s ∈ segments, '.' ∉ s := fun s member dot => by
      rcases (each s member).named '.' dot with digit | name
      · exact absurd digit (by decide)
      · exact absurd name (by decide)
    have pieces : Text.splitOn '.' (['.'].intercalate segments) = segments :=
      (Text.splitOn_eq _ _).trans (List.splitOn_intercalate '.' free some)
    rw [pieces]
    refine ⟨fun c member => ?_, fun s member =>
      (checkSegment_eq_ok_iff (each s member).named).mpr (each s member)⟩
    by_cases dot : c = '.'
    · rw [dot]
      decide
    · obtain ⟨s, member, inside⟩ := (Text.mem_iff_mem_splitOn dot).mp member
      rw [pieces] at member
      exact (isNamed_of_ne dot).mpr ((each s member).named c inside)
  · rintro ⟨named, checked⟩
    have whole : ['.'].intercalate (Text.splitOn '.' own) = own := by
      rw [Text.splitOn_eq, List.intercalate_splitOn]
    obtain ⟨s, ss, pieces⟩ := Text.exists_splitOn '.' own
    refine ⟨Text.splitOn '.' own, by simp [pieces], fun s member => ?_, whole.symm⟩
    refine (checkSegment_eq_ok_iff fun c inside => ?_).mp (checked s member)
    have other : c ≠ '.' := fun dot => Text.not_mem_of_mem_splitOn member (dot ▸ inside)
    exact (isNamed_of_ne other).mp
      (named c ((Text.mem_iff_mem_splitOn other).mpr ⟨s, member, inside⟩))

/-- An identifier is read up to a character that no identifier has. -/
theorem identifier_eq_ok_iff {s : String} : identifier part cs = .ok (s, rest) ↔
    ∃ own, cs = own ++ rest ∧ s = String.ofList own ∧ IsIdentifier part own ∧
      Clear isNamed rest := by
  have unfolded : identifier part cs = (do
      checkSegments part (Text.splitOn '.' (cs.takeWhile isNamed))
      return (String.ofList (cs.takeWhile isNamed), cs.drop (cs.takeWhile isNamed).length)) := rfl
  have named : ∀ c ∈ cs.takeWhile isNamed, isNamed c = true :=
    List.all_eq_true.mp List.all_takeWhile
  rw [unfolded]
  constructor
  · intro read
    obtain ⟨_, checked, read⟩ := ok_of_bind read
    have whole := List.takeWhile_append_dropWhile (p := isNamed) (l := cs)
    have left : (cs.takeWhile isNamed ++ cs.dropWhile isNamed).drop
        (cs.takeWhile isNamed).length = cs.dropWhile isNamed := List.drop_left
    rw [whole] at left
    rw [left] at read
    cases read
    exact ⟨_, whole.symm, rfl, isIdentifier_iff.mpr ⟨named, checked⟩, clear_dropWhile isNamed cs⟩
  · rintro ⟨own, rfl, rfl, spelled, clear⟩
    obtain ⟨named, checked⟩ := isIdentifier_iff.mp spelled
    rw [takeWhile_of_clear named clear, checked, List.drop_left]
    rfl

theorem tagged_eq_ok_iff {sign : Char} {s : String} : tagged sign part cs = .ok (s, rest) ↔
    ∃ own, cs = own ++ rest ∧ IsTagged sign part own s ∧
      Clear (fun c => if own = [] then c == sign else isNamed c) rest := by
  constructor
  · intro read
    cases cs with
    | nil =>
      cases read
      exact ⟨[], rfl, .absent, clear_nil⟩
    | cons c cs =>
      rw [tagged] at read
      split at read
      · rename_i same
        obtain ⟨own, rfl, rfl, spelled, clear⟩ := identifier_eq_ok_iff.mp read
        exact ⟨sign :: own, by rw [same]; rfl, .present spelled, clear⟩
      · rename_i other
        cases read
        exact ⟨[], rfl, .absent, clear_cons (by simpa using other) cs⟩
  · rintro ⟨own, rfl, spelled, clear⟩
    cases spelled with
    | absent =>
      cases rest with
      | nil => rfl
      | cons c rest =>
        have other : (c == sign) = false := clear c rfl
        exact if_neg (by simpa using other)
    | present spelled =>
      rw [List.cons_append, tagged, if_pos rfl]
      exact identifier_eq_ok_iff.mpr ⟨_, rfl, rfl, spelled, clear⟩

/-- A tagged part begins with its sign, if it is there. -/
theorem IsTagged.clear {sign : Char} {own : List Char} {s : String} {kind : Char → Bool}
    (tagged : IsTagged sign part own s) (other : kind sign = false) (clear : Clear kind rest) :
    Clear kind (own ++ rest) := by
  cases tagged with
  | absent => exact clear
  | present identifier => exact clear_cons other _

/-- A version is read part by part. -/
theorem readChars_eq_ok_iff_steps {v : Version} : readChars cs = .ok v ↔ ∃ c₁ c₂ c₃ c₄ c₅ c₆,
    number .major cs = .ok (v.major, c₁) ∧ dot .major c₁ = .ok c₂ ∧
    number .minor c₂ = .ok (v.minor, c₃) ∧ dot .minor c₃ = .ok c₄ ∧
    number .patch c₄ = .ok (v.patch, c₅) ∧ tagged '-' .pre c₅ = .ok (v.pre, c₆) ∧
    tagged '+' .build c₆ = .ok (v.build, []) := by
  unfold readChars
  constructor
  · intro read
    split at read
    · cases read
    obtain ⟨⟨major, c₁⟩, first, read⟩ := ok_of_bind read
    obtain ⟨c₂, second, read⟩ := ok_of_bind read
    obtain ⟨⟨minor, c₃⟩, third, read⟩ := ok_of_bind read
    obtain ⟨c₄, fourth, read⟩ := ok_of_bind read
    obtain ⟨⟨patch, c₅⟩, fifth, read⟩ := ok_of_bind read
    obtain ⟨⟨pre, c₆⟩, sixth, read⟩ := ok_of_bind read
    obtain ⟨⟨build, c₇⟩, seventh, read⟩ := ok_of_bind read
    cases c₇ with
    | cons c rest => cases read
    | nil =>
      cases read
      exact ⟨c₁, c₂, c₃, c₄, c₅, c₆, first, second, third, fourth, fifth, sixth, seventh⟩
  · rintro ⟨c₁, c₂, c₃, c₄, c₅, c₆, first, second, third, fourth, fifth, sixth, seventh⟩
    have some : cs.isEmpty = false := by
      cases cs with
      | nil => cases first
      | cons c rest => rfl
    simp only [some, Bool.false_eq_true, if_false, first, second, third, fourth, fifth, sixth,
      seventh, bind, Except.bind]
    rfl

/-- The reader takes exactly the texts of the grammar in which the third number is given. -/
theorem readChars_eq_ok_iff {v : Version} : readChars cs = .ok v ↔
    ∃ p : Parts, p.text = cs ∧ p.Spell v ∧ p.patch ≠ [] := by
  rw [readChars_eq_ok_iff_steps]
  constructor
  · rintro ⟨c₁, c₂, c₃, c₄, c₅, c₆, first, second, third, fourth, fifth, sixth, seventh⟩
    obtain ⟨major, rfl, isMajor, -⟩ := number_eq_ok_iff.mp first
    obtain rfl := dot_eq_ok_iff.mp second
    obtain ⟨minor, rfl, isMinor, -⟩ := number_eq_ok_iff.mp third
    obtain rfl := dot_eq_ok_iff.mp fourth
    obtain ⟨patch, rfl, isPatch, -⟩ := number_eq_ok_iff.mp fifth
    obtain ⟨pre, rfl, isPre, -⟩ := tagged_eq_ok_iff.mp sixth
    obtain ⟨build, rfl, isBuild, -⟩ := tagged_eq_ok_iff.mp seventh
    refine ⟨⟨major, minor, '.' :: patch, pre, build⟩, ?_,
      ⟨isMajor, isMinor, .given isPatch, isPre, isBuild⟩, List.cons_ne_nil _ _⟩
    simp [Parts.text]
  · rintro ⟨⟨major, minor, patch, pre, build⟩, rfl, spell, given⟩
    obtain ⟨m, n, k, preText, buildText⟩ := v
    obtain ⟨isMajor, isMinor, isPatch, isPre, isBuild⟩ := spell
    obtain ⟨ds, rfl, number⟩ : ∃ ds, patch = '.' :: ds ∧ IsNumber ds k := by
      cases isPatch with
      | omitted => exact absurd rfl given
      | given number => exact ⟨_, rfl, number⟩
    refine ⟨_, _, _, _, _, _, number_eq_ok_iff.mpr ⟨major, rfl, isMajor, ?_⟩,
      dot_eq_ok_iff.mpr rfl, number_eq_ok_iff.mpr ⟨minor, rfl, isMinor, ?_⟩,
      dot_eq_ok_iff.mpr rfl, number_eq_ok_iff.mpr ⟨ds, rfl, number, ?_⟩,
      tagged_eq_ok_iff.mpr ⟨pre, rfl, isPre, ?_⟩,
      tagged_eq_ok_iff.mpr ⟨build, (List.append_nil build).symm, isBuild, clear_nil⟩⟩
    · exact clear_cons (by decide) _
    · exact clear_cons (by decide) _
    · exact isPre.clear (by decide) (List.append_nil build ▸ isBuild.clear (by decide) clear_nil)
    · refine List.append_nil build ▸ isBuild.clear ?_ clear_nil
      split <;> decide

end MachineFleet.Version
