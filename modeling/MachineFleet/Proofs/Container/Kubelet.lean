import MachineFleet.Container.Options
import MachineFleet.Proofs.Container.Version
import MachineFleet.Proofs.Text.Blank
import MachineFleet.Proofs.Text.Cut

/-!
Versions of kubelets. They are those of the grammar, with or without the third number, behind blanks
and letters `v`; a third number of zero may be put in or left out.
-/

namespace MachineFleet.Version

variable {front back cs : List Char}

theorem padPatch_append (unsigned : ∀ c ∈ front, isSign c = false)
    (signed : Clear (fun c => !isSign c) back) : padPatch (front ++ back) =
      if front.count '.' = 1 then front ++ '.' :: '0' :: back else front ++ back := by
  have first : (front ++ back).takeWhile (fun c => !isSign c) = front :=
    takeWhile_of_clear (by simpa using unsigned) signed
  have last : (front ++ back).dropWhile (fun c => !isSign c) = back :=
    dropWhile_of_clear (by simpa using unsigned) signed
  unfold padPatch
  dsimp only
  rw [first, last]
  split <;> simp

theorem exists_unsigned (cs : List Char) : ∃ front back, cs = front ++ back ∧
    (∀ c ∈ front, isSign c = false) ∧ Clear (fun c => !isSign c) back := by
  refine ⟨_, _, List.takeWhile_append_dropWhile.symm, ?_, clear_dropWhile (fun c => !isSign c) cs⟩
  intro c member
  simpa using List.all_eq_true.mp List.all_takeWhile c member

theorem unsigned_unique {front' back' : List Char} (unsigned : ∀ c ∈ front, isSign c = false)
    (signed : Clear (fun c => !isSign c) back) (unsigned' : ∀ c ∈ front', isSign c = false)
    (signed' : Clear (fun c => !isSign c) back') (same : front ++ back = front' ++ back') :
    front = front' ∧ back = back' := by
  have first := congrArg (List.takeWhile fun c => !isSign c) same
  have last := congrArg (List.dropWhile fun c => !isSign c) same
  rw [takeWhile_of_clear (by simpa using unsigned) signed,
    takeWhile_of_clear (by simpa using unsigned') signed'] at first
  rw [dropWhile_of_clear (by simpa using unsigned) signed,
    dropWhile_of_clear (by simpa using unsigned') signed'] at last
  exact ⟨first, last⟩

/-- The last dot cuts a text in one way. -/
theorem last_dot {a b a' b' : List Char} (free : '.' ∉ b) (free' : '.' ∉ b')
    (same : a ++ '.' :: b = a' ++ '.' :: b') : a = a' ∧ b = b' := by
  have mirrored : b.reverse ++ '.' :: a.reverse = b'.reverse ++ '.' :: a'.reverse := by
    simpa using congrArg List.reverse same
  have cut := congrArg (Text.cutAt '.') mirrored
  rw [Text.cutAt_append (by simpa using free), Text.cutAt_append (by simpa using free')] at cut
  simpa [and_comm] using cut

theorem unsigned_of_isDigit {c : Char} (digit : isDigit c = true) : isSign c = false := by
  rw [isSign, Bool.or_eq_false_iff]
  constructor
  · refine beq_false_of_ne ?_
    rintro rfl
    exact absurd digit (by decide)
  · refine beq_false_of_ne ?_
    rintro rfl
    exact absurd digit (by decide)

theorem dot_not_mem_of_isNumber {n : Nat} (number : IsNumber cs n) : '.' ∉ cs :=
  fun member => absurd (isDigit_of_isNumber number '.' member) (by decide)

theorem IsPatch.unsigned {n : Nat} (patch : IsPatch cs n) : ∀ c ∈ cs, isSign c = false := by
  cases patch with
  | omitted => exact List.forall_mem_nil _
  | given number =>
    exact List.forall_mem_cons.mpr
      ⟨by decide, fun c member => unsigned_of_isDigit (isDigit_of_isNumber number c member)⟩

theorem IsPatch.count_dot {n : Nat} (patch : IsPatch cs n) :
    cs.count '.' = if cs = [] then 0 else 1 := by
  cases patch with
  | omitted => rfl
  | given number => simp [List.count_eq_zero.mpr (dot_not_mem_of_isNumber number)]

theorem isNumber_zero : IsNumber ['0'] 0 := ⟨by simp, by decide⟩

namespace Parts

variable {p : Parts} {v : Version}

def core (p : Parts) : List Char := p.major ++ '.' :: (p.minor ++ p.patch)

def suffix (p : Parts) : List Char := p.pre ++ p.build

theorem text_eq (p : Parts) : p.text = p.core ++ p.suffix := by
  simp [text, core, suffix]

theorem Spell.unsigned (spell : p.Spell v) : ∀ c ∈ p.core, isSign c = false := by
  intro c member
  rcases List.mem_append.mp member with major | later
  · exact unsigned_of_isDigit (isDigit_of_isNumber spell.major c major)
  rcases List.mem_cons.mp later with rfl | later
  · decide
  rcases List.mem_append.mp later with minor | patch
  · exact unsigned_of_isDigit (isDigit_of_isNumber spell.minor c minor)
  · exact spell.patch.unsigned c patch

theorem Spell.signed (spell : p.Spell v) : Clear (fun c => !isSign c) p.suffix :=
  spell.pre.clear (by decide)
    (List.append_nil p.build ▸ spell.build.clear (by decide) clear_nil)

theorem Spell.count_dot (spell : p.Spell v) :
    p.core.count '.' = if p.patch = [] then 1 else 2 := by
  have major := List.count_eq_zero.mpr (dot_not_mem_of_isNumber spell.major)
  have minor := List.count_eq_zero.mpr (dot_not_mem_of_isNumber spell.minor)
  rw [core, List.count_append, List.count_cons_self, List.count_append, major, minor,
    spell.patch.count_dot]
  split <;> rfl

/-- The same parts with a third number of zero. -/
def padded (p : Parts) : Parts := { p with patch := ['.', '0'] }

theorem Spell.pad (spell : p.Spell v) (without : p.patch = []) : p.padded.Spell v := by
  obtain ⟨major, minor, patch, pre, build⟩ := p
  obtain ⟨m, n, k, preText, buildText⟩ := v
  obtain ⟨isMajor, isMinor, isPatch, isPre, isBuild⟩ := spell
  obtain rfl := without
  cases isPatch
  exact ⟨isMajor, isMinor, .given isNumber_zero, isPre, isBuild⟩

theorem Spell.padPatch_text (spell : p.Spell v) :
    padPatch p.text = if p.patch = [] then p.padded.text else p.text := by
  rw [text_eq, padPatch_append spell.unsigned spell.signed, spell.count_dot]
  by_cases without : p.patch = []
  · rw [if_pos without, if_pos without, if_pos rfl]
    simp [text, core, suffix, padded, without]
  · rw [if_neg without, if_neg without, if_neg (by decide)]

/-- A zero behind the last dot is the third number, and the same version is spelled without it. -/
theorem Spell.unpad (spell : p.Spell v) (given : p.patch ≠ [])
    (zero : p.core = front ++ ['.', '0']) :
    ∃ p' : Parts, p'.Spell v ∧ p'.core = front ∧ p'.suffix = p.suffix := by
  obtain ⟨major, minor, patch, pre, build⟩ := p
  obtain ⟨m, n, k, preText, buildText⟩ := v
  obtain ⟨isMajor, isMinor, isPatch, isPre, isBuild⟩ := spell
  cases isPatch with
  | omitted => exact absurd rfl given
  | @given ds k number =>
    have cut : (major ++ '.' :: minor) ++ '.' :: ds = front ++ '.' :: ['0'] := by
      rw [← zero]
      simp [core]
    obtain ⟨whole, rfl⟩ := last_dot (dot_not_mem_of_isNumber number) (by decide) cut
    obtain rfl := Json.toDigits_inj (number.1.symm.trans isNumber_zero.1)
    refine ⟨⟨major, minor, [], pre, build⟩, ⟨isMajor, isMinor, .omitted, isPre, isBuild⟩, ?_, rfl⟩
    rw [← whole]
    simp [core]

end Parts

/-- A text is read as a version of a kubelet exactly if it is made of its parts, with or without the
third number. -/
theorem readChars_padPatch_iff {v : Version} : readChars (padPatch cs) = .ok v ↔
    ∃ p : Parts, p.text = cs ∧ p.Spell v := by
  constructor
  · intro read
    obtain ⟨p, text, spell, given⟩ := readChars_eq_ok_iff.mp read
    obtain ⟨front, back, rfl, unsigned, signed⟩ := exists_unsigned cs
    rw [padPatch_append unsigned signed] at text
    split at text
    -- the zero that was put in is all of the third number, and is left out again
    · have parts : p.core ++ p.suffix = (front ++ ['.', '0']) ++ back := by
        rw [← p.text_eq, text, List.append_assoc]
        rfl
      have unsigned' : ∀ c ∈ front ++ ['.', '0'], isSign c = false :=
        List.forall_mem_append.mpr ⟨unsigned, by simp [isSign]⟩
      obtain ⟨same, rfl⟩ := unsigned_unique spell.unsigned spell.signed unsigned' signed parts
      obtain ⟨p', spell, rfl, suffix⟩ := spell.unpad given same
      exact ⟨p', p'.text_eq.trans (congrArg _ suffix), spell⟩
    · exact ⟨p, text, spell⟩
  · rintro ⟨p, rfl, spell⟩
    rw [spell.padPatch_text]
    split
    · rename_i without
      exact readChars_eq_ok_iff.mpr ⟨p.padded, rfl, spell.pad without, by simp [Parts.padded]⟩
    · rename_i given
      exact readChars_eq_ok_iff.mpr ⟨p, rfl, spell, given⟩

/-- A text without the blanks around it and without the letters `v` before the rest. -/
def bare (s : String) : List Char := (Text.trimChars s.toList).dropWhile (· == 'v')

/-- Two numbers with a dot between them. -/
def IsTwoPart (front : List Char) : Prop :=
  ∃ a b, front = a ++ '.' :: b ∧ ∀ c ∈ a ++ b, isDigit c = true

/-- Digits and dots, at least one of them. -/
def IsNumeric (front : List Char) : Prop :=
  front ≠ [] ∧ ∀ c ∈ front, isDigit c = true ∨ c = '.'

theorem IsTwoPart.isNumeric (two : IsTwoPart front) : IsNumeric front := by
  obtain ⟨a, b, rfl, digits⟩ := two
  obtain ⟨first, last⟩ := List.forall_mem_append.mp digits
  refine ⟨by simp, List.forall_mem_append.mpr ⟨fun c member => .inl (first c member), ?_⟩⟩
  exact List.forall_mem_cons.mpr ⟨.inr rfl, fun c member => .inl (last c member)⟩

theorem IsTwoPart.count_dot (two : IsTwoPart front) : front.count '.' = 1 := by
  obtain ⟨a, b, rfl, digits⟩ := two
  obtain ⟨first, last⟩ := List.forall_mem_append.mp digits
  have before : a.count '.' = 0 :=
    List.count_eq_zero.mpr fun member => absurd (first '.' member) (by decide)
  have behind : b.count '.' = 0 :=
    List.count_eq_zero.mpr fun member => absurd (last '.' member) (by decide)
  rw [List.count_append, List.count_cons_self, before, behind]

theorem IsNumeric.unsigned (numeric : IsNumeric front) : ∀ c ∈ front, isSign c = false := by
  intro c member
  rcases numeric.2 c member with digit | rfl
  · exact unsigned_of_isDigit digit
  · decide

theorem IsNumeric.shown (numeric : IsNumeric front) : ∀ c ∈ front, Text.isBlank c = false := by
  intro c member
  rcases numeric.2 c member with digit | rfl
  · exact Text.nonblank_of_isDigit (isDigit_iff.mp digit)
  · decide

theorem IsNumeric.clear_v (numeric : IsNumeric front) (rest : List Char) :
    Clear (· == 'v') (front ++ rest) := by
  obtain ⟨c, t, rfl⟩ := List.exists_cons_of_ne_nil numeric.1
  intro d head
  obtain rfl := Option.some.inj head
  refine beq_false_of_ne ?_
  rintro rfl
  rcases numeric.2 'v' List.mem_cons_self with digit | dot
  · exact absurd digit (by decide)
  · cases dot

theorem bare_eq {before after rest : List Char} {s : String} {n : Nat}
    (blank : ∀ c ∈ before, Text.isBlank c = true) (blank' : ∀ c ∈ after, Text.isBlank c = true)
    (numeric : IsNumeric front)
    (text : s.toList = before ++ (List.replicate n 'v' ++ (front ++ rest)) ++ after) :
    bare s = front ++ Text.dropTrailingBlanks rest := by
  have leading : Clear Text.isBlank (List.replicate n 'v' ++ (front ++ rest)) := by
    cases n with
    | zero =>
      obtain ⟨c, t, rfl⟩ := List.exists_cons_of_ne_nil numeric.1
      exact clear_cons (numeric.shown c List.mem_cons_self) _
    | succ n => exact clear_cons (by decide) _
  have kept : Text.dropBlanks (List.replicate n 'v' ++ (front ++ rest)) =
      List.replicate n 'v' ++ (front ++ rest) :=
    dropWhile_of_clear (fun _ member => absurd member List.not_mem_nil) leading
  obtain ⟨a, c, rfl⟩ := (List.eq_nil_or_concat front).resolve_left numeric.1
  rw [List.concat_eq_append] at *
  have ended : Text.dropTrailingBlanks (List.replicate n 'v' ++ ((a ++ [c]) ++ rest)) =
      List.replicate n 'v' ++ ((a ++ [c]) ++ Text.dropTrailingBlanks rest) := by
    have shown := numeric.shown c (by simp)
    have whole := Text.dropTrailingBlanks_shown_append shown (List.replicate n 'v' ++ a) rest
    simpa using whole
  rw [bare, text, Text.trimChars_append_blank blank', Text.trimChars_blank_append blank,
    Text.trimChars, kept, ended]
  exact dropWhile_of_clear (by simp) (numeric.clear_v _)

theorem shown_of_isSign {c : Char} (sign : isSign c = true) : Text.isBlank c = false := by
  rw [isSign, Bool.or_eq_true, beq_iff_eq, beq_iff_eq] at sign
  rcases sign with rfl | rfl <;> decide

theorem signed_dropTrailingBlanks (signed : ∀ c, back.head? = some c → isSign c = true) :
    Clear (fun c => !isSign c) (Text.dropTrailingBlanks back) := by
  cases back with
  | nil => exact clear_nil
  | cons c rest =>
    have sign := signed c rfl
    have kept := Text.dropTrailingBlanks_shown_append (shown_of_isSign sign) [] rest
    rw [List.nil_append] at kept
    rw [kept]
    exact clear_cons (by simp [sign]) _

/-- A third number of zero can be put in before what follows the first two. -/
theorem readKubelet_insert {before after back : List Char} {s s' : String} {n : Nat}
    (blank : ∀ c ∈ before, Text.isBlank c = true) (blank' : ∀ c ∈ after, Text.isBlank c = true)
    (two : IsTwoPart front) (signed : ∀ c, back.head? = some c → isSign c = true)
    (text : s.toList = before ++ (List.replicate n 'v' ++ (front ++ back)) ++ after)
    (text' : s'.toList =
      before ++ (List.replicate n 'v' ++ (front ++ '.' :: '0' :: back)) ++ after) :
    readKubelet s = readKubelet s' := by
  have longer : IsNumeric (front ++ ['.', '0']) := by
    refine ⟨by simp, List.forall_mem_append.mpr ⟨two.isNumeric.2, ?_⟩⟩
    simp [isDigit]
  have signed' := signed_dropTrailingBlanks signed
  have text'' : s'.toList =
      before ++ (List.replicate n 'v' ++ ((front ++ ['.', '0']) ++ back)) ++ after := by
    simpa using text'
  have first := bare_eq blank blank' two.isNumeric text
  have second := bare_eq blank blank' longer text''
  show readChars (padPatch (bare s)) = readChars (padPatch (bare s'))
  rw [first, second, padPatch_append two.isNumeric.unsigned signed',
    padPatch_append longer.unsigned signed', if_pos two.count_dot, if_neg]
  · simp
  · rw [List.count_append, two.count_dot]
    decide

end MachineFleet.Version

namespace MachineFleet

/-- A version of a kubelet is read exactly if, without the blanks around it and the letters `v`
before it, it is made of the parts of a version, of which the third number may be missing and then
is zero. So it is the same, whatever follows the first two numbers, if a zero is put in as the
third. -/
theorem kubelet_versions_are_read :
    (∀ s v, readKubeletVersion s = .ok v ↔ ∃ p : Version.Parts,
      p.text = (Text.trimChars s.toList).dropWhile (· == 'v') ∧ p.Spell v) ∧
    ∀ (before front back after : List Char) (n : Nat) (s s' : String),
      (∀ c ∈ before ++ after, Text.isBlank c = true) → Version.IsTwoPart front →
      (∀ c, back.head? = some c → c = '-' ∨ c = '+') →
      s.toList = before ++ (List.replicate n 'v' ++ (front ++ back)) ++ after →
      s'.toList = before ++ (List.replicate n 'v' ++ (front ++ '.' :: '0' :: back)) ++ after →
      (∀ v, readKubeletVersion s = .ok v ↔ readKubeletVersion s' = .ok v) ∧
      ∀ fault, readKubeletVersion s = .error (.invalidKubeletVersion s fault) ↔
        readKubeletVersion s' = .error (.invalidKubeletVersion s' fault) := by
  refine ⟨fun s v => mapError_eq_ok_iff.trans Version.readChars_padPatch_iff, ?_⟩
  intro before front back after n s s' blank two signed text text'
  obtain ⟨blank, blank'⟩ := List.forall_mem_append.mp blank
  have same : Version.readKubelet s = Version.readKubelet s' :=
    Version.readKubelet_insert blank blank' two (by simpa [Version.isSign] using signed) text text'
  unfold readKubeletVersion
  rw [same]
  refine ⟨fun v => by rw [mapError_eq_ok_iff, mapError_eq_ok_iff], fun fault => ?_⟩
  rw [mapError_eq_error_iff, mapError_eq_error_iff]
  simp

/-- The suffix has dots, hyphens and a segment of digits with leading zeros. -/
theorem candidate_is_read :
    Version.IsTwoPart "1.24".toList ∧
    (∃ p : Version.Parts, p.text = "1.24-rc.1-0+b-2.007".toList ∧
      p.Spell ⟨1, 24, 0, "rc.1-0", "b-2.007"⟩) ∧
    readKubeletVersion " v1.24.0-rc.1-0+b-2.007" = .ok ⟨1, 24, 0, "rc.1-0", "b-2.007"⟩ := by
  have two : Version.IsTwoPart "1.24".toList := ⟨['1'], ['2', '4'], rfl, by simp [Version.isDigit]⟩
  have without : readKubeletVersion " v1.24-rc.1-0+b-2.007" =
      .ok ⟨1, 24, 0, "rc.1-0", "b-2.007"⟩ := by decide +kernel
  obtain ⟨read, insert⟩ := kubelet_versions_are_read
  have same := insert [' '] "1.24".toList "-rc.1-0+b-2.007".toList [] 1 " v1.24-rc.1-0+b-2.007"
    " v1.24.0-rc.1-0+b-2.007" (by simp [Text.isBlank]) two (by simp) rfl rfl
  exact ⟨two, (read _ _).mp without, (same.1 _).mp without⟩

end MachineFleet
