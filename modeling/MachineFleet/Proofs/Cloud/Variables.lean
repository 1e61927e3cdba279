import MachineFleet.ConfigVar
import MachineFleet.Proofs.Json.Reading
import MachineFleet.Proofs.Json.Sorting

/-!
Variables are read back as they were written: as a bare literal, as null where a switch is unset,
and as a record of what there is where there is a reference.
-/

namespace MachineFleet

open Json RecordReader

section Variables

variable {α : Type} {type : String} {empty a : α} {literal : Reader α} {record : RecordReader α}
  {j : Json}

/-- No document is unsound, so the two shapes are tried. -/
theorem decode_variable_iff (present : j ≠ .null) :
    decode (readVariable type empty literal record) j = .ok a ↔
      (Reader.attempt literal (.ofJson j)).or
        (Reader.attempt (record.read "Variable") (.ofJson j)) = some a := by
  have other : Document.ofJson j = .null → False := by
    cases j with
    | null => exact absurd rfl present
    | _ => exact nofun
  rw [decode, readVariable, any_ofJson]
  · constructor
    · intro read
      obtain ⟨_, -, tried⟩ := ok_of_bind read
      split at tried
      case h_1 found =>
        cases tried
        exact found
      case h_2 => cases tried
    · intro found
      rw [found]
      rfl
  · exact other

theorem decode_variable_of_literal (present : j ≠ .null) (value : decode literal j = .ok a) :
    decode (readVariable type empty literal record) j = .ok a :=
  (decode_variable_iff present).mpr
    (Option.or_eq_some_iff.mpr (.inl (toOption_eq_some_iff.mpr value)))

theorem decode_variable_of_record {members : List (String × Json)} {e : DecodeError}
    (other : decode literal (.obj members) = .error e)
    (value : decode (record.read "Variable") (.obj members) = .ok a) :
    decode (readVariable type empty literal record) (.obj members) = .ok a :=
  (decode_variable_iff (by nofun)).mpr
    (Option.or_eq_some_iff.mpr
      (.inr ⟨congrArg Except.toOption other, toOption_eq_some_iff.mpr value⟩))

theorem steady_variable (first : ∀ j, decode literal j.sorted = decode literal j)
    (second : Json.Steady (record.read "Variable")) :
    Json.Steady (readVariable type empty literal record) := by
  intro j a read
  by_cases absent : j = .null
  · rw [absent] at read ⊢
    exact read
  have present : j.sorted ≠ .null := by
    cases j with
    | null => exact absurd rfl absent
    | _ => exact nofun
  have same : Reader.attempt literal (.ofJson j.sorted) = Reader.attempt literal (.ofJson j) :=
    congrArg Except.toOption (first j)
  refine (decode_variable_iff present).mpr ?_
  rw [same]
  rcases Option.or_eq_some_iff.mp ((decode_variable_iff absent).mp read) with found | ⟨none, found⟩
  · exact Option.or_eq_some_iff.mpr (.inl found)
  · exact Option.or_eq_some_iff.mpr (.inr ⟨none, toOption_eq_some_iff.mpr
      (second j a (toOption_eq_some_iff.mp found))⟩)

end Variables

namespace KeyRef

theorem decode_toJson (r : KeyRef) : decode reader r.toJson = .ok r := rfl

theorem readable (r : KeyRef) (levels : Nat) : Readable (levels + 1) r.toJson :=
  ⟨Nat.succ_pos levels, trivial, trivial, trivial, trivial⟩

theorem steady_reader : Json.Steady reader :=
  (((Steady.of KeyRef.mk).member steady_string "namespace").member steady_string "name").member
    steady_string "key" |>.read "KeySelector"

theorem field (name : String) (r : Option KeyRef) :
    Field name (.option reader) (some none) (Json.optional name (r.map toJson)) r :=
  .optional decode_toJson (fun _ => nofun) name r

end KeyRef

theorem References.eq_of_isNone {refs : References} (bare : refs.isNone = true) : refs = {} := by
  obtain ⟨secret, configMap⟩ := refs
  cases secret <;> cases configMap <;> first | rfl | cases bare

theorem References.readable (refs : References) (levels : Nat) :
    ∀ field ∈ refs.members, FieldReadable (levels + 1) field := by
  unfold members
  simp only [List.forall_mem_cons]
  exact ⟨.optional (KeyRef.readable · levels) _, .optional (KeyRef.readable · levels) _, nofun⟩

namespace StringVar

theorem decode_toJson (v : StringVar) : decode reader v.toJson = .ok v := by
  unfold toJson
  split
  · rename_i bare
    refine decode_variable_of_literal nofun (congrArg Except.ok ?_)
    rw [literal, ← References.eq_of_isNone bare]
  · have value : Field "value" .string (some "")
        (Json.optional "value" (if v.value.isEmpty then none else some (.str v.value)))
        v.value := by
      split
      · rename_i empty
        exact .missing (congrArg some (String.isEmpty_iff.mp empty).symm)
      · exact .present rfl
    have spells := (((Spells.of fun v s c => StringVar.mk v ⟨s, c⟩).member value).member
      (KeyRef.field "secretKeyRef" v.refs.secret)).member
      (KeyRef.field "configMapKeyRef" v.refs.configMap)
    exact decode_variable_of_record rfl (spells.read (by decide) "Variable")

theorem readable (v : StringVar) (levels : Nat) : Readable (levels + 2) v.toJson := by
  unfold toJson
  split
  · trivial
  · refine readable_objOf (List.forall_mem_cons.mpr ⟨?_, v.refs.readable levels⟩)
    split
    · exact nofun
    · exact .present trivial

theorem field (name : String) (v : StringVar) :
    Field name reader (some {}) (some (name, v.toJson)) v :=
  .orElse name {} (decode_toJson v)

theorem field_list (name : String) (vs : List StringVar) :
    Field name (.list reader) (some [])
      (if vs.isEmpty then none else some (name, .arr (vs.map toJson))) vs :=
  .unless (decode_list decode_toJson vs) fun empty => (List.isEmpty_iff.mp empty).symm

theorem steady_reader : Json.Steady reader := by
  refine steady_variable (fun j => by cases j <;> rfl) ?_
  exact (((Steady.of _).member steady_string "value").member KeyRef.steady_reader.option
    "secretKeyRef").member KeyRef.steady_reader.option "configMapKeyRef" |>.read "Variable"

end StringVar

namespace BoolVar

theorem decode_toJson (v : BoolVar) : decode reader v.toJson = .ok v := by
  unfold toJson
  split
  · rename_i bare
    obtain ⟨value, refs⟩ := v
    obtain rfl : refs = {} := References.eq_of_isNone bare
    cases value with
    | none => rfl
    | some b => exact decode_variable_of_literal nofun rfl
  · have value : Field "value" (.option .bool) (some none)
        (Json.optional "value" (v.value.map .bool)) v.value :=
      .optional (fun _ => rfl) (by nofun) "value" v.value
    have spells := (((Spells.of fun v s c => BoolVar.mk v ⟨s, c⟩).member value).member
      (KeyRef.field "secretKeyRef" v.refs.secret)).member
      (KeyRef.field "configMapKeyRef" v.refs.configMap)
    exact decode_variable_of_record rfl (spells.read (by decide) "Variable")

theorem readable (v : BoolVar) (levels : Nat) : Readable (levels + 2) v.toJson := by
  unfold toJson
  split
  · unfold valueJson
    split <;> trivial
  · exact readable_objOf
      (List.forall_mem_cons.mpr ⟨.optional (readable_bool _) _, v.refs.readable levels⟩)

theorem field (name : String) (v : BoolVar) :
    Field name reader (some {}) (some (name, v.toJson)) v :=
  .orElse name {} (decode_toJson v)

theorem steady_reader : Json.Steady reader := by
  refine steady_variable (fun j => by cases j <;> rfl) ?_
  exact (((Steady.of _).member steady_bool.option "value").member KeyRef.steady_reader.option
    "secretKeyRef").member KeyRef.steady_reader.option "configMapKeyRef" |>.read "Variable"

end BoolVar

end MachineFleet
